import SlipNet.Cli.Session
import SlipNet.Security.StatedExposure

/-!
# Stored services and the port records

`svc|:detect` stores services for ports that are recorded as open.  A later
scan overwrites the port records and leaves the services alone, so a service
stays behind when its port is found closed.  The services stay backed by open
records exactly if no scan reports a service's port as closed; as long as they
are, so is every statement of the two security reports.
-/

namespace SlipNet.Cli

open SlipNet.Foundation
open SlipNet.Standard
open SlipNet.Core
open SlipNet.Network
open SlipNet.Scanning
open SlipNet.Services
open SlipNet.Security

def RecordedOpen (network : NetworkState) (ip : Str) (port : Int) : Prop :=
  ∃ record ∈ network.getPorts ip, record.port = port ∧ record.isOpen = true

/-- Every stored service has an open port, and every finding that states that
a port is open is backed by that port's record. -/
structure ServicesBacked (vulnStd : SortRoutine VulnerabilityFinding)
    (credStd : SortRoutine CredentialFinding) (network : NetworkState) :
    Prop where
  services : ∀ service ∈ network.getServices,
    RecordedOpen network service.ip service.port
  vulnFindings : ∀ arguments findings,
    handleVulnScan vulnStd network arguments = .ok findings →
      ∀ finding ∈ findings, ∀ port, StatesOpen finding.evidence port →
        RecordedOpen network finding.host port
  credFindings : ∀ arguments findings,
    handleCredCheck credStd network arguments = .ok findings →
      ∀ finding ∈ findings, ∀ port, StatesOpen finding.evidence port →
        RecordedOpen network finding.host port

/-- No port scan reports a port as closed on which a service is stored. -/
def ClosesNoService (session : Session) (turn : Turn) : Prop :=
  ∀ host job, turn.scan? = some (host, job) →
    ∀ result ∈ turn.outcome.results, result.isOpen = false →
      (host, result.number) ∉
        session.context.network.getServices.map ServiceInfo.endpoint

/-! ## The findings -/

variable {vulnStd : SortRoutine VulnerabilityFinding}
  {credStd : SortRoutine CredentialFinding} {network after : NetworkState}

theorem servicesBacked_iff
    (hdetections : ∀ service ∈ network.getServices, IsDetection service) :
    ServicesBacked vulnStd credStd network ↔
      ∀ service ∈ network.getServices,
        RecordedOpen network service.ip service.port := by
  constructor
  · exact ServicesBacked.services
  · intro hservices
    have hbacked : ∀ {host evidence port}, (∃ service ∈ network.getServices,
        IsAbout service host port evidence) →
        ∀ stated, StatesOpen evidence stated →
          RecordedOpen network host stated := by
      rintro host evidence port ⟨service, hservice, rfl, rfl, hown⟩ stated
        hstated
      rw [hown stated hstated]
      exact hservices service hservice
    refine ⟨hservices, ?_, ?_⟩
    · intro arguments findings hfindings finding hfinding
      obtain ⟨targets, hsubset, rfl⟩ := of_handleVulnScan hfindings
      obtain ⟨service, hservice, habout⟩ := isAbout_of_mem_scan vulnStd
        (fun service hservice =>
          hdetections service (hsubset service hservice)) hfinding
      exact hbacked ⟨service, hsubset service hservice, habout⟩
    · intro arguments findings hfindings finding hfinding
      obtain ⟨targets, hsubset, rfl⟩ := of_handleCredCheck hfindings
      obtain ⟨service, hservice, habout⟩ :=
        isAbout_of_mem_check credStd hfinding
      exact hbacked ⟨service, hsubset service hservice, habout⟩

/-! ## One turn -/

variable {std : SortRoutine Port} {turn : Turn} {session next : Session}

theorem detections_of_effect (h : Effect std network turn after)
    (hdetections : ∀ service ∈ network.getServices, IsDetection service) :
    ∀ service ∈ after.getServices, IsDetection service := by
  cases h with
  | keep => exact hdetections
  | seek surroundings => simp [getServices_discover]
  | scan host job => simpa using hdetections
  | detect host ports =>
      intro record hrecord
      rcases mem_getServices_storeServices hrecord with
        hold | ⟨service, hservice, rfl⟩
      · exact hdetections record hold
      · obtain ⟨port, _, response, rfl⟩ := exists_of_mem_detectAll hservice
        exact ⟨host, port, response, rfl⟩
  | clear => simp

theorem recordedOpen_storeResults {host ip : Str} {port : Int}
    {results : List Port} (h : RecordedOpen network ip port)
    (hresults : ip = host → ∀ result ∈ results, result.number = port →
      result.isOpen = true) :
    RecordedOpen (storeResults host results network) ip port := by
  induction results generalizing network with
  | nil => exact h
  | cons result results ih =>
      refine ih ?_ fun hip other hother =>
        hresults hip other (List.mem_cons_of_mem _ hother)
      obtain ⟨record, hrecord, hport, hopen⟩ := h
      rw [RecordedOpen, NetworkState.getPorts_addPort]
      split_ifs with hip
      · subst hip
        by_cases hnumber : result.number = port
        · exact ⟨result.info, mem_put_self _ _, hnumber,
            hresults rfl result List.mem_cons_self hnumber⟩
        · have hne : record.port ≠ result.info.port := fun heq =>
            hnumber (heq.symm.trans hport)
          exact ⟨record, mem_put_of_ne hrecord hne, hport, hopen⟩
      · exact ⟨record, hrecord, hport, hopen⟩

theorem not_recordedOpen_storeResults {host : Str} {results : List Port}
    (hkeyed : network.WellKeyed) (hnodup : (results.map Port.number).Nodup)
    {result : Port} (h : result ∈ results) (hclosed : result.isOpen = false) :
    ¬ RecordedOpen (storeResults host results network) host result.number := by
  rintro ⟨record, hrecord, hport, hopen⟩
  have hsame : record = result.info :=
    List.inj_on_of_nodup_map
      ((wellKeyed_storeResults hkeyed host results).getPorts_nodup host)
      hrecord (info_mem_getPorts_storeResults hnodup h) hport
  rw [hsame] at hopen
  exact Bool.false_ne_true (hclosed.symm.trans hopen)

theorem recordedOpen_of_detect {host : Str} {ports : List Int}
    {peers : Str → Int → Peer} {service : Service}
    (hports : ports = openPorts (network.getPorts host))
    (h : service ∈ detectAll peers host ports) :
    RecordedOpen network host service.port := by
  obtain ⟨port, hport, response, rfl⟩ := exists_of_mem_detectAll h
  rw [(identify_fields port response).1]
  subst hports
  obtain ⟨record, hrecord, rfl⟩ := List.mem_map.mp hport
  obtain ⟨hmem, hopen⟩ := List.mem_filter.mp hrecord
  exact ⟨record, hmem, rfl, hopen⟩

theorem backed_iff_of_effect (h : Effect std network turn after)
    (hkeyed : network.WellKeyed)
    (hbacked : ∀ service ∈ network.getServices,
      RecordedOpen network service.ip service.port) :
    (∀ service ∈ after.getServices,
        RecordedOpen after service.ip service.port) ↔
      ∀ host job, turn.scan? = some (host, job) →
        ∀ result ∈ turn.outcome.results, result.isOpen = false →
          (host, result.number) ∉
            network.getServices.map ServiceInfo.endpoint := by
  have hvacuous : turn.scan? = none → ∀ host job,
      turn.scan? = some (host, job) →
        ∀ result ∈ turn.outcome.results, result.isOpen = false →
          (host, result.number) ∉
            network.getServices.map ServiceInfo.endpoint := by
    intro hnone host job hscan
    rw [hnone] at hscan
    cases hscan
  cases h with
  | keep h => exact iff_of_true hbacked (hvacuous h)
  | seek surroundings h =>
      exact iff_of_true (by simp [getServices_discover]) (hvacuous h)
  | scan host job h hreturns =>
      rw [getServices_storeResults]
      constructor
      · intro hafter host' job' hscan result hresult hclosed hstored
        obtain ⟨rfl, rfl⟩ :=
          Prod.mk.inj (Option.some.inj (h.symm.trans hscan))
        obtain ⟨service, hservice, hendpoint⟩ := List.mem_map.mp hstored
        obtain ⟨rfl, hport⟩ := Prod.mk.inj hendpoint
        have hopen := hafter service hservice
        rw [hport] at hopen
        exact not_recordedOpen_storeResults hkeyed hreturns.nodup_numbers
          hresult hclosed hopen
      · intro hmeets service hservice
        refine recordedOpen_storeResults (hbacked service hservice) ?_
        intro hip result hresult hnumber
        by_contra hclosed
        rw [Bool.not_eq_true] at hclosed
        refine hmeets host job h result hresult hclosed
          (List.mem_map.mpr ⟨service, hservice, ?_⟩)
        rw [ServiceInfo.endpoint, hip, hnumber]
  | detect host ports arguments h hrequest =>
      refine iff_of_true (fun record hrecord => ?_) (hvacuous h)
      rw [RecordedOpen, getPorts_storeServices]
      rcases mem_getServices_storeServices hrecord with
        hold | ⟨service, hservice, rfl⟩
      · exact hbacked record hold
      · exact recordedOpen_of_detect (of_detectionRequest hrequest).2 hservice
  | clear h => exact iff_of_true (by simp) (hvacuous h)

/-! ## Whole sessions -/

structure Sound (network : NetworkState) : Prop where
  keyed : network.WellKeyed
  detections : ∀ service ∈ network.getServices, IsDetection service

theorem sound_of_step (h : SessionStep std session turn next)
    (hsound : Sound session.context.network) : Sound next.context.network where
  keyed := wellKeyed_of_step h hsound.keyed
  detections := detections_of_effect (effect_of_step h) hsound.detections

theorem servicesBacked_iff_of_step (hsound : Sound session.context.network)
    (hbacked : ServicesBacked vulnStd credStd session.context.network)
    (h : SessionStep std session turn next) :
    ServicesBacked vulnStd credStd next.context.network ↔
      ClosesNoService session turn := by
  rw [servicesBacked_iff (sound_of_step h hsound).detections]
  exact backed_iff_of_effect (effect_of_step h) hsound.keyed hbacked.services

theorem sound_start : Sound ({} : Session).context.network where
  keyed := .empty
  detections := by simp [NetworkState.getServices]

/-- The services stay backed by open port records, and with them the security
reports, in all states of a session exactly if none of its scans reports a
service's port as closed. -/
theorem servicesBacked_everywhere_iff {trace : List (Session × Turn)}
    (vulnStd : SortRoutine VulnerabilityFinding)
    (credStd : SortRoutine CredentialFinding)
    (run : Run (SessionStep std) {} trace session) :
    Everywhere (fun session =>
        ServicesBacked vulnStd credStd session.context.network) trace
      session ↔ Throughout ClosesNoService trace :=
  run.everywhere_iff (fun session => Sound session.context.network)
    (fun session => ServicesBacked vulnStd credStd session.context.network)
    ClosesNoService
    (fun _ _ _ hsound h => sound_of_step h hsound)
    (fun _ _ _ hsound hbacked h =>
      servicesBacked_iff_of_step hsound hbacked h)
    sound_start ((servicesBacked_iff sound_start.detections).mpr
      (by simp [NetworkState.getServices]))

/-! ## Two scans of a web server -/

def webServer : Peer := ⟨true, fun _ => "HTTP/1.0 200 OK\r\n".toList⟩

def scanWeb (isOpen : Bool) : Turn :=
  .typed "port|:scan 10.0.0.5 80-80" [⟨80, isOpen, .zero⟩] webServer

def detectWeb : Turn := .typed "svc|:detect 10.0.0.5" [] webServer

def scannedTwice (isOpen : Bool) : Session :=
  ((({} : Session).next (scanWeb true)).next detectWeb).next (scanWeb isOpen)

theorem run_scannedTwice (isOpen : Bool) :
    Run (SessionStep (.merge Port)) {}
      [({}, scanWeb true), (({} : Session).next (scanWeb true), detectWeb),
        ((({} : Session).next (scanWeb true)).next detectWeb, scanWeb isOpen)]
      (scannedTwice isOpen) := by
  have returns := fun isOpen => returns_onePort (.merge Port)
    (by decide : (1 : Int) ≤ 80) (by decide) isOpen .zero
  have scanned := (Run.refl ({} : Session)).tail
    (step_of_scan (scanWeb true) rfl rfl (returns true))
  have detected := scanned.tail (step_of_no_scan detectWeb rfl rfl)
  exact detected.tail (step_of_scan (scanWeb isOpen) rfl rfl (returns isOpen))

theorem servicesBacked_everywhere_scannedTwice :
    ∃ trace, Run (SessionStep (.merge Port)) {} trace (scannedTwice true) ∧
      Everywhere (fun session => ServicesBacked (.merge VulnerabilityFinding)
        (.merge CredentialFinding) session.context.network) trace
        (scannedTwice true) := by
  refine ⟨_, run_scannedTwice true,
    (servicesBacked_everywhere_iff _ _ (run_scannedTwice true)).mpr ?_⟩
  simp [ClosesNoService, scanWeb, detectWeb, Turn.typed]

/-- The web server is gone at the second scan, and the report still states that
its port is open. -/
theorem not_servicesBacked_closedPort :
    ∃ trace session findings, Run (SessionStep (.merge Port)) {} trace session ∧
      handleVulnScan (.merge VulnerabilityFinding) session.context.network []
        = .ok findings ∧
      (∃ finding ∈ findings, StatesOpen finding.evidence 80 ∧
        ¬ RecordedOpen session.context.network finding.host 80) ∧
      ¬ ServicesBacked (.merge VulnerabilityFinding)
        (.merge CredentialFinding) session.context.network := by
  have hstale : ∃ finding ∈ (((scannedTwice false).context.network.getServices
      ).foldl VulnerabilityScanner.checkService []).foldl
        VulnerabilityScanner.keepFirst [],
      StatesOpen finding.evidence 80 ∧
        ¬ RecordedOpen (scannedTwice false).context.network finding.host 80 := by
    unfold RecordedOpen StatesOpen
    decide
  obtain ⟨finding, hunique, hstates, hclosed⟩ := hstale
  have hfinding := (SortRoutine.mem_sort (.merge VulnerabilityFinding)
    VulnerabilityScanner.riskOrder_strictWeakOrder).mpr hunique
  refine ⟨_, _, _, run_scannedTwice false, rfl,
    ⟨finding, hfinding, hstates, hclosed⟩, fun h => ?_⟩
  exact hclosed (h.vulnFindings [] _ rfl finding hfinding 80 hstates)

end SlipNet.Cli
