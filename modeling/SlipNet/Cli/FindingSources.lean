import SlipNet.Cli.RiskReports
import SlipNet.Cli.SessionHistory

/-!
# Where findings come from

`vuln|:scan` and `cred|:check` read the stored services and nothing else.  In a
session such a service is what the last detection to find one identified behind
a port, and that port was the last scan's word open when it was tried.  So the
findings of both reports are those that these detections raise.
-/

namespace SlipNet.Cli

open SlipNet.Foundation
open SlipNet.Standard
open SlipNet.Core
open SlipNet.Scanning
open SlipNet.Services
open SlipNet.Security

/-! ## The last detection -/

/-- The turn, after these turns, tried the port, which the last scan to report
on it had found open, and stored what it identified there. -/
structure Detects (before : List (Session × Turn)) (past : Session)
    (turn : Turn) (ip : Str) (port : Int) (record : ServiceInfo) : Prop where
  probes : ∃ ports, turn.detection? past.context.network = some (ip, ports) ∧
    port ∈ ports
  reportedOpen : LastReportedOpen before ip port
  identified : (detect turn.outcome.peers ip port).detected = true
  stored : record = detectedInfo ip (detect turn.outcome.peers ip port)

/-- Since then nothing was detected there, and the tables were not emptied. -/
def LastDetected (trace : List (Session × Turn)) (ip : Str) (port : Int)
    (record : ServiceInfo) : Prop :=
  ∃ before past turn after, trace = before ++ (past, turn) :: after ∧
    Detects before past turn ip port record ∧
    ∀ entry ∈ after, serviceWrites ip port entry.1 entry.2 = none

variable {std : SortRoutine Port} {session : Session} {turn : Turn}
  {trace : List (Session × Turn)} {network : NetworkState} {ip : Str}
  {port : Int} {ports : List Int} {record : ServiceInfo}

theorem port_of_detected {peers : Str → Int → Peer}
    (h : (detect peers ip port).detected = true) :
    (detect peers ip port).port = port := by
  rw [detect] at h ⊢
  split_ifs at h ⊢
  exact (identify_fields port _).1

theorem latest_detectAll_eq_some_iff {peers : Str → Int → Peer}
    {service : Service} :
    latest Service.port (detectAll peers ip ports) port = some service ↔
      port ∈ ports ∧ service.detected = true ∧
        service = detect peers ip port := by
  have hfound : ∀ {service : Service},
      latest Service.port (detectAll peers ip ports) port = some service →
        port ∈ ports ∧ service.detected = true ∧
          service = detect peers ip port := by
    intro service h
    obtain ⟨hmem, hdetected⟩ :=
      List.mem_filter.mp (List.mem_reverse.mp (mem_of_lookup h))
    obtain ⟨tried, htried, rfl⟩ := List.mem_map.mp hmem
    obtain rfl : tried = port :=
      (port_of_detected hdetected).symm.trans (key_of_lookup h)
    exact ⟨htried, hdetected, rfl⟩
  refine ⟨hfound, ?_⟩
  rintro ⟨hport, hdetected, rfl⟩
  have hmem : detect peers ip port ∈ detectAll peers ip ports :=
    List.mem_filter.mpr ⟨List.mem_map_of_mem hport, hdetected⟩
  have hkey := List.mem_map_of_mem (f := Service.port) hmem
  rw [port_of_detected hdetected] at hkey
  obtain ⟨other, hlatest, _⟩ := exists_latest_of_mem hkey
  rw [hlatest, (hfound hlatest).2.2]

theorem resets_of_detection? {host : Str}
    (h : turn.detection? network = some (host, ports)) :
    turn.resets = false := by
  unfold Turn.detection? at h
  rw [Turn.resets]
  split at h
  · next command _ =>
      split at h
      · next htype => simp [htype]
      · cases h
  · cases h

theorem serviceWrites_eq_some_iff :
    serviceWrites ip port session turn = some (some record) ↔
      ∃ ports, turn.detection? session.context.network = some (ip, ports) ∧
        port ∈ ports ∧
        (detect turn.outcome.peers ip port).detected = true ∧
        record = detectedInfo ip (detect turn.outcome.peers ip port) := by
  constructor
  · intro h
    rw [serviceWrites, Turn.detected] at h
    split_ifs at h with hresets
    · cases h
    cases hdetection : turn.detection? session.context.network with
    | none =>
        rw [hdetection] at h
        cases h
    | some request =>
        obtain ⟨host, ports⟩ := request
        rw [hdetection] at h
        dsimp only at h
        split_ifs at h with hip
        · obtain ⟨service, hlatest, hrecord⟩ := Option.map_eq_some_iff.mp h
          obtain ⟨hport, hdetected, rfl⟩ :=
            latest_detectAll_eq_some_iff.mp hlatest
          cases hrecord
          exact ⟨ports, by rw [hip], hport, by rwa [hip], by rw [hip]⟩
        · cases h
  · rintro ⟨ports, hdetection, hport, hdetected, rfl⟩
    have hlatest := latest_detectAll_eq_some_iff.mpr
      ⟨hport, hdetected, rfl⟩
    rw [serviceWrites, Turn.detected, resets_of_detection? hdetection,
      hdetection]
    simp [hlatest]

theorem lastWrite_serviceWrites_iff
    (run : Run (SessionStep std) {} trace session) :
    LastWrite (serviceWrites ip port) trace (some record) ↔
      LastDetected trace ip port record := by
  constructor
  · rintro ⟨before, past, turn, after, htrace, hwrites, hafter⟩
    obtain ⟨ports, hdetection, hport, hdetected, hrecord⟩ :=
      serviceWrites_eq_some_iff.mp hwrites
    have hopen := (probed_iff run htrace hdetection port).mp hport
    exact ⟨before, past, turn, after, htrace,
      ⟨⟨ports, hdetection, hport⟩, hopen, hdetected, hrecord⟩, hafter⟩
  · rintro ⟨before, past, turn, after, htrace, hdetects, hafter⟩
    obtain ⟨ports, hdetection, hport⟩ := hdetects.probes
    exact ⟨before, past, turn, after, htrace, serviceWrites_eq_some_iff.mpr
      ⟨ports, hdetection, hport, hdetects.identified, hdetects.stored⟩, hafter⟩

/-! ## The two reports -/

def Concerns (arguments : List Str) (ip : Str) : Prop :=
  ∀ target ∈ arguments.head?, ip = target

theorem of_bind_return {ε α β : Type} {request : Except ε α} {answer : α → β}
    {value : β} (h : (do let asked ← request; return answer asked) =
      (.ok value : Except ε β)) :
    ∃ asked, request = .ok asked ∧ value = answer asked := by
  cases request with
  | error message => cases h
  | ok asked =>
      cases h
      exact ⟨asked, rfl, rfl⟩

theorem of_serviceTargets {command : String} {closing : Str}
    {arguments : List Str} {targets : List ServiceInfo}
    (h : serviceTargets command closing network arguments = .ok targets) :
    targets.Sublist network.getServices ∧ ∀ service, service ∈ targets ↔
      service ∈ network.getServices ∧ Concerns arguments service.ip := by
  unfold serviceTargets at h
  split at h
  · cases h
  · split at h
    · cases h
      exact ⟨.refl _, by simp [Concerns]⟩
    · dsimp only at h
      split at h
      · cases h
      · cases h
        exact ⟨List.filter_sublist, by simp [Concerns]⟩

theorem exists_target_iff {host : Str} {Raises : ServiceInfo → Prop}
    {command : String} {closing : Str} {arguments : List Str}
    {targets : List ServiceInfo}
    (run : Run (SessionStep std) {} trace session)
    (h : serviceTargets command closing session.context.network arguments =
      .ok targets)
    (hendpoint : ∀ service, Raises service → (host, port) = service.endpoint) :
    (∃ service ∈ targets, Raises service) ↔ Concerns arguments host ∧
      ∃ record, LastDetected trace host port record ∧ Raises record := by
  have hkeyed := wellKeyed_of_session run
  simp only [← lastWrite_serviceWrites_iff run, ← stored_service_iff run,
    (of_serviceTargets h).2]
  constructor
  · rintro ⟨service, ⟨hservice, hconcerns⟩, hraises⟩
    obtain ⟨rfl, rfl⟩ := Prod.mk.inj (hendpoint service hraises)
    exact ⟨hconcerns, service,
      lookup_eq_some_of_mem hkeyed.services_nodup hservice, hraises⟩
  · rintro ⟨hconcerns, record, hlookup, hraises⟩
    obtain ⟨rfl, rfl⟩ := Prod.mk.inj (hendpoint record hraises)
    exact ⟨record, ⟨mem_of_lookup hlookup, hconcerns⟩, hraises⟩

theorem mem_vulnScan_iff {std : SortRoutine VulnerabilityFinding}
    {services : List ServiceInfo} {finding : VulnerabilityFinding}
    (hdistinct : (services.map ServiceInfo.endpoint).Nodup) :
    finding ∈ VulnerabilityScanner.scan std services ↔
      ∃ service ∈ services, finding ∈ firsts VulnerabilityScanner.findingKey
        (VulnerabilityScanner.raised service) := by
  rw [VulnerabilityScanner.mem_scan_iff_of_distinct std hdistinct]
  simp only [mem_firsts_iff]

theorem mem_credCheck_iff {std : SortRoutine CredentialFinding}
    {services : List ServiceInfo} {finding : CredentialFinding} :
    finding ∈ CredentialChecker.check std services ↔
      ∃ service ∈ services, finding ∈ CredentialChecker.raised service := by
  rw [CredentialChecker.check, std.mem_sort
    CredentialChecker.riskOrder_strictWeakOrder,
    foldl_appends CredentialChecker.checkService_eq [], List.nil_append,
    List.mem_flatMap]

/-- In any session the two commands report exactly what the last detections
raise; nothing reported comes from anywhere else. -/
theorem findings_traced (vulnStd : SortRoutine VulnerabilityFinding)
    (credStd : SortRoutine CredentialFinding)
    (run : Run (SessionStep std) {} trace session) (arguments : List Str) :
    (∀ findings, handleVulnScan vulnStd session.context.network arguments =
        .ok findings →
      ∀ finding, finding ∈ findings ↔ Concerns arguments finding.host ∧
        ∃ record, LastDetected trace finding.host finding.port record ∧
          finding ∈ firsts VulnerabilityScanner.findingKey
            (VulnerabilityScanner.raised record)) ∧
    ∀ findings, handleCredCheck credStd session.context.network arguments =
        .ok findings →
      ∀ finding, finding ∈ findings ↔ Concerns arguments finding.host ∧
        ∃ record, LastDetected trace finding.host finding.port record ∧
          finding ∈ CredentialChecker.raised record := by
  constructor
  · intro findings h finding
    obtain ⟨targets, htargets, rfl⟩ := of_bind_return h
    have hdistinct := (wellKeyed_of_session run).services_nodup.sublist
      ((of_serviceTargets htargets).1.map _)
    rw [mem_vulnScan_iff hdistinct]
    exact exists_target_iff run htargets fun service hraises =>
      VulnerabilityScanner.endpoint_of_mem_raised
        (mem_of_lookup (mem_firsts_iff.mp hraises))
  · intro findings h finding
    rw [handleCredCheck] at h
    split at h
    · cases h
    obtain ⟨targets, htargets, rfl⟩ := of_bind_return h
    rw [mem_credCheck_iff]
    exact exists_target_iff run htargets fun _ hraises =>
      CredentialChecker.endpoint_of_mem_raised hraises

/-- The port is found closed after the detection, and the finding stays. -/
theorem findings_traced_scannedTwice :
    ∃ trace findings,
      Run (SessionStep (.merge Port)) {} trace (scannedTwice false) ∧
      handleVulnScan (.merge VulnerabilityFinding)
        (scannedTwice false).context.network [] = .ok findings ∧
      ∃ finding ∈ findings, ∃ record,
        LastDetected trace finding.host finding.port record := by
  have hraised : ((scannedTwice false).context.network.getServices.foldl
      VulnerabilityScanner.checkService []).foldl
        VulnerabilityScanner.keepFirst [] ≠ [] := by decide
  obtain ⟨finding, hunique⟩ := List.exists_mem_of_ne_nil _ hraised
  have hfinding := (SortRoutine.mem_sort (.merge VulnerabilityFinding)
    VulnerabilityScanner.riskOrder_strictWeakOrder).mpr hunique
  have run := run_scannedTwice false
  obtain ⟨_, record, hdetected, _⟩ :=
    ((findings_traced (.merge VulnerabilityFinding) (.merge CredentialFinding)
      run []).1 _ rfl finding).mp hfinding
  exact ⟨_, _, run, rfl, finding, hfinding, record, hdetected⟩

end SlipNet.Cli
