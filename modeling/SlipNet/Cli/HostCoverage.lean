import SlipNet.Cli.Session

/-!
# Stored records and the host list

The reports reach the port tables through the host list.  `ip|:seek` fills the
list, and `svc|:detect` wants a port table, but `port|:scan` stores its results
under whatever address it is given.  The tables stay within the host list
exactly if every scan that has results is one of a listed host.
-/

namespace SlipNet.Cli

open SlipNet.Foundation
open SlipNet.Standard
open SlipNet.Core
open SlipNet.Network
open SlipNet.Scanning

def HasRecords (network : NetworkState) (ip : Str) : Prop :=
  network.getPorts ip ≠ [] ∨ ∃ service ∈ network.getServices, service.ip = ip

def storedOpenPorts (network : NetworkState) : Nat :=
  (network.host_ports.flatMap HostPorts.ports).countP PortInfo.isOpen

/-- `sec|:detect`, for all hosts or for this one, analyses the host with all
its ports. -/
def Analysed (network : NetworkState) (ip : Str) : Prop :=
  ∀ arguments, arguments = [] ∨ arguments = [ip] →
    ∃ analyses, handleSecurityDetect network arguments = .ok analyses ∧
      ∃ analysis ∈ analyses, analysis.ip = ip ∧
        analysis.ports = network.getPorts ip

/-- Every address with records is in the host list, so that the reports count
every open port and every host with an open port is analysed. -/
structure HostsCover (network : NetworkState) : Prop where
  covered : ∀ ip, HasRecords network ip →
    ip ∈ network.getHosts.map HostInfo.ip
  shown : (handleNetworkShow network).openPortCount = storedOpenPorts network
  informed : (handleSessionInfo network).openPorts = storedOpenPorts network
  cleared : (handleNetworkClear network).1.openPortsBefore =
    storedOpenPorts network
  analysed : ∀ ip, (∃ port ∈ network.getPorts ip, port.isOpen = true) →
    Analysed network ip

def ScansListedHost (session : Session) (turn : Turn) : Prop :=
  ∀ host job, turn.scan? = some (host, job) → turn.outcome.results ≠ [] →
    host ∈ session.context.network.getHosts.map HostInfo.ip

/-! ## Counting through the host list -/

variable {network after : NetworkState}

theorem getPorts_of_mem_host_ports (hkeyed : network.WellKeyed)
    {entry : HostPorts} (h : entry ∈ network.host_ports) :
    network.getPorts entry.ip = entry.ports := by
  rw [NetworkState.getPorts, lookup_eq_some_of_mem hkeyed.host_ports_nodup h]

theorem countOpenPorts_eq (hkeyed : network.WellKeyed)
    (hcovered : ∀ ip, HasRecords network ip →
      ip ∈ network.getHosts.map HostInfo.ip) :
    countOpenPorts network = storedOpenPorts network := by
  let openCount : HostPorts → Nat := fun entry =>
    entry.ports.countP PortInfo.isOpen
  have hlookup : ∀ host : HostInfo,
      (network.getPorts host.ip).countP PortInfo.isOpen =
        (lookup HostPorts.ip host.ip network.host_ports).elim 0 openCount := by
    intro host
    rw [NetworkState.getPorts]
    cases lookup HostPorts.ip host.ip network.host_ports <;> rfl
  have hlisted : ∀ entry ∈ network.host_ports,
      entry.ip ∈ network.hosts.map HostInfo.ip := by
    intro entry hentry
    refine hcovered entry.ip (.inl ?_)
    rw [getPorts_of_mem_host_ports hkeyed hentry]
    exact hkeyed.ports_ne_nil entry hentry
  have hsum := sum_lookup openCount hkeyed.hosts_nodup hkeyed.host_ports_nodup
    hlisted
  rw [List.map_map] at hsum
  simp only [countOpenPorts, hlookup]
  exact hsum.trans List.countP_flatMap.symm

theorem hostsCover_iff (hkeyed : network.WellKeyed) :
    HostsCover network ↔ ∀ ip, HasRecords network ip →
      ip ∈ network.getHosts.map HostInfo.ip := by
  constructor
  · exact HostsCover.covered
  · intro hcovered
    have hcount := countOpenPorts_eq hkeyed hcovered
    refine ⟨hcovered, hcount, hcount, hcount, ?_⟩
    rintro ip ⟨port, hport, _⟩ arguments harguments
    exact exists_analysis
      (hcovered ip (.inl (List.ne_nil_of_mem hport))) harguments

/-! ## One turn -/

theorem hasRecords_storeResults {host ip : Str} {results : List Port} :
    HasRecords (storeResults host results network) ip ↔
      HasRecords network ip ∨ ip = host ∧ results ≠ [] := by
  rw [HasRecords, HasRecords, getPorts_storeResults_ne_nil_iff,
    getServices_storeResults]
  exact or_right_comm

theorem hasRecords_of_storeServices {host ip : Str}
    {services : List Services.Service} (hhost : network.getPorts host ≠ [])
    (h : HasRecords (storeServices host services network) ip) :
    HasRecords network ip := by
  rcases h with h | ⟨record, hrecord, rfl⟩
  · exact .inl (by rwa [getPorts_storeServices] at h)
  · rcases mem_getServices_storeServices hrecord with h | ⟨service, _, rfl⟩
    · exact .inr ⟨record, h, rfl⟩
    · exact .inl hhost

variable {std : SortRoutine Port} {turn : Turn} {session next : Session}

theorem covered_iff_of_effect (h : Effect std network turn after)
    (hcovered : ∀ ip, HasRecords network ip →
      ip ∈ network.getHosts.map HostInfo.ip) :
    (∀ ip, HasRecords after ip → ip ∈ after.getHosts.map HostInfo.ip) ↔
      ∀ host job, turn.scan? = some (host, job) →
        turn.outcome.results ≠ [] →
          host ∈ network.getHosts.map HostInfo.ip := by
  have hvacuous : turn.scan? = none → ∀ host job,
      turn.scan? = some (host, job) → turn.outcome.results ≠ [] →
        host ∈ network.getHosts.map HostInfo.ip := by
    intro hnone host job hscan
    rw [hnone] at hscan
    cases hscan
  cases h with
  | keep h => exact iff_of_true hcovered (hvacuous h)
  | seek surroundings h =>
      refine iff_of_true (fun ip hrecords => ?_) (hvacuous h)
      simp [HasRecords, getPorts_discover, getServices_discover] at hrecords
  | scan host job h hreturns =>
      rw [getHosts_storeResults]
      constructor
      · intro hafter host' job' hscan hresults
        obtain ⟨rfl, rfl⟩ :=
          Prod.mk.inj (Option.some.inj (h.symm.trans hscan))
        exact hafter host
          (hasRecords_storeResults.mpr (.inr ⟨rfl, hresults⟩))
      · intro hmeets ip hrecords
        rcases hasRecords_storeResults.mp hrecords with hold | ⟨rfl, hresults⟩
        · exact hcovered ip hold
        · exact hmeets ip job h hresults
  | detect host ports arguments h hrequest =>
      refine iff_of_true (fun ip hrecords => ?_) (hvacuous h)
      rw [getHosts_storeServices]
      exact hcovered ip
        (hasRecords_of_storeServices (of_detectionRequest hrequest).1 hrecords)
  | clear h =>
      refine iff_of_true (fun ip hrecords => ?_) (hvacuous h)
      simp [HasRecords] at hrecords

theorem hostsCover_iff_of_step (hkeyed : session.context.network.WellKeyed)
    (hcover : HostsCover session.context.network)
    (h : SessionStep std session turn next) :
    HostsCover next.context.network ↔ ScansListedHost session turn := by
  rw [hostsCover_iff (wellKeyed_of_step h hkeyed)]
  exact covered_iff_of_effect (effect_of_step h) hcover.covered

/-! ## Whole sessions -/

theorem hostsCover_start : HostsCover ({} : Session).context.network :=
  (hostsCover_iff .empty).mpr fun ip h => by simp [HasRecords,
    NetworkState.getPorts, NetworkState.getServices] at h

/-- The tables stay within the host list in all states of a session exactly if
all its scans with results are of listed hosts. -/
theorem hostsCover_everywhere_iff {trace : List (Session × Turn)}
    (run : Run (SessionStep std) {} trace session) :
    Everywhere (fun session => HostsCover session.context.network) trace
      session ↔ Throughout ScansListedHost trace :=
  run.everywhere_iff (fun session => session.context.network.WellKeyed)
    (fun session => HostsCover session.context.network) ScansListedHost
    (fun _ _ _ hkeyed h => wellKeyed_of_step h hkeyed)
    (fun _ _ _ hkeyed hcover h => hostsCover_iff_of_step hkeyed hcover h)
    .empty hostsCover_start

/-- A scan of an unlisted host that is interrupted at once stores nothing. -/
theorem hostsCover_everywhere_interruptedScan :
    ∃ trace session, Run (SessionStep (.merge Port)) {} trace session ∧
      trace ≠ [] ∧ Everywhere
        (fun session => HostsCover session.context.network) trace session := by
  have run := (Run.refl ({} : Session)).tail (step_of_scan
    (.typed "port|:scan 10.0.0.5" [] refusing) rfl rfl
    (returns_interrupted (.merge Port) .common))
  refine ⟨_, _, run, by simp, (hostsCover_everywhere_iff run).mpr ?_⟩
  simp [ScansListedHost, Turn.typed]

/-- One open port of an unlisted host: it is stored, and no report counts it. -/
theorem not_hostsCover_unlistedScan :
    ∃ trace session, Run (SessionStep (.merge Port)) {} trace session ∧
      storedOpenPorts session.context.network = 1 ∧
      (handleNetworkShow session.context.network).openPortCount = 0 ∧
      ¬ HostsCover session.context.network := by
  have run := (Run.refl ({} : Session)).tail (step_of_scan
    (.typed "port|:scan 10.0.0.5 80-80" [⟨80, true, .zero⟩] refusing) rfl rfl
    (returns_onePort (.merge Port) (by decide) (by decide) true .zero))
  refine ⟨_, _, run, by decide, by decide, fun h => ?_⟩
  have hcounted := h.shown
  revert hcounted
  decide

end SlipNet.Cli
