import SlipNet.Cli.FindingSources

/-!
# The counters of a session

`session|:info`, `net|:show` and `net|:clear` print how many hosts, ports and
services are stored.  In a session these are counts of its past: of the hosts
that the last discovery listed, of the ports that scans have reported on at
these hosts, of those among them last reported open, and of all endpoints where
a service was detected, each since the tables were emptied.
-/

namespace SlipNet.Cli

open SlipNet.Foundation
open SlipNet.Standard
open SlipNet.Core
open SlipNet.Scanning

/-! ## The past -/

def listedHosts (trace : List (Session × Turn)) : List HostInfo :=
  (written hostWrites trace).getLast?.getD []

def IsListed (trace : List (Session × Turn)) (ip : Str) : Prop :=
  ip ∈ (listedHosts trace).map HostInfo.ip

/-- Some scan since the tables were emptied has reported on the port. -/
def IsReported (trace : List (Session × Turn)) (ip : Str) (port : Int) : Prop :=
  ∃ record, LastWrite (portWrites ip port) trace (some record)

def CountsEndpoints (count : Nat) (property : Str → Int → Prop) : Prop :=
  ∃ endpoints : Finset (Str × Int), endpoints.card = count ∧
    ∀ ip port, (ip, port) ∈ endpoints ↔ property ip port

/-- The four numbers that each of the commands prints.  A service counts whether
its host is listed or not. -/
structure CountsPast (trace : List (Session × Turn))
    (hostCount onlineHostCount openPortCount serviceCount : Nat) : Prop where
  hosts : hostCount = (listedHosts trace).length
  online : onlineHostCount = (listedHosts trace).countP HostInfo.online
  openPorts : CountsEndpoints openPortCount fun ip port =>
    IsListed trace ip ∧ LastReportedOpen trace ip port
  services : CountsEndpoints serviceCount fun ip port =>
    ∃ record, LastDetected trace ip port record

variable {std : SortRoutine Port} {session : Session}
  {trace : List (Session × Turn)} {network : NetworkState}

/-! ## The tables -/

theorem getHosts_eq_listedHosts (run : Run (SessionStep std) {} trace session) :
    session.context.network.getHosts = listedHosts trace := by
  refine run.observed (fun _ => True)
    (fun session => session.context.network.getHosts) (fun _ _ _ _ _ => trivial)
    (fun t a u _ hstep => ?_) trivial
  rw [hstep.2.2]
  exact getHosts_next t a

theorem countsEndpoints_ports (hkeyed : network.WellKeyed)
    (shows : PortInfo → Bool) :
    CountsEndpoints (network.getHosts.map fun host =>
        ((network.getPorts host.ip).filter shows).length).sum
      fun ip port => ip ∈ network.getHosts.map HostInfo.ip ∧
        ∃ record, lookup PortInfo.port port (network.getPorts ip) =
          some record ∧ shows record = true := by
  have hnodup (host : HostInfo) :
      (((network.getPorts host.ip).filter shows).map PortInfo.port).Nodup :=
    (hkeyed.getPorts_nodup host.ip).sublist
      (List.Sublist.map _ List.filter_sublist)
  obtain ⟨endpoints, hcard, hmem⟩ := exists_card_eq_sum_length
    hkeyed.hosts_nodup (fun host _ => hnodup host)
  refine ⟨endpoints, hcard, fun ip port => ?_⟩
  rw [hmem]
  constructor
  · rintro ⟨host, hhost, rfl, record, hrecord, rfl⟩
    obtain ⟨hrecord, hshows⟩ := List.mem_filter.mp hrecord
    exact ⟨List.mem_map_of_mem hhost, record,
      lookup_eq_some_of_mem (hkeyed.getPorts_nodup host.ip) hrecord, hshows⟩
  · rintro ⟨hip, record, hlookup, hshows⟩
    obtain ⟨host, hhost, rfl⟩ := List.mem_map.mp hip
    exact ⟨host, hhost, rfl, record,
      List.mem_filter.mpr ⟨mem_of_lookup hlookup, hshows⟩,
      key_of_lookup hlookup⟩

theorem countsEndpoints_services (hkeyed : network.WellKeyed) :
    CountsEndpoints network.getServices.length fun ip port =>
      ∃ record, lookup ServiceInfo.endpoint (ip, port) network.getServices =
        some record := by
  refine ⟨(network.getServices.map ServiceInfo.endpoint).toFinset, ?_,
    fun ip port => ?_⟩
  · exact (List.toFinset_card_of_nodup hkeyed.services_nodup).trans
      (List.length_map _)
  · dsimp only
    rw [List.mem_toFinset, ← Option.ne_none_iff_exists', ne_eq,
      lookup_eq_none_iff, not_not]

/-! ## The three reports -/

theorem countsPast_of_run (run : Run (SessionStep std) {} trace session) :
    let network := session.context.network
    CountsPast trace network.getHostCount network.getOnlineHostCount
      (countOpenPorts network) network.getServices.length := by
  have hkeyed := wellKeyed_of_session run
  have hhosts := getHosts_eq_listedHosts run
  have hopen := countsEndpoints_ports hkeyed PortInfo.isOpen
  have hservices := countsEndpoints_services hkeyed
  simp only [hhosts, stored_port_iff run, stored_service_iff run,
    lastWrite_serviceWrites_iff run] at hopen hservices
  constructor
  · exact congrArg List.length hhosts
  · exact congrArg (List.countP HostInfo.online) hhosts
  · rw [countOpenPorts, hhosts]
    simpa [IsListed, LastReportedOpen, List.countP_eq_length_filter] using
      hopen
  · exact hservices

theorem discoveredPorts_of_run (run : Run (SessionStep std) {} trace session) :
    CountsEndpoints (handleSessionInfo session.context.network).discoveredPorts
      fun ip port => IsListed trace ip ∧ IsReported trace ip port := by
  have hhosts := getHosts_eq_listedHosts run
  have hports := countsEndpoints_ports (wellKeyed_of_session run) fun _ => true
  simp only [hhosts, stored_port_iff run] at hports
  rw [handleSessionInfo, hhosts]
  simpa [IsListed, IsReported] using hports

/-- After any session the three commands print the counts of its past; the
first one also counts all ports reported on, and the second the hosts that are
not online. -/
theorem counters_of_run (run : Run (SessionStep std) {} trace session) :
    let network := session.context.network
    let informed := handleSessionInfo network
    let shown := handleNetworkShow network
    let cleared := (handleNetworkClear network).1
    (CountsPast trace informed.hostCount informed.onlineHostCount
        informed.openPorts informed.serviceCount ∧
      CountsEndpoints informed.discoveredPorts fun ip port =>
        IsListed trace ip ∧ IsReported trace ip port) ∧
    (CountsPast trace shown.hostCount shown.onlineHostCount
        shown.openPortCount shown.serviceCount ∧
      shown.offlineHostCount = (listedHosts trace).countP (!·.online)) ∧
    CountsPast trace cleared.hostsBefore cleared.onlineBefore
      cleared.openPortsBefore cleared.servicesBefore := by
  have hpast := countsPast_of_run run
  refine ⟨⟨hpast, discoveredPorts_of_run run⟩, ⟨hpast, ?_⟩, hpast⟩
  have honline : session.context.network.getOnlineHostCount ≤
      session.context.network.getHostCount := List.countP_le_length
  have hsplit := @List.length_eq_countP_add_countP _ HostInfo.online
    (listedHosts trace)
  simp only [Bool.not_eq_true, Bool.decide_eq_false] at hsplit
  dsimp only [handleNetworkShow]
  rw [if_pos honline, hpast.hosts, hpast.online]
  omega

theorem counters_scannedTwice :
    ∃ trace, Run (SessionStep (.merge Port)) {} trace (scannedTwice false) ∧
      CountsEndpoints 1 (fun ip port =>
        ∃ record, LastDetected trace ip port record) := by
  have run := run_scannedTwice false
  have hone : (handleSessionInfo
      (scannedTwice false).context.network).serviceCount = 1 := by decide
  exact ⟨_, run, hone ▸ (counters_of_run run).1.1.services⟩

end SlipNet.Cli
