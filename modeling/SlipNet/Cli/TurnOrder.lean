import SlipNet.Cli.SessionHistory
import SlipNet.Foundation.Simulation

/-!
# The order of the turns

The tables are keyed, so a command that meets the same network twice in a row
changes nothing the second time.  A port scan touches the table of its own host
only: it may change places with the scans and detections of other hosts, and no
report tells the difference, then or later in the session.
-/

namespace SlipNet.Cli

open SlipNet.Foundation
open SlipNet.Standard
open SlipNet.Core
open SlipNet.Network
open SlipNet.Scanning
open SlipNet.Services
open SlipNet.Security

/-! ## Repeated turns -/

variable {std : SortRoutine Port} {session next again : Session} {turn : Turn}
  {network : NetworkState}

theorem addPort_of_lookup {ip : Str} {port : PortInfo}
    (h : lookup PortInfo.port port.port (network.getPorts ip) = some port) :
    network.addPort ip port = network := by
  unfold NetworkState.getPorts at h
  cases hhost : lookup HostPorts.ip ip network.host_ports with
  | none =>
      rw [hhost] at h
      cases h
  | some host =>
      rw [hhost] at h
      have hkept : host.addPort port = host := by
        rw [HostPorts.addPort, put_eq_self h]
      rw [NetworkState.addPort, alter_eq_self hhost hkept]

theorem addService_of_lookup {service : ServiceInfo}
    (h : lookup ServiceInfo.endpoint service.endpoint network.getServices =
      some service) : network.addService service = network := by
  unfold NetworkState.getServices at h
  rw [NetworkState.addService, put_eq_self h]

theorem storeResults_storeResults {results : List Port}
    (hnodup : (results.map Port.number).Nodup) (host : Str) :
    storeResults host results (storeResults host results network) =
      storeResults host results network :=
  foldl_eq_self fun _ hresult =>
    addPort_of_lookup (lookup_storeResults_of_mem hnodup hresult network)

theorem nodup_port_detectAll {peers : Str → Int → Peer} {host : Str}
    {ports : List Int} (hnodup : ports.Nodup) :
    ((detectAll peers host ports).map Service.port).Nodup := by
  have hsublist : ((detectAll peers host ports).map Service.port).Sublist
      ports := by
    induction ports with
    | nil => exact List.Sublist.refl []
    | cons port ports ih =>
        rw [List.nodup_cons] at hnodup
        rw [detectAll, List.map_cons, List.filter_cons]
        split_ifs with hdetected
        · have hport : (detect peers host port).port = port := by
            rw [detect] at hdetected ⊢
            split_ifs at hdetected ⊢
            exact (identify_fields port _).1
          rw [List.map_cons, hport]
          exact (ih hnodup.2).cons_cons port
        · exact (ih hnodup.2).cons port
  exact hnodup.sublist hsublist

theorem storeServices_storeServices {services : List Service}
    (hnodup : (services.map Service.port).Nodup) (host : Str) :
    storeServices host services (storeServices host services network) =
      storeServices host services network := by
  have hendpoints :
      ((services.map (detectedInfo host)).map ServiceInfo.endpoint).Nodup := by
    have hpairs : (services.map (detectedInfo host)).map ServiceInfo.endpoint =
        (services.map Service.port).map (Prod.mk host) := by
      simp [ServiceInfo.endpoint, detectedInfo]
    rw [hpairs]
    exact hnodup.map fun _ _ h => (Prod.mk.inj h).2
  refine foldl_eq_self fun service hservice => addService_of_lookup ?_
  rw [getServices_storeServices_eq, lookup_putEach,
    latest_eq_some_of_mem hendpoints (List.mem_map_of_mem hservice),
    Option.some_or]

theorem handlePortScan_twice {results : List Port} {arguments : List Str}
    (hnodup : ∀ host job, portScanRequest arguments = .ok (host, job) →
      (results.map Port.number).Nodup) :
    handlePortScan results arguments
        (handlePortScan results arguments network) =
      handlePortScan results arguments network := by
  unfold handlePortScan
  cases hrequest : portScanRequest arguments with
  | error message => rfl
  | ok request =>
      exact storeResults_storeResults (hnodup request.1 request.2 hrequest)
        request.1

theorem detectionRequest_storeServices {host : Str} {services : List Service}
    (arguments : List Str) :
    detectionRequest (storeServices host services network) arguments =
      detectionRequest network arguments := by
  unfold detectionRequest
  rw [getPorts_storeServices]

theorem handleServiceDetect_twice {peers : Str → Int → Peer}
    {arguments : List Str} (hkeyed : network.WellKeyed) :
    handleServiceDetect peers arguments
        (handleServiceDetect peers arguments network) =
      handleServiceDetect peers arguments network := by
  unfold handleServiceDetect
  cases hrequest : detectionRequest network arguments with
  | error message => simp only [hrequest]
  | ok request =>
      obtain ⟨host, ports⟩ := request
      obtain rfl := (of_detectionRequest hrequest).2
      simp only [detectionRequest_storeServices, hrequest]
      exact storeServices_storeServices
        (nodup_port_detectAll (nodup_openPorts hkeyed host)) host

theorem change_change (hkeyed : network.WellKeyed)
    (hreturns : ∀ host job, turn.scan? = some (host, job) →
      Returns std job turn.outcome.results) :
    turn.change (turn.change network) = turn.change network := by
  unfold Turn.change
  cases hcommand : turn.command? with
  | none => rfl
  | some command =>
      have hscan := scan?_of_command? hcommand
      cases htype : command.type
      case portScan =>
        simp only [execute, htype, EngineContext.update]
        refine handlePortScan_twice fun host job hrequest => ?_
        rw [htype, if_pos rfl, hrequest] at hscan
        exact (hreturns host job hscan).nodup_numbers
      case serviceDetect =>
        simp only [execute, htype, EngineContext.update]
        exact handleServiceDetect_twice hkeyed
      all_goals
        simp only [execute, htype]
        try rfl

theorem running_execute (outcome : Outcome) (command : ParsedCommand)
    (context context' : EngineContext) :
    (execute outcome command context).2 =
      (execute outcome command context').2 := by
  unfold execute
  cases command.type <;> rfl

theorem prompting_next {session session' : Session}
    (h : session.prompting = session'.prompting) (turn : Turn) :
    (session.next turn).prompting = (session'.next turn).prompting := by
  unfold Session.next
  cases turn.input with
  | none => rfl
  | some input =>
      dsimp only
      split_ifs
      · rfl
      · exact h
      · exact congrArg (fun running => decide (running = .ok true))
          (running_execute turn.outcome (parse input) _ _)

/-- A turn that comes again, under the same circumstances, changes nothing. -/
theorem repeated_turn {trace : List (Session × Turn)}
    (run : Run (SessionStep std) {} trace session)
    (hstep : SessionStep std session turn next)
    (hagain : SessionStep std next turn again) : again = next := by
  obtain ⟨hprompting, hreturns, rfl⟩ := hstep
  obtain ⟨hprompting', _, rfl⟩ := hagain
  have hcontext : ((session.next turn).next turn).context =
      (session.next turn).context := by
    rw [context_next (session.next turn), context_next session]
    exact congrArg (fun network => { session.context with network := network })
      (change_change (wellKeyed_of_session run) hreturns)
  have hsame : ((session.next turn).next turn).prompting =
      (session.next turn).prompting :=
    prompting_next (hprompting'.trans hprompting.symm) turn
  calc
    (session.next turn).next turn =
        ⟨((session.next turn).next turn).context,
          ((session.next turn).next turn).prompting⟩ := rfl
    _ = session.next turn := by rw [hcontext, hsame]

theorem repeated_turn_scanWeb :
    SessionStep (.merge Port) (({} : Session).next (scanWeb true)) (scanWeb true)
        ((({} : Session).next (scanWeb true)).next (scanWeb true)) ∧
      (({} : Session).next (scanWeb true)).next (scanWeb true) =
        ({} : Session).next (scanWeb true) := by
  have hreturns := returns_onePort (.merge Port) (by decide : (1 : Int) ≤ 80)
    (by decide) true .zero
  have hfirst : SessionStep (.merge Port) {} (scanWeb true) _ :=
    step_of_scan (scanWeb true) rfl rfl hreturns
  have hagain : SessionStep (.merge Port) (({} : Session).next (scanWeb true))
      (scanWeb true) _ := step_of_scan (scanWeb true) rfl rfl hreturns
  exact ⟨hagain, repeated_turn (.refl ({} : Session)) hfirst hagain⟩

/-! ## Exchanged turns -/

def Turn.detects (turn : Turn) : Option Str :=
  match turn.command? with
  | some command =>
      if command.type = .serviceDetect then command.arguments.head? else none
  | none => none

def ScansApart (first second : Turn) : Prop :=
  ∃ host job other, first.scan? = some (host, job) ∧ host ≠ other ∧
    ((∃ job, second.scan? = some (other, job)) ∨ second.detects = some other)

def Independent (first second : Turn) : Prop :=
  ScansApart first second ∨ ScansApart second first

/-- The same tables, up to the order of the hosts' port tables. -/
structure SameTables (network other : NetworkState) : Prop where
  hosts : network.getHosts = other.getHosts
  ports : network.getPorts = other.getPorts
  services : network.getServices = other.getServices

/-- Every command that reads the tables makes the same of them. -/
structure SameReports (network other : NetworkState) : Prop where
  shown : handleNetworkShow network = handleNetworkShow other
  informed : handleSessionInfo network = handleSessionInfo other
  cleared : (handleNetworkClear network).1 = (handleNetworkClear other).1
  analysed : ∀ arguments, handleSecurityDetect network arguments =
    handleSecurityDetect other arguments
  scanned : ∀ std arguments, handleVulnScan std network arguments =
    handleVulnScan std other arguments
  checked : ∀ std arguments, handleCredCheck std network arguments =
    handleCredCheck std other arguments
  requested : ∀ arguments, detectionRequest network arguments =
    detectionRequest other arguments

theorem SameTables.sameReports {network other : NetworkState}
    (h : SameTables network other) : SameReports network other := by
  have hhosts : network.hosts = other.hosts := h.hosts
  have hservices := h.services
  have hports := h.ports
  refine ⟨?_, ?_, ?_, fun arguments => ?_, fun std arguments => ?_,
    fun std arguments => ?_, fun arguments => ?_⟩
  · simp only [handleNetworkShow, NetworkState.getHostCount,
      NetworkState.getOnlineHostCount, countOpenPorts, NetworkState.getHosts,
      hhosts, hports, hservices]
    rfl
  · simp only [handleSessionInfo, NetworkState.getHostCount,
      NetworkState.getOnlineHostCount, countOpenPorts, NetworkState.getHosts,
      hhosts, hports, hservices]
  · simp only [handleNetworkClear, NetworkState.getHostCount,
      NetworkState.getOnlineHostCount, countOpenPorts, NetworkState.getHosts,
      hhosts, hports, hservices]
    rfl
  · simp only [handleSecurityDetect, analysisScope, NetworkState.getHosts,
      hhosts, hports, hservices]
    rfl
  · simp only [handleVulnScan, serviceTargets, hservices]
  · simp only [handleCredCheck, serviceTargets, hservices]
  · simp only [detectionRequest, hports]

/-! ## Turns on equal tables -/

theorem sameTables_storeResults {network other : NetworkState}
    (h : SameTables network other) (host : Str) (results : List Port) :
    SameTables (storeResults host results network)
      (storeResults host results other) where
  hosts := by simpa using h.hosts
  ports := by
    funext ip
    rw [getPorts_storeResults, getPorts_storeResults, h.ports]
  services := by simpa using h.services

theorem sameTables_storeServices {network other : NetworkState}
    (h : SameTables network other) (host : Str) (services : List Service) :
    SameTables (storeServices host services network)
      (storeServices host services other) where
  hosts := by simpa using h.hosts
  ports := by simpa using h.ports
  services := by
    rw [getServices_storeServices_eq, getServices_storeServices_eq,
      h.services]

theorem sameTables_change {network other : NetworkState}
    (h : SameTables network other) (turn : Turn) :
    SameTables (turn.change network) (turn.change other) := by
  unfold Turn.change
  cases turn.command? with
  | none => exact h
  | some command =>
      cases htype : command.type
      case ipSeek =>
        simp only [execute, htype]
        exact ⟨rfl, rfl, rfl⟩
      case portScan =>
        simp only [execute, htype, EngineContext.update, handlePortScan]
        cases portScanRequest command.arguments with
        | error message => exact h
        | ok request =>
            exact sameTables_storeResults h request.1 turn.outcome.results
      case serviceDetect =>
        simp only [execute, htype, EngineContext.update, handleServiceDetect]
        rw [h.sameReports.requested command.arguments]
        cases detectionRequest other command.arguments with
        | error message => exact h
        | ok request => exact sameTables_storeServices h request.1 _
      case networkClear =>
        simp only [execute, htype]
        exact ⟨rfl, rfl, rfl⟩
      all_goals
        simp only [execute, htype]
        exact h

structure SameSession (session other : Session) : Prop where
  tables : SameTables session.context.network other.context.network
  prompting : session.prompting = other.prompting

theorem simulates_sameSession :
    Simulates SameSession (SessionStep std) (SessionStep std) := by
  rintro session turn _ other h ⟨hprompting, hreturns, rfl⟩
  refine ⟨other.next turn, ⟨h.prompting ▸ hprompting, hreturns, rfl⟩, ?_,
    prompting_next h.prompting turn⟩
  rw [context_next, context_next]
  exact sameTables_change h.tables turn

/-! ## Exchanging two turns -/

theorem of_scan? {host : Str} {job : ScanJob}
    (h : turn.scan? = some (host, job)) :
    ∃ command, turn.command? = some command ∧ command.type = .portScan ∧
      portScanRequest command.arguments = .ok (host, job) := by
  cases hcommand : turn.command? with
  | none => simp [Turn.scan?, hcommand] at h
  | some command =>
      rw [scan?_of_command? hcommand] at h
      split_ifs at h with htype
      split at h
      · cases h
      · next request hrequest =>
          cases h
          exact ⟨command, rfl, htype, hrequest⟩

theorem change_of_scan? {host : Str} {job : ScanJob}
    (h : turn.scan? = some (host, job)) (network : NetworkState) :
    turn.change network = storeResults host turn.outcome.results network := by
  obtain ⟨command, hcommand, htype, hrequest⟩ := of_scan? h
  simp only [Turn.change, hcommand, execute, htype, EngineContext.update,
    handlePortScan, hrequest]

theorem of_detects {host : Str} (h : turn.detects = some host) :
    ∃ command rest, turn.command? = some command ∧
      command.type = .serviceDetect ∧ command.arguments = host :: rest := by
  unfold Turn.detects at h
  split at h
  · next command hcommand =>
      split_ifs at h with htype
      obtain ⟨rest, hrest⟩ := List.head?_eq_some_iff.mp h
      exact ⟨command, rest, hcommand, htype, hrest⟩
  · cases h

theorem change_of_detects {host : Str} (h : turn.detects = some host) :
    ∃ arguments, arguments.head? = some host ∧
      turn.change = handleServiceDetect turn.outcome.peers arguments := by
  obtain ⟨command, rest, hcommand, htype, harguments⟩ := of_detects h
  refine ⟨command.arguments, by simp [harguments], funext fun network => ?_⟩
  simp only [Turn.change, hcommand, execute, htype, EngineContext.update]

theorem SameTables.symm {network other : NetworkState}
    (h : SameTables network other) : SameTables other network :=
  ⟨h.hosts.symm, h.ports.symm, h.services.symm⟩

theorem SameTables.trans {first second third : NetworkState}
    (h : SameTables first second) (h' : SameTables second third) :
    SameTables first third :=
  ⟨h.hosts.trans h'.hosts, h.ports.trans h'.ports,
    h.services.trans h'.services⟩

theorem sameTables_scans {host other : Str} (hne : host ≠ other)
    (results results' : List Port) (network : NetworkState) :
    SameTables
      (storeResults other results' (storeResults host results network))
      (storeResults host results (storeResults other results' network)) where
  hosts := by simp
  ports := by
    funext ip
    simp only [getPorts_storeResults]
    by_cases hip : ip = host
    · subst hip
      simp [hne]
    · simp [hip]
  services := by simp

theorem sameTables_scan_detect {host other : Str} (hne : host ≠ other)
    (results : List Port) (peers : Str → Int → Peer) {arguments : List Str}
    (harguments : arguments.head? = some other) (network : NetworkState) :
    SameTables
      (handleServiceDetect peers arguments (storeResults host results network))
      (storeResults host results
        (handleServiceDetect peers arguments network)) := by
  obtain ⟨rest, rfl⟩ := List.head?_eq_some_iff.mp harguments
  have hrequest : detectionRequest (storeResults host results network)
      (other :: rest) = detectionRequest network (other :: rest) := by
    rw [detectionRequest, detectionRequest, getPorts_storeResults,
      if_neg (Ne.symm hne)]
  rw [handleServiceDetect, handleServiceDetect, hrequest]
  cases detectionRequest network (other :: rest) with
  | error message => exact ⟨rfl, rfl, rfl⟩
  | ok request =>
      refine ⟨by simp, funext fun ip => ?_, ?_⟩
      · simp only [getPorts_storeServices, getPorts_storeResults]
      · simp only [getServices_storeServices_eq, getServices_storeResults]

variable {first second : Turn}

theorem sameTables_of_scansApart (h : ScansApart first second)
    (network : NetworkState) :
    SameTables (second.change (first.change network))
      (first.change (second.change network)) := by
  obtain ⟨host, job, other, hfirst, hne, ⟨job', hsecond⟩ | hsecond⟩ := h
  · simp only [change_of_scan? hfirst, change_of_scan? hsecond]
    exact sameTables_scans hne _ _ network
  · obtain ⟨arguments, harguments, hchange⟩ := change_of_detects hsecond
    simp only [change_of_scan? hfirst, hchange]
    exact sameTables_scan_detect hne _ _ harguments network

theorem sameTables_of_independent (h : Independent first second)
    (network : NetworkState) :
    SameTables (second.change (first.change network))
      (first.change (second.change network)) := by
  rcases h with h | h
  · exact sameTables_of_scansApart h network
  · exact (sameTables_of_scansApart h network).symm

theorem prompting_of_command? {command : ParsedCommand}
    (h : turn.command? = some command) (htype : command.type = .portScan ∨
      command.type = .serviceDetect) (session : Session) :
    (session.next turn).prompting = true := by
  unfold Turn.command? at h
  unfold Session.next
  split at h
  · cases h
  · next input hinput =>
      split_ifs at h ⊢
      cases h
      rcases htype with htype | htype <;> simp [execute, htype]

theorem prompting_of_independent (h : Independent first second)
    (session : Session) : (session.next first).prompting = true ∧
      (session.next second).prompting = true := by
  have hscan : ∀ {turn : Turn} {host job}, turn.scan? = some (host, job) →
      (session.next turn).prompting = true := by
    intro turn host job h
    obtain ⟨command, hcommand, htype, _⟩ := of_scan? h
    exact prompting_of_command? hcommand (.inl htype) session
  have hdetects : ∀ {turn : Turn} {host}, turn.detects = some host →
      (session.next turn).prompting = true := by
    intro turn host h
    obtain ⟨command, _, hcommand, htype, _⟩ := of_detects h
    exact prompting_of_command? hcommand (.inr htype) session
  rcases h with ⟨host, job, other, hfirst, _, ⟨job', hsecond⟩ | hsecond⟩ |
    ⟨host, job, other, hsecond, _, ⟨job', hfirst⟩ | hfirst⟩
  · exact ⟨hscan hfirst, hscan hsecond⟩
  · exact ⟨hscan hfirst, hdetects hsecond⟩
  · exact ⟨hscan hfirst, hscan hsecond⟩
  · exact ⟨hdetects hfirst, hscan hsecond⟩

theorem commutes_of_independent (h : Independent first second) :
    Commutes SameSession (SessionStep std) first second := by
  rintro session _ _ ⟨hprompting, hreturns, rfl⟩ ⟨_, hreturns', rfl⟩
  obtain ⟨hfirst, hsecond⟩ := prompting_of_independent h session
  refine ⟨session.next second, (session.next second).next first,
    ⟨hprompting, hreturns', rfl⟩, ⟨hsecond, hreturns, rfl⟩, ?_, ?_⟩
  · simp only [context_next]
    exact sameTables_of_independent h session.context.network
  · rw [(prompting_of_independent h (session.next first)).2,
      (prompting_of_independent h (session.next second)).1]

/-- However often neighbouring turns that are independent change places, the
session goes through.  At its end the tables that the commands read are the
same, in the same order, and so is what is counted and found in them. -/
theorem rearranged_session {trace : List (Session × Turn)}
    {turns : List Turn} (run : Run (SessionStep std) {} trace session)
    (h : Rearranged Independent (actions trace) turns) :
    ∃ trace' session', Run (SessionStep std) {} trace' session' ∧
      actions trace' = turns ∧ session'.prompting = session.prompting ∧
      SameTables session.context.network session'.context.network ∧
      SameReports session.context.network session'.context.network := by
  have hrefl : ∀ session, SameSession session session :=
    fun _ => ⟨⟨rfl, rfl, rfl⟩, rfl⟩
  have htrans : ∀ session other last, SameSession session other →
      SameSession other last → SameSession session last :=
    fun _ _ _ h h' => ⟨h.tables.trans h'.tables, h.prompting.trans h'.prompting⟩
  obtain ⟨trace', session', run', hactions, hsame⟩ :=
    run.rearranged simulates_sameSession hrefl htrans
      (fun _ _ => commutes_of_independent) h
  exact ⟨trace', session', run', hactions, hsame.prompting.symm,
    hsame.tables, hsame.tables.sameReports⟩

def scanOther : Turn :=
  .typed "port|:scan 10.0.0.6 80-80" [⟨80, true, .zero⟩] refusing

theorem rearranged_session_twoScans :
    ∃ trace session trace' session',
      Run (SessionStep (.merge Port)) {} trace session ∧
      actions trace = [scanWeb true, scanOther] ∧
      Run (SessionStep (.merge Port)) {} trace' session' ∧
      actions trace' = [scanOther, scanWeb true] ∧
      SameTables session.context.network session'.context.network ∧
      SameReports session.context.network session'.context.network := by
  have hreturns := returns_onePort (.merge Port) (by decide : (1 : Int) ≤ 80)
    (by decide) true .zero
  have run := ((Run.refl ({} : Session)).tail
    (step_of_scan (scanWeb true) rfl rfl hreturns)).tail
      (step_of_scan scanOther rfl rfl hreturns)
  have hindependent : Independent (scanWeb true) scanOther :=
    .inl ⟨"10.0.0.5".toList, .range 80 80, "10.0.0.6".toList, by decide,
      by decide, .inl ⟨.range 80 80, by decide⟩⟩
  have hexchange : Exchange Independent [scanWeb true, scanOther]
      [scanOther, scanWeb true] := .swap [] [] hindependent
  obtain ⟨trace', session', run', hactions, _, htables, hreports⟩ :=
    rearranged_session run (.single hexchange)
  exact ⟨_, _, trace', session', run, rfl, run', hactions, htables, hreports⟩

end SlipNet.Cli
