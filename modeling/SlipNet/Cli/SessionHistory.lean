import SlipNet.Cli.StoredScan
import SlipNet.Cli.ServiceBacking
import SlipNet.Foundation.LastWrite

/-!
# What a session remembers

The tables hold nothing but the past of the session.  The record of a port is
the one of the last scan that reported on it, the record of a service the one
of the last detection, and the host list the one of the last discovery, each
since the tables were last emptied.
-/

namespace SlipNet.Cli

open SlipNet.Foundation
open SlipNet.Standard
open SlipNet.Core
open SlipNet.Network
open SlipNet.Scanning
open SlipNet.Services

/-! ## What a turn writes -/

/-- `ip|:seek` and `net|:clear` empty all tables. -/
def Turn.resets (turn : Turn) : Bool :=
  match turn.command? with
  | some command =>
      command.type = .ipSeek || command.type = .networkClear
  | none => false

def Turn.reported (turn : Turn) (ip : Str) (port : Int) : Option Port :=
  match turn.scan? with
  | some (host, _) =>
      if ip = host then latest Port.number turn.outcome.results port
      else none
  | none => none

def Turn.detection? (network : NetworkState) (turn : Turn) :
    Option (Str × List Int) :=
  match turn.command? with
  | some command =>
      if command.type = .serviceDetect then
        (detectionRequest network command.arguments).toOption
      else none
  | none => none

def Turn.detected (network : NetworkState) (turn : Turn) (ip : Str)
    (port : Int) : Option Service :=
  match turn.detection? network with
  | some (host, ports) =>
      if ip = host then
        latest Service.port (detectAll turn.outcome.peers host ports) port
      else none
  | none => none

def Turn.listed (turn : Turn) : Option (List HostInfo) :=
  match turn.command? with
  | some command =>
      if command.type = .ipSeek then
        some (discover turn.outcome.surroundings {}).2.getHosts
      else if command.type = .networkClear then some []
      else none
  | none => none

def portWrites (ip : Str) (port : Int) (_ : Session) (turn : Turn) :
    Option (Option PortInfo) :=
  if turn.resets then some none
  else (turn.reported ip port).map fun result => some result.info

def serviceWrites (ip : Str) (port : Int) (session : Session) (turn : Turn) :
    Option (Option ServiceInfo) :=
  if turn.resets then some none
  else (turn.detected session.context.network ip port).map fun service =>
    some (detectedInfo ip service)

def hostWrites (_ : Session) (turn : Turn) : Option (List HostInfo) :=
  turn.listed

structure Remembers (trace : List (Session × Turn)) (network : NetworkState) :
    Prop where
  ports : ∀ ip port record,
    lookup PortInfo.port port (network.getPorts ip) = some record ↔
      LastWrite (portWrites ip port) trace (some record)
  services : ∀ ip port record,
    lookup ServiceInfo.endpoint (ip, port) network.getServices = some record ↔
      LastWrite (serviceWrites ip port) trace (some record)
  hosts : ∀ hosts, hosts ≠ [] →
    (network.getHosts = hosts ↔ LastWrite hostWrites trace hosts)

/-! ## One turn -/

variable {std : SortRoutine Port} {session next : Session} {turn : Turn}
  {network : NetworkState}

def Turn.change (turn : Turn) (network : NetworkState) : NetworkState :=
  match turn.command? with
  | none => network
  | some command =>
      (execute turn.outcome command { network := network }).1.network

theorem context_execute (outcome : Outcome) (command : ParsedCommand)
    (context : EngineContext) : (execute outcome command context).1 =
      { context with network :=
        (execute outcome command { network := context.network }).1.network } := by
  unfold execute
  cases command.type <;> rfl

theorem context_next (session : Session) (turn : Turn) :
    (session.next turn).context =
      { session.context with network := turn.change session.context.network } := by
  unfold Session.next Turn.change Turn.command?
  cases turn.input with
  | none => rfl
  | some input =>
      dsimp only
      split_ifs
      · rfl
      · rfl
      · exact context_execute turn.outcome (parse input) session.context

theorem getPorts_storeResults (host ip : Str) (results : List Port) :
    (storeResults host results network).getPorts ip =
      if ip = host then
        putEach PortInfo.port (results.map Port.info) (network.getPorts ip)
      else network.getPorts ip := by
  split_ifs with hip
  · subst hip
    induction results generalizing network with
    | nil => rfl
    | cons result results ih =>
        rw [storeResults, List.foldl_cons, ← storeResults, ih,
          NetworkState.getPorts_addPort_self]
        rfl
  · exact getPorts_storeResults_of_ne hip network

theorem getServices_storeServices_eq (host : Str) (services : List Service) :
    (storeServices host services network).getServices =
      putEach ServiceInfo.endpoint (services.map (detectedInfo host))
        network.getServices := by
  induction services generalizing network with
  | nil => rfl
  | cons service services ih =>
      rw [storeServices, List.foldl_cons, ← storeServices, ih]
      rfl

theorem latest_info (results : List Port) (port : Int) :
    latest PortInfo.port (results.map Port.info) port =
      (latest Port.number results port).map Port.info := by
  rw [latest, latest, lookup, lookup, ← List.map_reverse, List.find?_map]
  rfl

theorem latest_detectedInfo (host ip : Str) (services : List Service)
    (port : Int) :
    latest ServiceInfo.endpoint (services.map (detectedInfo host)) (ip, port) =
      if ip = host then (latest Service.port services port).map
        (detectedInfo ip)
      else none := by
  rw [latest, latest, lookup, lookup, ← List.map_reverse, List.find?_map]
  split_ifs with hip
  · subst hip
    simp [ServiceInfo.endpoint, detectedInfo]
    congr
  · simp [ServiceInfo.endpoint, detectedInfo, Ne.symm hip]

inductive Change (network : NetworkState) (turn : Turn) : NetworkState → Prop
  | keep (hresets : turn.resets = false) (hlisted : turn.listed = none)
      (hscan : turn.scan? = none)
      (hdetection : turn.detection? network = none) :
      Change network turn network
  | seek (hresets : turn.resets = true)
      (hlisted : turn.listed =
        some (discover turn.outcome.surroundings {}).2.getHosts) :
      Change network turn (discover turn.outcome.surroundings {}).2
  | scan (host : Str) (job : ScanJob) (hresets : turn.resets = false)
      (hlisted : turn.listed = none) (hscan : turn.scan? = some (host, job))
      (hdetection : turn.detection? network = none) :
      Change network turn (storeResults host turn.outcome.results network)
  | detect (host : Str) (ports : List Int) (hresets : turn.resets = false)
      (hlisted : turn.listed = none) (hscan : turn.scan? = none)
      (hdetection : turn.detection? network = some (host, ports)) :
      Change network turn
        (storeServices host (detectAll turn.outcome.peers host ports) network)
  | clear (hresets : turn.resets = true) (hlisted : turn.listed = some []) :
      Change network turn {}

theorem change_of_command? {command : ParsedCommand} (network : NetworkState)
    (h : turn.command? = some command) :
    Change network turn (turn.change network) := by
  have hscan := scan?_of_command? h
  have hresets : turn.resets =
      (command.type = .ipSeek || command.type = .networkClear : Bool) := by
    rw [Turn.resets, h]
  have hlisted : turn.listed =
      if command.type = .ipSeek then
        some (discover turn.outcome.surroundings {}).2.getHosts
      else if command.type = .networkClear then some []
      else none := by
    rw [Turn.listed, h]
  have hdetection : turn.detection? network =
      if command.type = .serviceDetect then
        (detectionRequest network command.arguments).toOption
      else none := by
    rw [Turn.detection?, h]
  unfold Turn.change
  rw [h]
  dsimp only
  unfold execute
  split
  case h_1 htype =>
    rw [htype] at hresets hlisted
    exact .seek hresets hlisted
  case h_2 htype =>
    rw [htype] at hresets hlisted hscan hdetection
    rw [if_pos rfl] at hscan
    unfold EngineContext.update handlePortScan
    dsimp only
    split
    · next hrequest =>
        rw [hrequest] at hscan
        exact .keep hresets hlisted hscan hdetection
    · next host job hrequest =>
        rw [hrequest] at hscan
        exact .scan host job hresets hlisted hscan hdetection
  case h_3 htype =>
    rw [htype] at hresets hlisted hscan hdetection
    rw [if_pos rfl] at hdetection
    unfold EngineContext.update handleServiceDetect
    dsimp only
    split
    · next hrequest =>
        rw [hrequest] at hdetection
        exact .keep hresets hlisted hscan hdetection
    · next host ports hrequest =>
        rw [hrequest] at hdetection
        exact .detect host ports hresets hlisted hscan hdetection
  case h_4 htype =>
    rw [htype] at hresets hlisted
    exact .clear hresets hlisted
  case h_5 htype =>
    rw [htype] at hresets hlisted hscan hdetection
    exact .keep hresets hlisted hscan hdetection
  case h_6 htype =>
    rw [htype] at hresets hlisted hscan hdetection
    exact .keep hresets hlisted hscan hdetection
  case h_7 hseek hport hdetect hclear _ _ =>
    rw [if_neg hport] at hscan
    rw [if_neg hdetect] at hdetection
    rw [if_neg hseek, if_neg hclear] at hlisted
    rw [decide_eq_false hseek, decide_eq_false hclear] at hresets
    exact .keep hresets hlisted hscan hdetection

theorem change_cases (network : NetworkState) (turn : Turn) :
    Change network turn (turn.change network) := by
  cases hcommand : turn.command? with
  | none =>
      rw [Turn.change, hcommand]
      refine .keep ?_ ?_ ?_ ?_ <;>
        simp [Turn.resets, Turn.listed, Turn.scan?, Turn.detection?, hcommand]
  | some command => exact change_of_command? network hcommand

theorem change_next (session : Session) (turn : Turn) :
    Change session.context.network turn
      (session.next turn).context.network := by
  rw [context_next]
  exact change_cases session.context.network turn

theorem lookup_getPorts_next (session : Session) (turn : Turn) (ip : Str)
    (port : Int) :
    lookup PortInfo.port port
        ((session.next turn).context.network.getPorts ip) =
      (portWrites ip port session turn).getD
        (lookup PortInfo.port port (session.context.network.getPorts ip)) := by
  rw [portWrites, Turn.reported]
  have hchange := change_next session turn
  generalize (session.next turn).context.network = after at hchange ⊢
  cases hchange with
  | keep hresets _ hscan => simp [hresets, hscan]
  | seek hresets => simp [hresets, getPorts_discover]
  | scan host job hresets _ hscan =>
      rw [hresets, hscan, getPorts_storeResults]
      by_cases hip : ip = host
      · rw [if_pos hip, lookup_putEach, latest_info]
        cases latest Port.number turn.outcome.results port <;> simp [hip]
      · simp [hip]
  | detect host ports hresets _ hscan => simp [hresets, hscan]
  | clear hresets => simp [hresets, NetworkState.getPorts]

theorem lookup_getServices_next (session : Session) (turn : Turn) (ip : Str)
    (port : Int) :
    lookup ServiceInfo.endpoint (ip, port)
        (session.next turn).context.network.getServices =
      (serviceWrites ip port session turn).getD
        (lookup ServiceInfo.endpoint (ip, port)
          session.context.network.getServices) := by
  rw [serviceWrites, Turn.detected]
  have hchange := change_next session turn
  generalize (session.next turn).context.network = after at hchange ⊢
  cases hchange with
  | keep hresets _ _ hdetection => simp [hresets, hdetection]
  | seek hresets => simp [hresets, getServices_discover]
  | scan host job hresets _ _ hdetection => simp [hresets, hdetection]
  | detect host ports hresets _ _ hdetection =>
      rw [hresets, hdetection, getServices_storeServices_eq, lookup_putEach,
        latest_detectedInfo]
      by_cases hip : ip = host
      · rw [if_pos hip]
        cases hfound : latest Service.port
          (detectAll turn.outcome.peers host ports) port <;>
          simp [hip, hfound]
      · simp [hip]
  | clear hresets => simp [hresets, NetworkState.getServices]

theorem getHosts_next (session : Session) (turn : Turn) :
    (session.next turn).context.network.getHosts =
      (hostWrites session turn).getD session.context.network.getHosts := by
  rw [hostWrites]
  have hchange := change_next session turn
  generalize (session.next turn).context.network = after at hchange ⊢
  cases hchange with
  | keep _ hlisted => rw [hlisted]; rfl
  | seek _ hlisted => rw [hlisted]; rfl
  | scan host job _ hlisted => rw [hlisted, getHosts_storeResults]; rfl
  | detect host ports _ hlisted => rw [hlisted, getHosts_storeServices]; rfl
  | clear _ hlisted => rw [hlisted]; rfl

/-! ## Whole sessions -/

variable {trace : List (Session × Turn)}

/-- What a session shows of its network, where every turn overwrites or keeps
it, is the last write. -/
theorem observed_session_iff {ω : Type*}
    {writes : Session → Turn → Option ω} (observe : NetworkState → ω)
    (hnext : ∀ session turn, observe (session.next turn).context.network =
      (writes session turn).getD (observe session.context.network))
    (run : Run (SessionStep std) {} trace session) {value : ω}
    (hvalue : value ≠ observe {}) :
    observe session.context.network = value ↔
      LastWrite writes trace value := by
  refine run.observed_eq_iff (fun _ => True)
    (fun session => observe session.context.network) (fun _ _ _ _ _ => trivial)
    (fun t a u _ hstep => ?_) trivial hvalue
  rw [hstep.2.2]
  exact hnext t a

theorem stored_port_iff (run : Run (SessionStep std) {} trace session)
    (ip : Str) (port : Int) (record : PortInfo) :
    lookup PortInfo.port port (session.context.network.getPorts ip) =
        some record ↔
      LastWrite (portWrites ip port) trace (some record) :=
  observed_session_iff
    (fun network => lookup PortInfo.port port (network.getPorts ip))
    (fun session turn => lookup_getPorts_next session turn ip port) run
    (by simp [NetworkState.getPorts])

theorem stored_service_iff (run : Run (SessionStep std) {} trace session)
    (ip : Str) (port : Int) (record : ServiceInfo) :
    lookup ServiceInfo.endpoint (ip, port)
        session.context.network.getServices = some record ↔
      LastWrite (serviceWrites ip port) trace (some record) :=
  observed_session_iff
    (fun network => lookup ServiceInfo.endpoint (ip, port) network.getServices)
    (fun session turn => lookup_getServices_next session turn ip port) run
    (by simp [NetworkState.getServices])

/-- After any session the tables hold exactly what the last scan that reported
on the port, the last detection that found a service there and the last
discovery have written since the tables were emptied. -/
theorem remembers_of_run (run : Run (SessionStep std) {} trace session) :
    Remembers trace session.context.network where
  ports := stored_port_iff run
  services := stored_service_iff run
  hosts _ hne := observed_session_iff NetworkState.getHosts getHosts_next run hne

theorem remembers_scannedTwice :
    (∃ trace, Run (SessionStep (.merge Port)) {} trace (scannedTwice false) ∧
      Remembers trace (scannedTwice false).context.network) ∧
    lookup PortInfo.port 80
        ((scannedTwice false).context.network.getPorts "10.0.0.5".toList) =
      some ⟨80, false, "TCP".toList, []⟩ :=
  ⟨⟨_, run_scannedTwice false, remembers_of_run (run_scannedTwice false)⟩,
    by decide⟩

/-! ## What a detection probes -/

/-- The last scan that reported on the port since the tables were emptied
found it open. -/
def LastReportedOpen (trace : List (Session × Turn)) (ip : Str) (port : Int) :
    Prop :=
  ∃ record, LastWrite (portWrites ip port) trace (some record) ∧
    record.isOpen = true

theorem of_detection? {host : Str} {ports : List Int}
    (h : turn.detection? network = some (host, ports)) :
    ports = openPorts (network.getPorts host) := by
  unfold Turn.detection? at h
  split at h
  · split at h
    · next command _ _ =>
        cases hrequest : detectionRequest network command.arguments with
        | error message =>
            rw [hrequest] at h
            cases h
        | ok request =>
            rw [hrequest] at h
            cases h
            exact (of_detectionRequest hrequest).2
    · cases h
  · cases h

theorem mem_openPorts_iff (hkeyed : network.WellKeyed) {host : Str}
    {port : Int} : port ∈ openPorts (network.getPorts host) ↔
      ∃ record, lookup PortInfo.port port (network.getPorts host) =
        some record ∧ record.isOpen = true := by
  simp only [openPorts, List.mem_map, List.mem_filter]
  constructor
  · rintro ⟨record, ⟨hrecord, hopen⟩, rfl⟩
    exact ⟨record, lookup_eq_some_of_mem (hkeyed.getPorts_nodup host) hrecord,
      hopen⟩
  · rintro ⟨record, hlookup, hopen⟩
    exact ⟨record, ⟨mem_of_lookup hlookup, hopen⟩, key_of_lookup hlookup⟩

theorem nodup_openPorts (hkeyed : network.WellKeyed) (host : Str) :
    (openPorts (network.getPorts host)).Nodup :=
  (hkeyed.getPorts_nodup host).sublist
    (List.Sublist.map _ (List.filter_sublist))

theorem wellKeyed_of_session (run : Run (SessionStep std) {} trace session) :
    session.context.network.WellKeyed :=
  run.invariant (fun session => session.context.network.WellKeyed)
    (fun _ _ _ hkeyed hstep => wellKeyed_of_step hstep hkeyed) .empty

theorem bounds_of_lastWrite (run : Run (SessionStep std) {} trace session)
    {ip : Str} {port : Int} {record : PortInfo}
    (h : LastWrite (portWrites ip port) trace (some record)) :
    1 ≤ port ∧ port ≤ 65535 := by
  obtain ⟨before, past, turn, after, htrace, hwrites, _⟩ := h
  obtain ⟨_, _, hstep, _⟩ := run.split htrace
  rw [portWrites, Turn.reported] at hwrites
  split_ifs at hwrites with hresets
  · cases hwrites
  split at hwrites
  · next host job hscan =>
      by_cases hip : ip = host
      case neg =>
        rw [if_neg hip] at hwrites
        cases hwrites
      rw [if_pos hip] at hwrites
      cases hlatest : latest Port.number turn.outcome.results port with
      | none =>
          rw [hlatest] at hwrites
          cases hwrites
      | some result =>
          obtain ⟨hmem, rfl⟩ : result ∈ turn.outcome.results ∧
              result.number = port :=
            ⟨List.mem_reverse.mp (mem_of_lookup hlatest),
              key_of_lookup hlatest⟩
          exact ScanJob.ports_bounds
            ((hstep.2.1 host job hscan).mem_ports hmem)
  · cases hwrites

theorem probed_iff (run : Run (SessionStep std) {} trace session)
    {before after : List (Session × Turn)} {past : Session} {turn : Turn}
    (htrace : trace = before ++ (past, turn) :: after) {host : Str}
    {ports : List Int}
    (h : turn.detection? past.context.network = some (host, ports))
    (port : Int) : port ∈ ports ↔ LastReportedOpen before host port := by
  have hbefore := (run.split htrace).1
  rw [of_detection? h, mem_openPorts_iff (wellKeyed_of_session hbefore)]
  simp only [stored_port_iff hbefore, LastReportedOpen]

/-- A detection tries exactly the ports that the last scan reporting on them
found open, each once. -/
theorem probes_lastReportedOpen (run : Run (SessionStep std) {} trace session)
    {before after : List (Session × Turn)} {past : Session} {turn : Turn}
    (htrace : trace = before ++ (past, turn) :: after) {host : Str}
    {ports : List Int}
    (h : turn.detection? past.context.network = some (host, ports)) :
    ports.Nodup ∧
      (∀ port, port ∈ ports ↔ LastReportedOpen before host port) ∧
      ∀ port ∈ ports, 1 ≤ port ∧ port ≤ 65535 := by
  have hbefore := (run.split htrace).1
  refine ⟨?_, probed_iff run htrace h, fun port hport => ?_⟩
  · rw [of_detection? h]
    exact nodup_openPorts (wellKeyed_of_session hbefore) host
  · obtain ⟨record, hwrite, _⟩ := (probed_iff run htrace h port).mp hport
    exact bounds_of_lastWrite hbefore hwrite

theorem probes_scannedTwice :
    ∃ trace past turn after, Run (SessionStep (.merge Port)) {} trace
        (scannedTwice false) ∧
      trace = [(({} : Session), scanWeb true)] ++ (past, turn) :: after ∧
      turn.detection? past.context.network =
        some ("10.0.0.5".toList, [80]) ∧
      LastReportedOpen [({}, scanWeb true)] "10.0.0.5".toList 80 := by
  have run := run_scannedTwice false
  have hdetection : detectWeb.detection?
      (({} : Session).next (scanWeb true)).context.network =
        some ("10.0.0.5".toList, [80]) := by decide
  refine ⟨_, _, _, _, run, rfl, hdetection, ?_⟩
  exact ((probes_lastReportedOpen run rfl hdetection).2.1 80).mp (by simp)

end SlipNet.Cli
