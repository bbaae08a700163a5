import SlipNet.Core.NetworkState
import SlipNet.Standard.Sorting
import SlipNet.Foundation.Folds
import SlipNet.Foundation.Runs

/-!
# The port scanner

`PortScanner::scan` starts one asynchronous worker a port and collects the
workers' results.  The stop flag is read by the launching loop, by every worker
before it connects, and by the collecting loop before each `get()`; a signal
may raise it between any two of these reads.  One step of the model is one of
these actions, so a run is one interleaving.
-/

namespace SlipNet.Scanning

open SlipNet.Foundation
open SlipNet.Standard
open SlipNet.Core

structure Port where
  number : Int
  isOpen : Bool
  latencyMs : Double
  deriving DecidableEq, Repr

/-! ## What is scanned -/

def MAX_WORKERS : Nat := 64

def COMMON_PORTS : List Int :=
  [21, 22, 23, 25, 53, 80, 110, 135, 139, 143, 443, 445, 3306, 3389, 5432,
    5900, 6379, 8080, 8443]

/-- The two overloads of `scan`. -/
inductive ScanJob
  | common
  | range (startPort endPort : Int)
  deriving DecidableEq, Repr

def portRange (first last : Int) : List Int :=
  (List.range (last + 1 - first).toNat).map fun offset : Nat => first + offset

def ScanJob.ports : ScanJob → List Int
  | .common => COMMON_PORTS
  | .range startPort endPort =>
      portRange (max 1 startPort) (min 65535 endPort)

/-- Only the range scan waits for a full batch of workers. -/
def ScanJob.batchFull : ScanJob → Nat → Bool
  | .common, _ => false
  | .range _ _, count => MAX_WORKERS ≤ count

theorem mem_portRange {first last port : Int} :
    port ∈ portRange first last ↔ first ≤ port ∧ port ≤ last := by
  simp only [portRange, List.mem_map, List.mem_range]
  constructor
  · rintro ⟨offset, hoffset, rfl⟩
    omega
  · intro h
    exact ⟨(port - first).toNat, by omega, by omega⟩

theorem nodup_portRange (first last : Int) :
    (portRange first last).Nodup := by
  refine List.Nodup.map (fun a b h => ?_) List.nodup_range
  have hab : first + (a : Int) = first + b := h
  omega

theorem ScanJob.nodup_ports (job : ScanJob) : job.ports.Nodup := by
  cases job with
  | common => decide
  | range startPort endPort => exact nodup_portRange _ _

theorem ScanJob.ports_bounds {job : ScanJob} {port : Int}
    (h : port ∈ job.ports) : 1 ≤ port ∧ port ≤ 65535 := by
  cases job with
  | common =>
      have hall : ∀ common ∈ COMMON_PORTS, 1 ≤ common ∧ common ≤ 65535 := by
        decide
      exact hall port h
  | range startPort endPort =>
      rw [ScanJob.ports, mem_portRange] at h
      omega

/-! ## Workers -/

/-- How far a worker is in `checkPort`: before its own read of the flag,
inside `tcpConnect`, or finished, having seen the flag or having connected. -/
inductive Phase
  | started
  | connecting
  | skipped
  | connected (valid : Bool) (latencyMs : Double)
  deriving DecidableEq, Repr

structure Worker where
  port : Int
  phase : Phase
  deriving DecidableEq, Repr

def Worker.result? (worker : Worker) : Option Port :=
  match worker.phase with
  | .skipped => some ⟨worker.port, false, .zero⟩
  | .connected valid latencyMs => some ⟨worker.port, valid, latencyMs⟩
  | _ => none

def Worker.attempt? (worker : Worker) : Option Port :=
  match worker.phase with
  | .connected valid latencyMs => some ⟨worker.port, valid, latencyMs⟩
  | _ => none

/-! ## The scanning thread -/

/-- `last` tells the collection behind the launching loop from the one inside
it. -/
inductive Pc
  | launch
  | collect (last : Bool) (i : Nat)
  | get (last : Bool) (i : Nat)
  | release (last : Bool)
  | returned
  deriving DecidableEq, Repr

/-- `workers` are all workers launched so far; the vector `futures` holds those
behind the first `released`. -/
structure ScanState where
  stop : Bool
  pc : Pc
  todo : List Int
  workers : List Worker
  released : Nat
  results : List Port
  deriving DecidableEq, Repr

def ScanJob.start (job : ScanJob) : ScanState where
  stop := false
  pc := .launch
  todo := job.ports
  workers := []
  released := 0
  results := []

def onePort (port : Int) (stop : Bool) (pc : Pc) (phase : Phase)
    (results : List Port) : ScanState where
  stop := stop
  pc := pc
  todo := []
  workers := [⟨port, phase⟩]
  released := 0
  results := results

inductive Action
  | main
  | check (i : Nat)
  | connect (i : Nat) (valid : Bool) (latencyMs : Double)
  | signal
  deriving DecidableEq, Repr

def byNumber (a b : Port) : Bool := a.number < b.number

theorem byNumber_strictWeakOrder : StrictWeakOrder byNumber :=
  .of_key Port.number fun a b => by simp [byNumber]

def ScanState.setPhase (state : ScanState) (i : Nat) (worker : Worker)
    (phase : Phase) : ScanState :=
  { state with workers := state.workers.set i { worker with phase := phase } }

def ScanState.launchWorker (job : ScanJob) (port : Int) (rest : List Int)
    (state : ScanState) : ScanState :=
  { state with
    todo := rest
    workers := state.workers ++ [⟨port, .started⟩]
    pc :=
      if job.batchFull (state.workers.length + 1 - state.released) then
        .collect false 0
      else .launch }

variable (std : SortRoutine Port) (job : ScanJob)

/-- One action of the scanning thread; `none` while it is blocked. -/
def stepMain (state : ScanState) : Option ScanState :=
  match state.pc with
  | .launch =>
      match state.todo with
      | [] => some { state with pc := .collect true 0 }
      | port :: rest =>
          if state.stop then some { state with pc := .collect true 0 }
          else some (state.launchWorker job port rest)
  | .collect last i =>
      if state.released + i < state.workers.length && !state.stop then
        some { state with pc := .get last i }
      else some { state with pc := .release last }
  | .get last i =>
      (state.workers[state.released + i]?.bind Worker.result?).map
        fun port =>
          { state with
            results := state.results ++ [port]
            pc := .collect last (i + 1) }
  | .release last =>
      -- the destructor of an asynchronous future waits for its worker
      if (state.workers.drop state.released).all (·.result?.isSome) then
        if last then
          some { state with
            results := std.sort byNumber state.results
            pc := .returned }
        else
          some { state with released := state.workers.length, pc := .launch }
      else none
  | .returned => none

def stepCheck (i : Nat) (state : ScanState) : Option ScanState :=
  match state.workers[i]? with
  | some worker =>
      if worker.phase = .started then
        some (state.setPhase i worker
          (if state.stop then .skipped else .connecting))
      else none
  | none => none

def stepConnect (i : Nat) (valid : Bool) (latencyMs : Double)
    (state : ScanState) : Option ScanState :=
  match state.workers[i]? with
  | some worker =>
      if worker.phase = .connecting then
        some (state.setPhase i worker (.connected valid latencyMs))
      else none
  | none => none

def step (state : ScanState) : Action → Option ScanState
  | .main => stepMain std job state
  | .check i => stepCheck i state
  | .connect i valid latencyMs => stepConnect i valid latencyMs state
  | .signal => some { state with stop := true }

abbrev ScanStep (state : ScanState) (action : Action) (next : ScanState) :
    Prop :=
  step std job state action = some next

/-! ## What a step can do -/

variable {std job} {state next : ScanState}

theorem stepCheck_cases {i : Nat} (h : stepCheck i state = some next) :
    ∃ worker, state.workers[i]? = some worker ∧ worker.phase = .started ∧
      next = state.setPhase i worker
        (if state.stop then .skipped else .connecting) := by
  unfold stepCheck at h
  split at h
  · next worker hworker =>
      split at h
      · next hphase => exact ⟨worker, hworker, hphase, by simpa using h.symm⟩
      · cases h
  · cases h

theorem stepConnect_cases {i : Nat} {valid : Bool} {latencyMs : Double}
    (h : stepConnect i valid latencyMs state = some next) :
    ∃ worker, state.workers[i]? = some worker ∧
      worker.phase = .connecting ∧
      next = state.setPhase i worker (.connected valid latencyMs) := by
  unfold stepConnect at h
  split at h
  · next worker hworker =>
      split at h
      · next hphase => exact ⟨worker, hworker, hphase, by simpa using h.symm⟩
      · cases h
  · cases h

theorem stepMain_cases (h : stepMain std job state = some next) :
    (state.pc = .launch ∧ (state.todo = [] ∨ state.stop = true) ∧
      next = { state with pc := .collect true 0 }) ∨
    (∃ port rest, state.pc = .launch ∧ state.todo = port :: rest ∧
      state.stop = false ∧ next = state.launchWorker job port rest) ∨
    (∃ last i, state.pc = .collect last i ∧
      state.released + i < state.workers.length ∧ state.stop = false ∧
      next = { state with pc := .get last i }) ∨
    (∃ last i, state.pc = .collect last i ∧
      (state.workers.length ≤ state.released + i ∨ state.stop = true) ∧
      next = { state with pc := .release last }) ∨
    (∃ last i worker port, state.pc = .get last i ∧
      state.workers[state.released + i]? = some worker ∧
      worker.result? = some port ∧
      next = { state with
        results := state.results ++ [port], pc := .collect last (i + 1) }) ∨
    (state.pc = .release false ∧
      next = { state with
        released := state.workers.length, pc := .launch }) ∨
    (state.pc = .release true ∧
      next = { state with
        results := std.sort byNumber state.results, pc := .returned }) := by
  unfold stepMain at h
  split at h
  · next hpc =>
      split at h
      · next htodo => exact .inl ⟨hpc, .inl htodo, by simpa using h.symm⟩
      · next port rest htodo =>
          split at h
          · next hstop =>
              exact .inl ⟨hpc, .inr hstop, by simpa using h.symm⟩
          · next hstop =>
              exact .inr (.inl ⟨port, rest, hpc, htodo, by simpa using hstop,
                by simpa using h.symm⟩)
  · next last i hpc =>
      split at h
      · next hgo =>
          rw [Bool.and_eq_true, Bool.not_eq_true', decide_eq_true_eq] at hgo
          exact .inr (.inr (.inl
            ⟨last, i, hpc, hgo.1, hgo.2, by simpa using h.symm⟩))
      · next hends =>
          rw [Bool.and_eq_true, Bool.not_eq_true', decide_eq_true_eq,
            not_and_or, not_lt, Bool.not_eq_false] at hends
          exact .inr (.inr (.inr (.inl
            ⟨last, i, hpc, hends, by simpa using h.symm⟩)))
  · next last i hpc =>
      obtain ⟨port, hport, rfl⟩ := Option.map_eq_some_iff.mp h
      obtain ⟨worker, hworker, hresult⟩ := Option.bind_eq_some_iff.mp hport
      exact .inr (.inr (.inr (.inr (.inl
        ⟨last, i, worker, port, hpc, hworker, hresult, rfl⟩))))
  · next last hpc =>
      split at h
      · split at h
        · next hlast =>
            subst hlast
            exact .inr (.inr (.inr (.inr (.inr (.inr
              ⟨hpc, by simpa using h.symm⟩)))))
        · next hlast =>
            rw [Bool.not_eq_true] at hlast
            subst hlast
            exact .inr (.inr (.inr (.inr (.inr (.inl
              ⟨hpc, by simpa using h.symm⟩)))))
      · cases h
  · cases h

/-! ## Workers along a step -/

theorem mem_workers_setPhase {i : Nat} {worker other : Worker} {phase : Phase}
    (h : other ∈ (state.setPhase i worker phase).workers) :
    other ∈ state.workers ∨ other = { worker with phase := phase } :=
  List.mem_or_eq_of_mem_set h

theorem map_port_setPhase {i : Nat} {worker : Worker} {phase : Phase}
    (h : state.workers[i]? = some worker) :
    (state.setPhase i worker phase).workers.map Worker.port =
      state.workers.map Worker.port := by
  obtain ⟨hi, rfl⟩ := List.getElem?_eq_some_iff.mp h
  apply List.ext_getElem?
  intro j
  by_cases hij : i = j
  · subst hij
    simp [ScanState.setPhase, hi]
  · simp [ScanState.setPhase, List.getElem?_set_ne hij]

theorem mem_setPhase_of_mem {i : Nat} {worker other : Worker} {phase : Phase}
    (h : state.workers[i]? = some worker) (hother : other ∈ state.workers)
    (hne : other.phase ≠ worker.phase) :
    other ∈ (state.setPhase i worker phase).workers := by
  obtain ⟨j, hj⟩ := List.mem_iff_getElem?.mp hother
  have hij : i ≠ j := by
    rintro rfl
    rw [h] at hj
    exact hne (Option.some.inj hj ▸ rfl)
  refine List.mem_iff_getElem?.mpr ⟨j, ?_⟩
  rw [ScanState.setPhase, List.getElem?_set_ne hij]
  exact hj

theorem Worker.finished_of_result? {worker : Worker} {port : Port}
    (h : worker.result? = some port) :
    worker.phase ≠ .started ∧ worker.phase ≠ .connecting := by
  unfold Worker.result? at h
  split at h <;> simp_all

theorem mem_workers_of_step {action : Action} {worker : Worker} {port : Port}
    (h : ScanStep std job state action next) (hworker : worker ∈ state.workers)
    (hresult : worker.result? = some port) : worker ∈ next.workers := by
  obtain ⟨hstarted, hconnecting⟩ := Worker.finished_of_result? hresult
  cases action with
  | signal =>
      cases h
      exact hworker
  | check i =>
      obtain ⟨other, hother, hphase, rfl⟩ := stepCheck_cases h
      exact mem_setPhase_of_mem hother hworker (hphase ▸ hstarted)
  | connect i valid latencyMs =>
      obtain ⟨other, hother, hphase, rfl⟩ := stepConnect_cases h
      exact mem_setPhase_of_mem hother hworker (hphase ▸ hconnecting)
  | main =>
      rcases stepMain_cases h with ⟨_, _, rfl⟩ | ⟨port, rest, _, _, _, rfl⟩ |
        ⟨last, i, _, _, _, rfl⟩ | ⟨last, i, _, _, rfl⟩ |
        ⟨last, i, other, port, _, _, _, rfl⟩ | ⟨_, rfl⟩ | ⟨_, rfl⟩
      case inr.inl => exact List.mem_append_left _ hworker
      all_goals exact hworker

/-! ## Storing the results -/

/-- The record `handlePortScan` stores for a result. -/
def Port.info (result : Port) : PortInfo where
  port := result.number
  isOpen := result.isOpen
  protocol := "TCP".toList
  service := []

/-- The loop of `handlePortScan` over the results. -/
def storeResults (host : Str) (results : List Port) (network : NetworkState) :
    NetworkState :=
  results.foldl (fun network result => network.addPort host result.info)
    network

variable {host ip : Str} {results : List Port}

@[simp] theorem getHosts_storeResults (network : NetworkState) :
    (storeResults host results network).getHosts = network.getHosts :=
  foldl_keeps NetworkState.getHosts fun _ _ => rfl

@[simp] theorem getServices_storeResults (network : NetworkState) :
    (storeResults host results network).getServices =
      network.getServices :=
  foldl_keeps NetworkState.getServices fun _ _ => rfl

theorem getPorts_storeResults_ne_nil_iff (network : NetworkState) :
    (storeResults host results network).getPorts ip ≠ [] ↔
      network.getPorts ip ≠ [] ∨ ip = host ∧ results ≠ [] := by
  have hadded : (storeResults host results network).getPorts ip ≠ [] ↔
      network.getPorts ip ≠ [] ∨ ∃ result ∈ results, ip = host := by
    refine foldl_adds_iff (NetworkState.getPorts · ip ≠ []) ?_
    intro network result
    rw [NetworkState.getPorts_addPort]
    split_ifs with hip
    · have hput : put PortInfo.port result.info (network.getPorts host) ≠ [] :=
        List.ne_nil_of_mem (mem_put_self _ _)
      simp [hip, hput]
    · simp [hip]
  rw [hadded]
  cases results with
  | nil => simp
  | cons result results => simp

theorem wellKeyed_storeResults {network : NetworkState} (h : network.WellKeyed)
    (host : Str) (results : List Port) :
    (storeResults host results network).WellKeyed :=
  List.foldlRecOn results _ h fun _ hkeyed result _ =>
    hkeyed.addPort host result.info

theorem mem_getPorts_storeResults {network : NetworkState} {record : PortInfo}
    (h : record ∈ (storeResults host results network).getPorts ip) :
    record ∈ network.getPorts ip ∨
      ip = host ∧ ∃ result ∈ results, record = result.info := by
  have hadded : record ∈ network.getPorts ip ∨
      ∃ result ∈ results, ip = host ∧ record = result.info := by
    refine foldl_adds_only (record ∈ NetworkState.getPorts · ip) ?_ h
    intro network result _ hput
    rw [NetworkState.getPorts_addPort] at hput
    split at hput
    · next hip =>
        rcases mem_put hput with hnew | hold
        · exact .inr ⟨hip, hnew⟩
        · exact .inl (hip ▸ hold)
    · exact .inl hput
  refine hadded.imp_right ?_
  rintro ⟨result, hresult, hip, hnew⟩
  exact ⟨hip, result, hresult, hnew⟩

theorem mem_getPorts_storeResults_of_mem {network : NetworkState}
    {record : PortInfo} (h : record ∈ network.getPorts ip)
    (hnumber : ip = host → record.port ∉ results.map Port.number) :
    record ∈ (storeResults host results network).getPorts ip := by
  induction results generalizing network with
  | nil => exact h
  | cons result results ih =>
      refine ih ?_ fun hip hmem => hnumber hip (List.mem_cons_of_mem _ hmem)
      rw [NetworkState.getPorts_addPort]
      split_ifs with hip
      · have hne : record.port ≠ result.info.port := fun heq =>
          hnumber hip (by rw [heq]; exact List.mem_cons_self)
        exact mem_put_of_ne (hip ▸ h) hne
      · exact h

theorem info_mem_getPorts_storeResults {network : NetworkState}
    (hnodup : (results.map Port.number).Nodup) {result : Port}
    (h : result ∈ results) :
    result.info ∈ (storeResults host results network).getPorts host := by
  induction results generalizing network with
  | nil => simp at h
  | cons first results ih =>
      rw [List.map_cons, List.nodup_cons] at hnodup
      rcases List.mem_cons.mp h with rfl | h
      · change result.info ∈ (storeResults host results
          (network.addPort host result.info)).getPorts host
        refine mem_getPorts_storeResults_of_mem ?_ fun _ => hnodup.1
        rw [NetworkState.getPorts_addPort_self]
        exact mem_put_self _ _
      · exact ih hnodup.2 h

theorem lookup_storeResults_of_notMem {network : NetworkState} {port : Int}
    (h : port ∉ results.map Port.number) :
    lookup PortInfo.port port ((storeResults host results network).getPorts ip)
      = lookup PortInfo.port port (network.getPorts ip) := by
  induction results generalizing network with
  | nil => rfl
  | cons result results ih =>
      rw [List.map_cons, List.mem_cons, not_or] at h
      refine (ih h.2).trans ?_
      rw [NetworkState.getPorts_addPort]
      split
      · next hip => exact hip ▸ (lookup_put _ _ _).trans (if_neg h.1)
      · rfl

end SlipNet.Scanning
