import SlipNet.Port.ScanResults

/-!
# Port scans without a stop

While no stop is requested every port gets a worker, every worker connects, and
the collecting loops take the values of all workers in the order in which they
were launched.  Every step lowers a measure and a scan that has not returned
has a next step, so whatever order the workers finish in, the scan returns, and
it returns the outcome of every port.
-/

namespace SlipNet.Scanning

open SlipNet.Foundation
open SlipNet.Standard

/-- No stop is requested, and a connection has the outcome of its port. -/
def Follows (outcome : Int → Bool) (state : ScanState) : Action → Prop
  | .signal => False
  | .connect i valid _ =>
      ∀ worker ∈ state.workers[i]?, valid = outcome worker.port
  | _ => True

def Phase.Follows (valid : Bool) : Phase → Prop
  | .skipped => False
  | .connected result _ => result = valid
  | _ => True

def Phase.remaining : Phase → Nat
  | .started => 2
  | .connecting => 1
  | _ => 0

/-! ## Ports in order -/

theorem portRange_sorted (first last : Int) :
    (portRange first last).Pairwise (· < ·) := by
  refine List.pairwise_map.mpr (List.pairwise_lt_range.imp ?_)
  intro a b hab
  omega

theorem ScanJob.ports_sorted (job : ScanJob) :
    job.ports.Pairwise (· < ·) := by
  cases job with
  | common => decide
  | range startPort endPort => exact portRange_sorted _ _

/-! ## The position of the scanning thread -/

def ScanState.remaining (state : ScanState) : Nat :=
  let held := state.workers.length - state.released
  8 * state.todo.length +
    match state.pc with
    | .launch => 2 * held + 3
    | .collect false i => 2 * (held - i) + 5
    | .get false i => 2 * (held - i) + 4
    | .release false => 4
    | .collect true i => 2 * (held - i) + 2
    | .get true i => 2 * (held - i) + 1
    | .release true => 1
    | .returned => 0

def ScanState.measure (state : ScanState) : Nat :=
  state.remaining + (state.workers.map fun worker =>
    worker.phase.remaining).sum

/-- The last collection starts when every port has its worker, and the
collecting loop stays within the workers. -/
def ScanState.Positioned (state : ScanState) : Prop :=
  match state.pc with
  | .launch => state.released ≤ state.workers.length
  | .collect last i => state.released + i ≤ state.workers.length ∧
      (last = true → state.todo = [])
  | .get last i => state.released + i < state.workers.length ∧
      (last = true → state.todo = [])
  | .release last => last = true → state.todo = []
  | .returned => state.todo = []

variable {std : SortRoutine Port} {job : ScanJob} {state next : ScanState}
  {action : Action} {outcome : Int → Bool}

theorem stepMain_cases_of_not_stop (hstop : state.stop = false)
    (h : stepMain std job state = some next) :
    (state.pc = .launch ∧ state.todo = [] ∧
      next = { state with pc := .collect true 0 }) ∨
    (∃ port rest, state.pc = .launch ∧ state.todo = port :: rest ∧
      next = state.launchWorker job port rest) ∨
    (∃ last i, state.pc = .collect last i ∧
      state.released + i < state.workers.length ∧
      next = { state with pc := .get last i }) ∨
    (∃ last i, state.pc = .collect last i ∧
      state.workers.length ≤ state.released + i ∧
      next = { state with pc := .release last }) ∨
    (∃ last i worker port, state.pc = .get last i ∧
      state.workers[state.released + i]? = some worker ∧
      worker.result? = some port ∧
      next = { state with
        results := state.results ++ [port], pc := .collect last (i + 1) }) ∨
    (state.pc = .release false ∧
      next = { state with
        released := state.workers.length, pc := .launch }) ∨
    (state.pc = .release true ∧
      next = { state with
        results := std.sort byNumber state.results, pc := .returned }) := by
  have hgoes {p : Prop} (h : p ∨ state.stop = true) : p :=
    h.resolve_right fun hset => by simp [hset] at hstop
  rcases stepMain_cases h with ⟨hpc, htodo, hnext⟩ |
    ⟨port, rest, hpc, htodo, _, hnext⟩ | ⟨last, i, hpc, hlt, _, hnext⟩ |
    ⟨last, i, hpc, hle, hnext⟩ | hget | hagain | hreturn
  · exact .inl ⟨hpc, hgoes htodo, hnext⟩
  · exact .inr (.inl ⟨port, rest, hpc, htodo, hnext⟩)
  · exact .inr (.inr (.inl ⟨last, i, hpc, hlt, hnext⟩))
  · exact .inr (.inr (.inr (.inl ⟨last, i, hpc, hgoes hle, hnext⟩)))
  · exact .inr (.inr (.inr (.inr (.inl hget))))
  · exact .inr (.inr (.inr (.inr (.inr (.inl hagain)))))
  · exact .inr (.inr (.inr (.inr (.inr (.inr hreturn)))))

/-! ## The invariant -/

/-- Nothing was stopped, and the results are the outcomes of the workers whose
values were taken, in the order of their launch. -/
structure Unstopped (outcome : Int → Bool) (state : ScanState) : Prop where
  stop : state.stop = false
  positioned : state.Positioned
  follows : ∀ worker ∈ state.workers,
    worker.phase.Follows (outcome worker.port)
  results : (state.results.map fun result => (result.number, result.isOpen)) =
    ((state.workers.map Worker.port).take state.taken).map fun port =>
      (port, outcome port)

theorem unstopped_start (outcome : Int → Bool) (job : ScanJob) :
    Unstopped outcome job.start where
  stop := rfl
  positioned := Nat.le_refl 0
  follows := by simp [ScanJob.start]
  results := rfl

theorem Worker.isOpen_of_follows {worker : Worker} {valid : Bool}
    {result : Port} (h : worker.phase.Follows valid)
    (hresult : worker.result? = some result) : result.isOpen = valid := by
  cases worker with
  | mk port phase =>
      cases phase with
      | connected found latencyMs =>
          cases hresult
          exact h
      | skipped => exact absurd h id
      | _ => cases hresult

theorem Unstopped.setPhase (h : Unstopped outcome state) {i : Nat}
    {worker : Worker} {phase : Phase}
    (hworker : state.workers[i]? = some worker)
    (hphase : phase.Follows (outcome worker.port)) :
    Unstopped outcome (state.setPhase i worker phase) where
  stop := h.stop
  positioned := by
    have hposition := h.positioned
    unfold ScanState.Positioned at hposition ⊢
    simpa only [ScanState.setPhase, List.length_set] using hposition
  follows := by
    intro other hother
    rcases mem_workers_setPhase hother with hother | rfl
    · exact h.follows other hother
    · exact hphase
  results := by
    rw [map_port_setPhase hworker, taken_setPhase]
    exact h.results

theorem Unstopped.sort_results (h : Unstopped outcome state)
    (hconsistent : Consistent job state) (std : SortRoutine Port) :
    std.sort byNumber state.results = state.results := by
  have hnumbers : state.results.map Port.number =
      (state.workers.map Worker.port).take state.taken := by
    have hfirst := congrArg (List.map Prod.fst) h.results
    simpa [Function.comp_def] using hfirst
  have hsorted : (state.results.map Port.number).Pairwise (· < ·) := by
    rw [hnumbers]
    refine job.ports_sorted.sublist ?_
    rw [← hconsistent.ports]
    exact (List.take_sublist _ _).trans (List.sublist_append_left _ _)
  refine std.sort_eq_self byNumber_strictWeakOrder ?_
  exact (List.pairwise_map.mp hsorted).imp fun hlt => decide_eq_true hlt

theorem Unstopped.launchWorker (h : Unstopped outcome state)
    (hpc : state.pc = .launch) (port : Int) (rest : List Int) :
    Unstopped outcome (state.launchWorker job port rest) := by
  have hposition := h.positioned
  have hresults := h.results
  unfold ScanState.Positioned at hposition
  unfold ScanState.taken at hresults
  rw [hpc] at hposition hresults
  refine ⟨h.stop, ?_, ?_, ?_⟩
  · have hlength : state.released ≤
        (state.workers ++ [Worker.mk port .started]).length := by
      rw [List.length_append]
      exact Nat.le_add_right_of_le hposition
    unfold ScanState.launchWorker ScanState.Positioned
    split_ifs
    · exact ⟨hlength, by simp⟩
    · exact hlength
  · intro worker hworker
    rcases List.mem_append.mp hworker with hworker | hworker
    · exact h.follows worker hworker
    · rw [List.mem_singleton] at hworker
      rw [hworker]
      trivial
  · rw [taken_launchWorker, ScanState.launchWorker, List.map_append,
      List.take_append_of_le_length (by simpa using hposition)]
    exact hresults

theorem Unstopped.take (h : Unstopped outcome state) {last : Bool} {i : Nat}
    {worker : Worker} {port : Port} (hpc : state.pc = .get last i)
    (hworker : state.workers[state.released + i]? = some worker)
    (hvalue : worker.result? = some port) :
    Unstopped outcome { state with
      results := state.results ++ [port], pc := .collect last (i + 1) } := by
  have hposition := h.positioned
  have hresults := h.results
  unfold ScanState.Positioned at hposition
  unfold ScanState.taken at hresults
  rw [hpc] at hposition hresults
  refine ⟨h.stop, ⟨hposition.1, hposition.2⟩, h.follows, ?_⟩
  have hmem : worker ∈ state.workers :=
    List.mem_iff_getElem?.mpr ⟨_, hworker⟩
  have hport : (state.workers.map Worker.port)[state.released + i]? =
      some worker.port := by
    rw [List.getElem?_map, hworker]
    rfl
  have hresult : (port.number, port.isOpen) =
      (worker.port, outcome worker.port) := by
    rw [Worker.number_of_result? hvalue,
      Worker.isOpen_of_follows (h.follows worker hmem) hvalue]
  simp only [ScanState.taken, List.map_append, List.map_singleton,
    ← Nat.add_assoc]
  rw [List.take_add_one, hport, hresults, hresult]
  simp

theorem Unstopped.main (h : Unstopped outcome state)
    (hconsistent : Consistent job state)
    (hstep : ScanStep std job state .main next) : Unstopped outcome next := by
  have hposition := h.positioned
  have hresults := h.results
  unfold ScanState.Positioned at hposition
  unfold ScanState.taken at hresults
  rcases stepMain_cases_of_not_stop h.stop hstep with ⟨hpc, htodo, rfl⟩ |
    ⟨port, rest, hpc, htodo, rfl⟩ | ⟨last, i, hpc, hlt, rfl⟩ |
    ⟨last, i, hpc, hge, rfl⟩ | ⟨last, i, worker, port, hpc, hworker, hvalue,
      rfl⟩ | ⟨hpc, rfl⟩ | ⟨hpc, rfl⟩ <;> rw [hpc] at hposition hresults
  · exact ⟨h.stop, ⟨hposition, fun _ => htodo⟩, h.follows, hresults⟩
  · exact h.launchWorker hpc port rest
  · exact ⟨h.stop, ⟨hlt, hposition.2⟩, h.follows, hresults⟩
  · refine ⟨h.stop, hposition.2, h.follows, ?_⟩
    dsimp only at hresults
    rw [le_antisymm hposition.1 hge] at hresults
    exact hresults
  · exact h.take hpc hworker hvalue
  · exact ⟨h.stop, le_refl state.workers.length, h.follows, hresults⟩
  · refine ⟨h.stop, hposition rfl, h.follows, ?_⟩
    rw [h.sort_results hconsistent]
    exact hresults

theorem Unstopped.step (h : Unstopped outcome state)
    (hconsistent : Consistent job state)
    (hfollows : Follows outcome state action)
    (hstep : ScanStep std job state action next) : Unstopped outcome next := by
  cases action with
  | signal => exact absurd hfollows id
  | check i =>
      obtain ⟨worker, hworker, _, rfl⟩ := stepCheck_cases hstep
      refine h.setPhase hworker ?_
      rw [h.stop]
      trivial
  | connect i valid latencyMs =>
      obtain ⟨worker, hworker, _, rfl⟩ := stepConnect_cases hstep
      exact h.setPhase hworker (hfollows worker hworker)
  | main => exact h.main hconsistent hstep

/-! ## Termination -/

theorem measure_start (job : ScanJob) :
    job.start.measure = 8 * job.ports.length + 3 := rfl

theorem measure_setPhase {i : Nat} {worker : Worker} {phase : Phase}
    (hworker : state.workers[i]? = some worker)
    (hphase : phase.remaining < worker.phase.remaining) :
    (state.setPhase i worker phase).measure < state.measure := by
  have hremaining :
      (state.setPhase i worker phase).remaining = state.remaining := by
    simp only [ScanState.remaining, ScanState.setPhase, List.length_set]
  have hentry : (state.workers.map fun worker => worker.phase.remaining)[i]? =
      some worker.phase.remaining := by
    rw [List.getElem?_map, hworker]
    rfl
  rw [ScanState.measure, ScanState.measure, hremaining, ScanState.setPhase,
    List.map_set]
  exact Nat.add_lt_add_left (sum_set_lt hentry hphase) _

theorem Unstopped.measure_main (h : Unstopped outcome state)
    (hstep : ScanStep std job state .main next) :
    next.measure < state.measure := by
  have hposition := h.positioned
  unfold ScanState.Positioned at hposition
  unfold ScanState.measure ScanState.remaining
  rcases stepMain_cases_of_not_stop h.stop hstep with ⟨hpc, htodo, rfl⟩ |
    ⟨port, rest, hpc, htodo, rfl⟩ | ⟨last, i, hpc, hlt, rfl⟩ |
    ⟨last, i, hpc, hge, rfl⟩ | ⟨last, i, worker, port, hpc, hworker, hvalue,
      rfl⟩ | ⟨hpc, rfl⟩ | ⟨hpc, rfl⟩ <;> rw [hpc] at hposition ⊢
  · simp only
    omega
  · have hheld := hposition
    simp only [ScanState.launchWorker, htodo, List.length_cons,
      List.length_append, List.length_nil, List.map_append, List.map_cons,
      List.map_nil, List.sum_append, List.sum_cons, List.sum_nil,
      Phase.remaining]
    split_ifs <;> dsimp only <;> omega
  · cases last <;> dsimp only <;> omega
  · cases last <;> dsimp only <;> omega
  · have hlt := hposition.1
    cases last <;> dsimp only <;> omega
  · dsimp only
    omega
  · dsimp only
    omega

theorem Unstopped.measure_lt (h : Unstopped outcome state)
    (hfollows : Follows outcome state action)
    (hstep : ScanStep std job state action next) :
    next.measure < state.measure := by
  cases action with
  | signal => exact absurd hfollows id
  | check i =>
      obtain ⟨worker, hworker, hphase, rfl⟩ := stepCheck_cases hstep
      refine measure_setPhase hworker ?_
      rw [h.stop, hphase]
      decide
  | connect i valid latencyMs =>
      obtain ⟨worker, hworker, hphase, rfl⟩ := stepConnect_cases hstep
      refine measure_setPhase hworker ?_
      rw [hphase]
      exact Nat.zero_lt_one
  | main => exact h.measure_main hstep

def CanStep (std : SortRoutine Port) (job : ScanJob) (outcome : Int → Bool)
    (state : ScanState) : Prop :=
  ∃ action next, Follows outcome state action ∧
    ScanStep std job state action next

theorem canStep_of_isSome (action : Action)
    (hfollows : Follows outcome state action)
    (h : (step std job state action).isSome = true) :
    CanStep std job outcome state := by
  obtain ⟨next, hnext⟩ := Option.isSome_iff_exists.mp h
  exact ⟨action, next, hfollows, hnext⟩

theorem canStep_of_worker {i : Nat} {worker : Worker}
    (hworker : state.workers[i]? = some worker)
    (hresult : worker.result? = none) : CanStep std job outcome state := by
  cases hphase : worker.phase with
  | started =>
      refine canStep_of_isSome (.check i) trivial ?_
      simp [step, stepCheck, hworker, hphase]
  | connecting =>
      refine canStep_of_isSome (.connect i (outcome worker.port) .zero) ?_ ?_
      · intro other hother
        rw [hworker] at hother
        rw [Option.some.inj hother]
      · simp [step, stepConnect, hworker, hphase]
  | skipped => simp [Worker.result?, hphase] at hresult
  | connected valid latencyMs => simp [Worker.result?, hphase] at hresult

theorem canStep_of_unstopped (h : Unstopped outcome state)
    (hreturned : state.pc ≠ .returned) : CanStep std job outcome state := by
  have hposition := h.positioned
  unfold ScanState.Positioned at hposition
  have hmain : (step std job state .main).isSome = true →
      CanStep std job outcome state := canStep_of_isSome .main trivial
  cases hpc : state.pc with
  | launch =>
      cases htodo : state.todo with
      | nil => exact hmain (by simp [step, stepMain, hpc, htodo])
      | cons port rest =>
          exact hmain (by simp [step, stepMain, hpc, htodo, h.stop])
  | collect last i =>
      by_cases hlt : state.released + i < state.workers.length
      · exact hmain (by simp [step, stepMain, hpc, hlt, h.stop])
      · exact hmain (by simp [step, stepMain, hpc, hlt])
  | get last i =>
      rw [hpc] at hposition
      have hworker := List.getElem?_eq_getElem hposition.1
      cases hresult : (state.workers[state.released + i]).result? with
      | none => exact canStep_of_worker hworker hresult
      | some port =>
          exact hmain (by simp [step, stepMain, hpc, hworker, hresult])
  | release last =>
      by_cases hdone :
          (state.workers.drop state.released).all (·.result?.isSome) = true
      · refine hmain ?_
        simp only [step, stepMain, hpc, hdone, if_true]
        split_ifs <;> rfl
      · rw [List.all_eq_true] at hdone
        push Not at hdone
        obtain ⟨worker, hmem, hresult⟩ := hdone
        obtain ⟨i, hi⟩ :=
          List.mem_iff_getElem?.mp (List.mem_of_mem_drop hmem)
        exact canStep_of_worker hi (by simpa using hresult)
  | returned => exact absurd hpc hreturned

/-! ## Whole scans -/

section Scans

variable {trace : List (ScanState × Action)}
  (run : Run (ScanStep std job) job.start trace state)
  (hfollows : Throughout (Follows outcome) trace)

include run hfollows

theorem unstopped_of_run :
    Consistent job state ∧ Unstopped outcome state :=
  run.invariant_of_throughout
    (fun state => Consistent job state ∧ Unstopped outcome state)
    (Follows outcome)
    (fun _ _ _ h haction hstep =>
      ⟨h.1.step hstep, h.2.step h.1 haction hstep⟩)
    hfollows ⟨consistent_start job, unstopped_start outcome job⟩

theorem length_trace_le : trace.length ≤ 8 * job.ports.length + 3 := by
  have hbound := run.length_add_le
    (fun state => Consistent job state ∧ Unstopped outcome state)
    (Follows outcome) ScanState.measure
    (fun _ _ _ h haction hstep =>
      ⟨h.1.step hstep, h.2.step h.1 haction hstep⟩)
    (fun _ _ _ h haction hstep => h.2.measure_lt haction hstep)
    hfollows ⟨consistent_start job, unstopped_start outcome job⟩
  rw [measure_start] at hbound
  omega

theorem results_of_returned (hreturned : state.pc = .returned) :
    (state.results.map fun result => (result.number, result.isOpen)) =
      job.ports.map fun port => (port, outcome port) := by
  obtain ⟨hconsistent, h⟩ := unstopped_of_run run hfollows
  have htodo : state.todo = [] := by
    have hposition := h.positioned
    unfold ScanState.Positioned at hposition
    rwa [hreturned] at hposition
  have hports := hconsistent.ports
  rw [htodo, List.append_nil] at hports
  have hresults := h.results
  unfold ScanState.taken at hresults
  rw [hreturned] at hresults
  dsimp only at hresults
  rwa [← List.length_map Worker.port, List.take_length, hports] at hresults

end Scans

/-! ## A scan of two ports -/

def twoPorts (pc : Pc) (first second : Phase) (results : List Port) :
    ScanState where
  stop := false
  pc := pc
  todo := []
  workers := [⟨1, first⟩, ⟨2, second⟩]
  released := 0
  results := results

/-- The second worker is done before the first begins. -/
def secondFirst : List Action :=
  [.main, .main, .check 1, .connect 1 true .zero, .main, .main, .check 0,
    .connect 0 false .zero, .main, .main, .main, .main, .main]

theorem twoPorts_returned (std : SortRoutine Port) :
    ∃ trace state,
      Run (ScanStep std (.range 0 2)) (ScanJob.range 0 2).start trace state ∧
      trace.map Prod.snd = secondFirst ∧ state.pc = .returned ∧
      Throughout (Follows fun port => port = 2) trace := by
  let closed : Phase := .connected false .zero
  let opened : Phase := .connected true .zero
  let first : Port := ⟨1, false, .zero⟩
  let second : Port := ⟨2, true, .zero⟩
  have launched : Run (ScanStep std (.range 0 2)) (ScanJob.range 0 2).start _
      (twoPorts .launch .started .started []) :=
    ((Run.refl _).tail (a := .main) rfl).tail (a := .main) rfl
  have ahead := (launched.tail (a := .check 1)
    (u := twoPorts .launch .started .connecting []) rfl).tail
    (a := .connect 1 true .zero) (u := twoPorts .launch .started opened []) rfl
  have waiting := (ahead.tail (a := .main)
    (u := twoPorts (.collect true 0) .started opened []) rfl).tail
    (a := .main) (u := twoPorts (.get true 0) .started opened []) rfl
  have behind := (waiting.tail (a := .check 0)
    (u := twoPorts (.get true 0) .connecting opened []) rfl).tail
    (a := .connect 0 false .zero)
    (u := twoPorts (.get true 0) closed opened []) rfl
  have taken := ((behind.tail (a := .main)
    (u := twoPorts (.collect true 1) closed opened [first]) rfl).tail
    (a := .main) (u := twoPorts (.get true 1) closed opened [first]) rfl).tail
    (a := .main)
    (u := twoPorts (.collect true 2) closed opened [first, second]) rfl
  have returned := (taken.tail (a := .main)
    (u := twoPorts (.release true) closed opened [first, second]) rfl).tail
    (a := .main) (u := twoPorts .returned closed opened
      (std.sort byNumber [first, second])) rfl
  exact ⟨_, _, returned, rfl, rfl, by simp [Follows, twoPorts]⟩

end SlipNet.Scanning
