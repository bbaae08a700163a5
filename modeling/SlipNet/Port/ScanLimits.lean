import SlipNet.Port.UninterruptedScan

/-!
# The limits of a port scan

However the workers and the signals interleave, no more than a full batch of
workers is under way at a time, a scan comes to its end, and it leaves no
worker behind.  From the moment the stop flag is up no port gets a worker and
no waiting worker connects, and what is left to do is bounded by the width of a
batch, not by the number of ports.
-/

namespace SlipNet.Scanning

open SlipNet.Foundation
open SlipNet.Standard

def ScanState.unfinished (state : ScanState) : Nat :=
  state.workers.countP fun worker => worker.result? = none

def Action.isSignal : Action → Bool
  | .signal => true
  | _ => false

/-- The workers in front of the batch are done, and the batch is not wider than
it may be. -/
structure Limited (state : ScanState) : Prop where
  released_le : state.released ≤ state.workers.length
  finished : ∀ worker ∈ state.workers.take state.released,
    worker.result?.isSome
  narrow : state.workers.length - state.released ≤ MAX_WORKERS
  launching : state.pc = .launch →
    state.workers.length - state.released < MAX_WORKERS
  waiting : ∀ last i, state.pc = .get last i →
    state.released + i < state.workers.length
  returned : state.pc = .returned → ∀ worker ∈ state.workers,
    worker.result?.isSome

variable {std : SortRoutine Port} {job : ScanJob} {state next last : ScanState}
  {action : Action}

theorem limited_start (job : ScanJob) : Limited job.start where
  released_le := Nat.le_refl 0
  finished := by simp [ScanJob.start]
  narrow := Nat.zero_le _
  launching _ := by simp [ScanJob.start, MAX_WORKERS]
  waiting := by simp [ScanJob.start]
  returned := by simp [ScanJob.start]

theorem result?_of_release {last : Bool} (hpc : state.pc = .release last)
    (h : stepMain std job state = some next) :
    ∀ worker ∈ state.workers.drop state.released, worker.result?.isSome := by
  rw [stepMain, hpc] at h
  dsimp only at h
  split at h
  · next hall => exact List.all_eq_true.mp hall
  · cases h

theorem Limited.done_of_release (h : Limited state) {last : Bool}
    (hpc : state.pc = .release last)
    (hstep : stepMain std job state = some next) :
    ∀ worker ∈ state.workers, worker.result?.isSome := by
  intro worker hworker
  rw [← List.take_append_drop state.released state.workers] at hworker
  rcases List.mem_append.mp hworker with hfront | hbatch
  · exact h.finished worker hfront
  · exact result?_of_release hpc hstep worker hbatch

theorem lt_of_not_batchFull (hconsistent : Consistent job state)
    (h : job.batchFull (state.workers.length - state.released) = false) :
    state.workers.length - state.released < MAX_WORKERS := by
  cases job with
  | common =>
      have hlength := congrArg List.length hconsistent.ports
      have hcommon : ScanJob.common.ports.length = 19 := rfl
      rw [List.length_append, List.length_map, hcommon] at hlength
      unfold MAX_WORKERS
      omega
  | range startPort endPort =>
      simpa [ScanJob.batchFull] using h

theorem take_setPhase (h : ∀ worker ∈ state.workers.take state.released,
      worker.result?.isSome) {i : Nat} {worker : Worker} {phase : Phase}
    (hworker : state.workers[i]? = some worker)
    (hnone : worker.result? = none) :
    (state.setPhase i worker phase).workers.take state.released =
      state.workers.take state.released := by
  refine List.take_set_of_le ?_
  by_contra hlt
  have hmem : worker ∈ state.workers.take state.released := by
    refine List.mem_iff_getElem?.mpr ⟨i, ?_⟩
    rw [List.getElem?_take_of_lt (by omega), hworker]
  have hsome := h worker hmem
  rw [hnone] at hsome
  cases hsome

theorem Limited.setPhase (h : Limited state) {i : Nat} {worker : Worker}
    {phase : Phase} (hworker : state.workers[i]? = some worker)
    (hnone : worker.result? = none) :
    Limited (state.setPhase i worker phase) where
  released_le := by simpa [ScanState.setPhase] using h.released_le
  finished := by
    intro other hother
    refine h.finished other ?_
    rwa [← take_setPhase h.finished hworker hnone]
  narrow := by simpa [ScanState.setPhase] using h.narrow
  launching hpc := by simpa [ScanState.setPhase] using h.launching hpc
  waiting last i hpc := by simpa [ScanState.setPhase] using h.waiting last i hpc
  returned hpc := by
    have hsome := h.returned hpc worker (List.mem_of_getElem? hworker)
    rw [hnone] at hsome
    cases hsome

theorem Limited.main (h : Limited state) (hconsistent : Consistent job next)
    (hstep : ScanStep std job state .main next) : Limited next := by
  rcases stepMain_cases hstep with ⟨hpc, _, rfl⟩ |
    ⟨port, rest, hpc, _, _, rfl⟩ | ⟨last, i, hpc, hlt, _, rfl⟩ |
    ⟨last, i, hpc, _, rfl⟩ | ⟨last, i, worker, port, hpc, _, _, rfl⟩ |
    ⟨hpc, rfl⟩ | ⟨hpc, rfl⟩
  · exact ⟨h.released_le, h.finished, h.narrow, by simp, by simp, by simp⟩
  · have hle := h.released_le
    have hroom := h.launching hpc
    refine ⟨?_, ?_, ?_, fun hlaunch => ?_, fun last i hget => ?_,
      fun hreturned => ?_⟩
    · simp only [ScanState.launchWorker, List.length_append]
      omega
    · simp only [ScanState.launchWorker, List.take_append_of_le_length hle]
      exact h.finished
    · simp only [ScanState.launchWorker, List.length_append,
        List.length_singleton]
      omega
    · refine lt_of_not_batchFull hconsistent ?_
      simp only [ScanState.launchWorker, List.length_append,
        List.length_singleton] at hlaunch ⊢
      split_ifs at hlaunch with hfull
      rwa [Bool.not_eq_true] at hfull
    · simp only [ScanState.launchWorker] at hget
      split_ifs at hget
    · simp only [ScanState.launchWorker] at hreturned
      split_ifs at hreturned
  · refine ⟨h.released_le, h.finished, h.narrow, by simp, ?_, by simp⟩
    intro last' i' hget
    cases hget
    exact hlt
  · exact ⟨h.released_le, h.finished, h.narrow, by simp, by simp, by simp⟩
  · exact ⟨h.released_le, h.finished, h.narrow, by simp, by simp, by simp⟩
  · refine ⟨Nat.le_refl _, fun worker hworker => ?_, by simp, ?_, by simp,
      by simp⟩
    · exact h.done_of_release hpc hstep worker (List.mem_of_mem_take hworker)
    · simp [MAX_WORKERS]
  · exact ⟨h.released_le, h.finished, h.narrow, by simp, by simp,
      fun _ => h.done_of_release hpc hstep⟩

theorem Limited.step (h : Limited state) (hconsistent : Consistent job next)
    (hstep : ScanStep std job state action next) : Limited next := by
  cases action with
  | signal =>
      cases hstep
      exact ⟨h.released_le, h.finished, h.narrow, h.launching, h.waiting,
        h.returned⟩
  | check i =>
      obtain ⟨worker, hworker, hphase, rfl⟩ := stepCheck_cases hstep
      exact h.setPhase hworker (by simp [Worker.result?, hphase])
  | connect i valid latencyMs =>
      obtain ⟨worker, hworker, hphase, rfl⟩ := stepConnect_cases hstep
      exact h.setPhase hworker (by simp [Worker.result?, hphase])
  | main => exact h.main hconsistent hstep

theorem Limited.unfinished_le (h : Limited state) :
    state.unfinished ≤ MAX_WORKERS := by
  have hfront : (state.workers.take state.released).countP
      (fun worker => worker.result? = none) = 0 := by
    refine List.countP_eq_zero.mpr fun worker hworker => ?_
    have hsome := h.finished worker hworker
    simp [Option.isSome_iff_ne_none.mp hsome]
  calc
    state.unfinished =
        (state.workers.drop state.released).countP
          (fun worker => worker.result? = none) := by
      rw [ScanState.unfinished,
        ← List.take_append_drop state.released state.workers,
        List.countP_append, hfront, Nat.zero_add, List.take_append_drop]
    _ ≤ (state.workers.drop state.released).length := List.countP_le_length
    _ ≤ MAX_WORKERS := by
      rw [List.length_drop]
      exact h.narrow

/-! ## The end of a scan -/

/-- Every action but a signal brings the end nearer, and a signal does not put
it off. -/
theorem measure_add_le (h : Limited state)
    (hstep : ScanStep std job state action next) :
    next.measure + (if !action.isSignal then 1 else 0) ≤ state.measure := by
  cases action with
  | signal =>
      cases hstep
      exact Nat.le_refl _
  | check i =>
      obtain ⟨worker, hworker, hphase, rfl⟩ := stepCheck_cases hstep
      refine measure_setPhase hworker ?_
      rw [hphase]
      split_ifs <;> decide
  | connect i valid latencyMs =>
      obtain ⟨worker, hworker, hphase, rfl⟩ := stepConnect_cases hstep
      refine measure_setPhase hworker ?_
      rw [hphase]
      exact Nat.zero_lt_one
  | main =>
      have hwaiting := h.waiting
      have hreleased := h.released_le
      change next.measure + 1 ≤ state.measure
      unfold ScanState.measure ScanState.remaining
      rcases stepMain_cases hstep with ⟨hpc, _, rfl⟩ |
        ⟨port, rest, hpc, htodo, _, rfl⟩ | ⟨last, i, hpc, hlt, _, rfl⟩ |
        ⟨last, i, hpc, _, rfl⟩ | ⟨last, i, worker, port, hpc, hworker, _, rfl⟩ |
        ⟨hpc, rfl⟩ | ⟨hpc, rfl⟩ <;> rw [hpc]
      · dsimp only
        omega
      · simp only [ScanState.launchWorker, htodo, List.length_cons,
          List.length_append, List.length_nil, List.map_append, List.map_cons,
          List.map_nil, List.sum_append, List.sum_cons, List.sum_nil,
          Phase.remaining]
        split_ifs <;> dsimp only <;> omega
      · cases last <;> dsimp only <;> omega
      · cases last <;> dsimp only <;> omega
      · have hlt := hwaiting last i hpc
        cases last <;> dsimp only <;> omega
      · dsimp only
        omega
      · dsimp only
        omega

def Live (std : SortRoutine Port) (job : ScanJob) (state : ScanState) : Prop :=
  ∃ action, action.isSignal = false ∧ (step std job state action).isSome

theorem live_of_worker {worker : Worker} (h : worker ∈ state.workers)
    (hnone : worker.result? = none) : Live std job state := by
  obtain ⟨i, hi⟩ := List.mem_iff_getElem?.mp h
  cases hphase : worker.phase with
  | started =>
      exact ⟨.check i, rfl, by simp [step, stepCheck, hi, hphase]⟩
  | connecting =>
      exact ⟨.connect i false .zero, rfl, by simp [step, stepConnect, hi,
        hphase]⟩
  | skipped | connected =>
      rw [Worker.result?, hphase] at hnone
      cases hnone

theorem Limited.live (h : Limited state) (hreturned : state.pc ≠ .returned) :
    Live std job state := by
  have hmain : (stepMain std job state).isSome → Live std job state :=
    fun hsome => ⟨.main, rfl, hsome⟩
  cases hpc : state.pc with
  | launch =>
      refine hmain ?_
      rw [stepMain, hpc]
      dsimp only
      split
      · rfl
      · split_ifs <;> rfl
  | collect last i =>
      refine hmain ?_
      rw [stepMain, hpc]
      dsimp only
      split_ifs <;> rfl
  | get last i =>
      obtain ⟨worker, hworker⟩ : ∃ worker,
          state.workers[state.released + i]? = some worker :=
        ⟨_, List.getElem?_eq_getElem (h.waiting last i hpc)⟩
      cases hresult : worker.result? with
      | none => exact live_of_worker (List.mem_of_getElem? hworker) hresult
      | some port =>
          refine hmain ?_
          rw [stepMain, hpc]
          simp [hworker, hresult]
  | release last =>
      by_cases hdone : ∀ worker ∈ state.workers.drop state.released,
          worker.result?.isSome
      · refine hmain ?_
        rw [stepMain, hpc]
        dsimp only
        rw [if_pos (List.all_eq_true.mpr hdone)]
        split_ifs <;> rfl
      · push Not at hdone
        obtain ⟨worker, hmem, hnone⟩ := hdone
        exact live_of_worker (List.mem_of_mem_drop hmem) (by simpa using hnone)
  | returned => exact absurd hpc hreturned

section Scans

variable {trace : List (ScanState × Action)}

theorem limited_of_run (run : Run (ScanStep std job) job.start trace state) :
    Consistent job state ∧ Limited state :=
  run.invariant (fun state => Consistent job state ∧ Limited state)
    (fun _ _ _ h hstep => ⟨h.1.step hstep, h.2.step (h.1.step hstep) hstep⟩)
    ⟨consistent_start job, limited_start job⟩

/-- Whatever the signals do, a scan has at most a full batch of workers under
way, its threads take a bounded number of actions, and until it returns one of
them can act; when it returns no worker is left. -/
theorem scan_limited (run : Run (ScanStep std job) job.start trace state) :
    state.unfinished ≤ MAX_WORKERS ∧
      trace.countP (fun entry => !entry.2.isSignal) ≤
        8 * job.ports.length + 3 ∧
      (state.pc ≠ .returned → Live std job state) ∧
      (state.pc = .returned → state.unfinished = 0) := by
  obtain ⟨_, hlimited⟩ := limited_of_run run
  have hbound := run.countP_add_le
    (fun state => Consistent job state ∧ Limited state)
    (fun action => !action.isSignal) ScanState.measure
    (fun _ _ _ h hstep => ⟨h.1.step hstep, h.2.step (h.1.step hstep) hstep⟩)
    (fun _ _ _ h hstep => measure_add_le h.2 hstep)
    ⟨consistent_start job, limited_start job⟩
  rw [measure_start] at hbound
  refine ⟨hlimited.unfinished_le, by omega, hlimited.live, fun hpc => ?_⟩
  refine List.countP_eq_zero.mpr fun worker hworker => ?_
  have hsome := hlimited.returned hpc worker hworker
  simp [Option.isSome_iff_ne_none.mp hsome]

theorem scan_limited_twoPorts :
    ∃ trace state,
      Run (ScanStep (.merge Port) (.range 0 2)) (ScanJob.range 0 2).start trace
        state ∧
      trace.map Prod.snd = secondFirst ∧ state.pc = .returned ∧
      trace.countP (fun entry => !entry.2.isSignal) ≤
        8 * (ScanJob.range 0 2).ports.length + 3 ∧
      state.unfinished = 0 := by
  obtain ⟨trace, state, run, horder, hreturned, _⟩ :=
    twoPorts_returned (.merge Port)
  have ⟨_, hactions, _, hended⟩ := scan_limited run
  exact ⟨trace, state, run, horder, hreturned, hactions, hended hreturned⟩

end Scans

/-! ## Behind the stop flag -/

def ScanState.closing (state : ScanState) : Nat :=
  (match state.pc with
    | .launch => 3
    | .collect false _ => 5
    | .get false _ => 6
    | .release false => 4
    | .collect true _ => 2
    | .get true _ => 3
    | .release true => 1
    | .returned => 0) +
  (state.workers.map fun worker => worker.phase.remaining).sum

theorem closing_le (h : Limited state) :
    state.closing ≤ 2 * MAX_WORKERS + 6 := by
  have hphases : (state.workers.map fun worker => worker.phase.remaining).sum ≤
      2 * state.unfinished := by
    unfold ScanState.unfinished
    generalize state.workers = workers
    induction workers with
    | nil => exact Nat.le_refl _
    | cons worker workers ih =>
        rw [List.map_cons, List.sum_cons, List.countP_cons]
        have hphase : worker.phase.remaining ≤
            2 * if worker.result? = none then 1 else 0 := by
          cases worker with
          | mk port phase => cases phase <;> simp [Phase.remaining,
              Worker.result?]
        simp only [decide_eq_true_eq]
        omega
  have hunfinished := h.unfinished_le
  unfold ScanState.closing
  split <;> omega

/-- The flag stays up, and the workers that had not connected will not. -/
structure Closed (before state : ScanState) : Prop where
  stop : state.stop = true
  ports : state.workers.map Worker.port = before.workers.map Worker.port
  attempts : ∀ worker ∈ state.workers, worker.phase = .connecting ∨
      worker.attempt?.isSome → ∃ earlier ∈ before.workers,
    earlier.port = worker.port ∧
      (earlier.phase = .connecting ∨ earlier = worker)

theorem closed_start (hstop : state.stop = true) : Closed state state where
  stop := hstop
  ports := rfl
  attempts worker hworker _ := ⟨worker, hworker, rfl, .inr rfl⟩

variable {before : ScanState}

theorem Closed.of_workers (h : Closed before state)
    (hstop : next.stop = state.stop) (hworkers : next.workers = state.workers) :
    Closed before next where
  stop := hstop.trans h.stop
  ports := by rw [hworkers, h.ports]
  attempts := by
    rw [hworkers]
    exact h.attempts

theorem Closed.setPhase (h : Closed before state) {i : Nat} {worker : Worker}
    {phase : Phase} (hworker : state.workers[i]? = some worker)
    (hphase : worker.phase = .connecting ∨ phase = .skipped) :
    Closed before (state.setPhase i worker phase) where
  stop := h.stop
  ports := by rw [map_port_setPhase hworker, h.ports]
  attempts := by
    intro other hother hattempts
    rcases mem_workers_setPhase hother with hold | rfl
    · exact h.attempts other hold hattempts
    · rcases hphase with hconnecting | rfl
      · obtain ⟨earlier, hearlier, hport, heither⟩ := h.attempts worker
          (List.mem_of_getElem? hworker) (.inl hconnecting)
        refine ⟨earlier, hearlier, hport, .inl ?_⟩
        rcases heither with hphase | rfl
        · exact hphase
        · exact hconnecting
      · rcases hattempts with hphase | hsome
        · cases hphase
        · cases hsome

theorem Closed.step (h : Closed before state)
    (hstep : ScanStep std job state action next) :
    Closed before next ∧
      next.closing + (if !action.isSignal then 1 else 0) ≤ state.closing := by
  have hphases : ∀ {i : Nat} {worker : Worker} {phase : Phase},
      state.workers[i]? = some worker →
        phase.remaining < worker.phase.remaining →
          (state.setPhase i worker phase).closing < state.closing := by
    intro i worker phase hworker hlt
    have hentry : (state.workers.map fun worker =>
        worker.phase.remaining)[i]? = some worker.phase.remaining := by
      rw [List.getElem?_map, hworker]
      rfl
    unfold ScanState.closing ScanState.setPhase
    rw [List.map_set]
    exact Nat.add_lt_add_left (sum_set_lt hentry hlt) _
  have hunset : state.stop ≠ false := by simp [h.stop]
  cases action with
  | signal =>
      cases hstep
      exact ⟨h.of_workers h.stop.symm rfl, Nat.le_refl _⟩
  | check i =>
      obtain ⟨worker, hworker, hphase, rfl⟩ := stepCheck_cases hstep
      rw [if_pos h.stop]
      exact ⟨h.setPhase hworker (.inr rfl), hphases hworker (by
        rw [hphase]
        decide)⟩
  | connect i valid latencyMs =>
      obtain ⟨worker, hworker, hphase, rfl⟩ := stepConnect_cases hstep
      exact ⟨h.setPhase hworker (.inl hphase), hphases hworker (by
        rw [hphase]
        exact Nat.zero_lt_one)⟩
  | main =>
      change _ ∧ next.closing + 1 ≤ state.closing
      unfold ScanState.closing
      rcases stepMain_cases hstep with ⟨hpc, _, rfl⟩ |
        ⟨_, _, _, _, hstop, _⟩ | ⟨_, _, _, _, hstop, _⟩ |
        ⟨last, i, hpc, _, rfl⟩ | ⟨last, i, worker, port, hpc, _, _, rfl⟩ |
        ⟨hpc, rfl⟩ | ⟨hpc, rfl⟩
      · refine ⟨h.of_workers rfl rfl, ?_⟩
        rw [hpc]
        dsimp only
        omega
      · exact absurd hstop hunset
      · exact absurd hstop hunset
      · refine ⟨h.of_workers rfl rfl, ?_⟩
        rw [hpc]
        cases last <;> dsimp only <;> omega
      · refine ⟨h.of_workers rfl rfl, ?_⟩
        rw [hpc]
        cases last <;> dsimp only <;> omega
      · refine ⟨h.of_workers rfl rfl, ?_⟩
        rw [hpc]
        dsimp only
        omega
      · refine ⟨h.of_workers rfl rfl, ?_⟩
        rw [hpc]
        dsimp only
        omega

/-- From the moment the flag is up, the threads take few more actions, however
many ports are left; no port gets a worker any more, and every connection that
is still made was under way or done. -/
theorem scan_stops {trace rest : List (ScanState × Action)}
    (run : Run (ScanStep std job) job.start trace state)
    (hstop : state.stop = true)
    (later : Run (ScanStep std job) state rest last) :
    rest.countP (fun entry => !entry.2.isSignal) ≤ 2 * MAX_WORKERS + 6 ∧
      last.workers.map Worker.port = state.workers.map Worker.port ∧
      ∀ attempt ∈ last.attempts, attempt ∈ state.attempts ∨
        ∃ worker ∈ state.workers, worker.port = attempt.number ∧
          worker.phase = .connecting := by
  have hclosed : Closed state last :=
    later.invariant (Closed state) (fun _ _ _ h hstep => (h.step hstep).1)
      (closed_start hstop)
  have hbound := later.countP_add_le (Closed state)
    (fun action => !action.isSignal) ScanState.closing
    (fun _ _ _ h hstep => (h.step hstep).1)
    (fun _ _ _ h hstep => (h.step hstep).2) (closed_start hstop)
  have hclosing := closing_le (limited_of_run run).2
  refine ⟨by omega, hclosed.ports, fun attempt hattempt => ?_⟩
  obtain ⟨worker, hworker, hresult⟩ := mem_attempts.mp hattempt
  obtain ⟨earlier, hearlier, hport, heither⟩ :=
    hclosed.attempts worker hworker (.inr (by rw [hresult]; rfl))
  rcases heither with hconnecting | rfl
  · refine .inr ⟨earlier, hearlier, hport.trans ?_, hconnecting⟩
    exact (Worker.number_of_result?
      (Worker.result?_of_attempt? hresult)).symm
  · exact .inl (mem_attempts.mpr ⟨earlier, hearlier, hresult⟩)

/-- The flag goes up while the worker of the port connects, which it does. -/
theorem scan_stops_connecting :
    ∃ attempt ∈ (onePort 80 true .launch (.connected true .zero) []).attempts,
      attempt ∈ (onePort 80 true .launch .connecting []).attempts ∨
        ∃ worker ∈ (onePort 80 true .launch .connecting []).workers,
          worker.port = attempt.number ∧ worker.phase = .connecting := by
  have launched : Run (ScanStep (.merge Port) (.range 80 80))
      (ScanJob.range 80 80).start _ (onePort 80 false .launch .started []) :=
    (Run.refl _).tail (a := .main) rfl
  have connecting := launched.tail (a := .check 0)
    (u := onePort 80 false .launch .connecting []) rfl
  have stopped := connecting.tail (a := .signal)
    (u := onePort 80 true .launch .connecting []) rfl
  have later : Run (ScanStep (.merge Port) (.range 80 80))
      (onePort 80 true .launch .connecting []) _
      (onePort 80 true .launch (.connected true .zero) []) :=
    (Run.refl _).tail (a := .connect 0 true .zero) rfl
  have hattempt : (⟨80, true, .zero⟩ : Port) ∈
      (onePort 80 true .launch (.connected true .zero) []).attempts := by
    decide
  exact ⟨_, hattempt, (scan_stops stopped rfl later).2.2 _ hattempt⟩

end SlipNet.Scanning
