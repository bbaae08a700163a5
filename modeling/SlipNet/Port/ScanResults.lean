import SlipNet.Port.ScanInterrupt
import Mathlib.Data.List.Perm.Subperm

/-!
# The results of a port scan

The collecting loop takes the value of a worker at most once.  Whatever the
interleaving, a scan that returns reports distinct ports, all of them among the
ports it was asked to scan.
-/

namespace SlipNet.Scanning

open SlipNet.Foundation
open SlipNet.Standard

/-- The workers whose values can have been taken are the first this many. -/
def ScanState.taken (state : ScanState) : Nat :=
  match state.pc with
  | .launch => state.released
  | .collect _ i => state.released + i
  | .get _ i => state.released + i
  | .release _ => state.workers.length
  | .returned => state.workers.length

structure Collected (state : ScanState) : Prop where
  released_le : state.released ≤ state.workers.length
  numbers : (state.results.map Port.number).Subperm
    ((state.workers.map Worker.port).take state.taken)

variable {std : SortRoutine Port} {job : ScanJob} {state next : ScanState}
  {action : Action}

theorem taken_setPhase {i : Nat} {worker : Worker} {phase : Phase} :
    (state.setPhase i worker phase).taken = state.taken := by
  simp [ScanState.taken, ScanState.setPhase]

theorem taken_launchWorker (port : Int) (rest : List Int) :
    (state.launchWorker job port rest).taken = state.released := by
  unfold ScanState.launchWorker ScanState.taken
  split_ifs <;> rfl

theorem collected_start (job : ScanJob) : Collected job.start where
  released_le := Nat.le_refl 0
  numbers := List.nil_subperm

theorem Collected.setPhase (h : Collected state) {i : Nat} {worker : Worker}
    {phase : Phase} (hworker : state.workers[i]? = some worker) :
    Collected (state.setPhase i worker phase) where
  released_le := by simpa [ScanState.setPhase] using h.released_le
  numbers := by
    rw [map_port_setPhase hworker, taken_setPhase]
    exact h.numbers

theorem Collected.main (h : Collected state)
    (hstep : ScanStep std job state .main next) : Collected next := by
  have hnumbers := h.numbers
  unfold ScanState.taken at hnumbers
  rcases stepMain_cases hstep with ⟨hpc, _, rfl⟩ |
    ⟨port, rest, hpc, _, _, rfl⟩ |
    ⟨last, i, hpc, _, _, rfl⟩ | ⟨last, i, hpc, _, rfl⟩ |
    ⟨last, i, worker, port, hpc, hworker, hresult, rfl⟩ | ⟨hpc, rfl⟩ |
    ⟨hpc, rfl⟩ <;> rw [hpc] at hnumbers
  · exact ⟨h.released_le, hnumbers⟩
  · constructor
    · simp only [ScanState.launchWorker, List.length_append]
      exact h.released_le.trans (Nat.le_add_right _ _)
    · rw [taken_launchWorker, ScanState.launchWorker, List.map_append,
        List.take_append_of_le_length (by simpa using h.released_le)]
      exact hnumbers
  · exact ⟨h.released_le, hnumbers⟩
  · refine ⟨h.released_le, hnumbers.trans ?_⟩
    rw [ScanState.taken, ← List.length_map Worker.port, List.take_length]
    exact (List.take_sublist _ _).subperm
  · refine ⟨h.released_le, ?_⟩
    have hport : (state.workers.map Worker.port)[state.released + i]? =
        some port.number := by
      rw [List.getElem?_map, hworker, Worker.number_of_result? hresult]
      rfl
    simp only [ScanState.taken, List.map_append, List.map_singleton,
      ← Nat.add_assoc]
    rw [List.take_add_one, hport]
    exact hnumbers.append (List.Subperm.refl _)
  · exact ⟨Nat.le_refl _, hnumbers⟩
  · exact ⟨h.released_le, (((std.perm byNumber_strictWeakOrder _).map
      Port.number).subperm).trans hnumbers⟩

theorem Collected.step (h : Collected state)
    (hstep : ScanStep std job state action next) : Collected next := by
  cases action with
  | signal =>
      cases hstep
      exact ⟨h.released_le, h.numbers⟩
  | check i =>
      obtain ⟨worker, hworker, _, rfl⟩ := stepCheck_cases hstep
      exact h.setPhase hworker
  | connect i valid latencyMs =>
      obtain ⟨worker, hworker, _, rfl⟩ := stepConnect_cases hstep
      exact h.setPhase hworker
  | main => exact h.main hstep

/-- Some run of the scan returns these results. -/
def Returns (std : SortRoutine Port) (job : ScanJob) (results : List Port) :
    Prop :=
  ∃ trace state, Run (ScanStep std job) job.start trace state ∧
    state.pc = .returned ∧ state.results = results

theorem Returns.numbers_subperm {results : List Port}
    (h : Returns std job results) :
    (results.map Port.number).Subperm job.ports := by
  obtain ⟨trace, state, run, _, rfl⟩ := h
  have hcollected : Collected state :=
    run.invariant Collected (fun _ _ _ h hstep => h.step hstep)
      (collected_start job)
  have hconsistent : Consistent job state :=
    run.invariant (Consistent job) (fun _ _ _ h hstep => h.step hstep)
      (consistent_start job)
  refine hcollected.numbers.trans (List.Sublist.subperm ?_)
  rw [← hconsistent.ports]
  exact (List.take_sublist _ _).trans (List.sublist_append_left _ _)

/-- A scan of one port can report any outcome. -/
theorem returns_onePort (std : SortRoutine Port) {port : Int} (hlow : 1 ≤ port)
    (hhigh : port ≤ 65535) (valid : Bool) (latencyMs : Double) :
    Returns std (.range port port) [⟨port, valid, latencyMs⟩] := by
  let result : Port := ⟨port, valid, latencyMs⟩
  let phase : Phase := .connected valid latencyMs
  have hports : (ScanJob.range port port).ports = [port] := by
    simp [ScanJob.ports, portRange, max_eq_right hlow, min_eq_right hhigh]
  have hstart : ScanStep std (.range port port)
      (ScanJob.range port port).start .main
      (onePort port false .launch .started []) := by
    rw [ScanJob.start, hports]
    rfl
  have hsorted : std.sort byNumber [result] = [result] :=
    List.perm_singleton.mp (std.perm byNumber_strictWeakOrder [result])
  have launched := (Run.refl _).tail hstart
  have collecting := launched.tail (a := .main)
    (u := onePort port false (.collect true 0) .started []) rfl
  have checked := collecting.tail (a := .check 0)
    (u := onePort port false (.collect true 0) .connecting []) rfl
  have connected := checked.tail (a := .connect 0 valid latencyMs)
    (u := onePort port false (.collect true 0) phase []) rfl
  have waiting := connected.tail (a := .main)
    (u := onePort port false (.get true 0) phase []) rfl
  have collected := waiting.tail (a := .main)
    (u := onePort port false (.collect true 1) phase [result]) rfl
  have released := collected.tail (a := .main)
    (u := onePort port false (.release true) phase [result]) rfl
  have returned := released.tail (a := .main)
    (u := onePort port false .returned phase
      (std.sort byNumber [result])) rfl
  exact ⟨_, _, returned, rfl, hsorted⟩

/-- A scan that is interrupted before its first worker reports nothing. -/
theorem returns_interrupted (std : SortRoutine Port) (job : ScanJob) :
    Returns std job [] := by
  have hsorted : std.sort byNumber [] = [] :=
    List.perm_nil.mp (std.perm byNumber_strictWeakOrder [])
  have signalled : Run (ScanStep std job) job.start _
      { job.start with stop := true } :=
    (Run.refl _).tail (a := .signal) rfl
  have collecting := signalled.tail (a := .main)
    (u := { job.start with stop := true, pc := .collect true 0 }) (by
      unfold ScanStep step stepMain ScanJob.start
      cases job.ports <;> rfl)
  have releasing := collecting.tail (a := .main)
    (u := { job.start with stop := true, pc := .release true }) rfl
  have returned := releasing.tail (a := .main)
    (u := { job.start with
      stop := true, pc := .returned, results := std.sort byNumber [] }) rfl
  exact ⟨_, _, returned, rfl, hsorted⟩

theorem Returns.nodup_numbers {results : List Port}
    (h : Returns std job results) : (results.map Port.number).Nodup := by
  obtain ⟨numbers, hperm, hsub⟩ := h.numbers_subperm
  exact hperm.nodup_iff.mp (job.nodup_ports.sublist hsub)

theorem Returns.mem_ports {results : List Port} (h : Returns std job results)
    {result : Port} (hresult : result ∈ results) :
    result.number ∈ job.ports :=
  h.numbers_subperm.subset (List.mem_map_of_mem hresult)

end SlipNet.Scanning
