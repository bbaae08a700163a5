import SlipNet.Foundation.ForkJoin
import SlipNet.Foundation.LastWrite

/-!
# The width of a batch

A loop that stops to collect whenever its batch is full never has more tasks
under way than a batch holds.  It works on no input twice, and it does not leave
a task behind: when it has ended, by itself or at a stop, every task it started
is done.
-/

namespace SlipNet.Foundation.ForkJoin

variable {α β γ : Type*} {loop : ForkJoin α β γ} {state next : State α β γ}
  {inputs : List α} {init : γ} {trace : List (State α β γ × Action)}

def Task.waiting (task : Task α β) : Option α :=
  if task.result.isNone then some task.input else none

def State.underway (state : State α β γ) : List α :=
  state.tasks.filterMap Task.waiting

def finishedInput (state : State α β γ) : Action → Option α
  | .finish j => state.tasks[j]?.map Task.input
  | .main => none

def finished (trace : List (State α β γ × Action)) : List α :=
  written finishedInput trace

structure Narrow (width : Nat) (state : State α β γ) : Prop where
  tasks_le : state.tasks.length ≤ width
  launching : state.pc = .launch → state.tasks.length < width

theorem narrow_step {width : Nat} (hwidth : 0 < width)
    (hfull : ∀ n, width ≤ n → loop.full n = true) {action : Action}
    (h : Narrow width state) (hstep : loop.Step state action next) :
    Narrow width next := by
  cases action with
  | finish j =>
      obtain ⟨task, _, _, rfl⟩ := stepFinish_cases hstep
      exact ⟨by simpa [finishTask] using h.tasks_le, fun hpc => by
        simpa [finishTask] using h.launching hpc⟩
  | main =>
      rcases stepMain_cases hstep with ⟨_, _, rfl⟩ | ⟨_, _, _, rfl⟩ |
        ⟨input, rest, hpc, _, _, rfl⟩ | ⟨_, _, _, _, _, _, _, rfl⟩ |
        ⟨_, _, _, _, rfl⟩
      · exact ⟨h.tasks_le, by simp⟩
      · exact ⟨h.tasks_le, by simp⟩
      · have hroom := h.launching hpc
        refine ⟨by simpa [launchTask] using hroom, fun hlaunch => ?_⟩
        simp only [launchTask] at hlaunch ⊢
        by_contra hge
        rw [if_pos (hfull _ (not_lt.mp hge))] at hlaunch
        cases hlaunch
      · exact ⟨h.tasks_le, by simp⟩
      · exact ⟨Nat.zero_le _, fun _ => hwidth⟩

theorem length_tasks_le {width : Nat} (hwidth : 0 < width)
    (hfull : ∀ n, width ≤ n → loop.full n = true)
    (run : Run loop.Step (start inputs init) trace state) :
    state.tasks.length ≤ width :=
  (run.invariant (Narrow width)
    (fun _ _ _ h hstep => narrow_step hwidth hfull h hstep)
    ⟨Nat.zero_le _, fun _ => hwidth⟩).tasks_le

theorem length_tasks_le_inputs (hapart : loop.Apart)
    (run : Run loop.Step (start inputs init) trace state) :
    state.tasks.length ≤ inputs.length := by
  obtain ⟨done, order, h⟩ := exists_consistent hapart run
  have hlength := congrArg List.length h.inputs_eq
  simp only [List.length_append, List.length_map] at hlength
  omega

/-! ## No task is left -/

theorem isSome_of_collected (hconsistent : loop.Positioned state) {last : Bool}
    {j : Nat} (hpc : state.pc = .collect last j)
    (hall : state.tasks.length ≤ j) :
    ∀ task ∈ state.tasks, task.result.isSome = true := by
  unfold Positioned at hconsistent
  rw [hpc] at hconsistent
  have hdone := hconsistent.2.2
  rwa [List.take_of_length_le hall] at hdone

theorem underway_eq_nil
    (h : ∀ task ∈ state.tasks, task.result.isSome = true) :
    state.underway = [] := by
  refine List.filterMap_eq_nil_iff.mpr fun task htask => ?_
  rw [Task.waiting, if_neg]
  simp [Option.isSome_iff_ne_none.mp (h task htask)]

theorem perm_underway_finishTask (loop : ForkJoin α β γ) {j : Nat}
    {task : Task α β} (htask : state.tasks[j]? = some task)
    (hrunning : task.result = none) :
    (task.input :: (loop.finishTask j task state).underway).Perm
      state.underway := by
  obtain ⟨hlt, hget⟩ := List.getElem?_eq_some_iff.mp htask
  let done : Task α β :=
    { task with result := some (loop.work task.input) }
  -- putting the running task back into its place gives the old batch
  have hback : (state.tasks.set j done).set j task = state.tasks := by
    rw [List.set_set, ← hget, List.set_getElem_self]
  have hset := perm_filterMap_set (f := Task.waiting) (y := task)
    (b := task.input)
    (List.getElem?_set_self hlt : (state.tasks.set j done)[j]? = some done)
    rfl (by rw [Task.waiting, hrunning]; rfl)
  rw [hback] at hset
  exact (List.perm_append_singleton _ _).symm.trans hset.symm

/-- What is started is done or under way: no input is worked on twice. -/
theorem finished_append_underway (hapart : loop.Apart)
    (run : Run loop.Step (start inputs init) trace state) :
    (finished trace ++ state.underway).Perm (inputs.take state.next) := by
  induction run with
  | refl => exact List.Perm.refl []
  | @tail state next action trace run last ih =>
      obtain ⟨done, order, hconsistent⟩ := exists_consistent hapart run
      rw [finished, written_append_singleton, ← finished]
      cases action with
      | finish j =>
          obtain ⟨task, htask, hrunning, rfl⟩ := stepFinish_cases last
          have hfinished : finishedInput state (.finish j) =
              some task.input := by
            rw [finishedInput, htask]
            rfl
          rw [hfinished, Option.toList_some, List.append_assoc,
            List.singleton_append]
          exact ((perm_underway_finishTask loop htask hrunning).append_left
            _).trans ih
      | main =>
          rw [finishedInput, Option.toList_none, List.append_nil]
          rcases stepMain_cases last with ⟨_, _, rfl⟩ | ⟨_, _, _, rfl⟩ |
            ⟨input, rest, _, htodo, _, rfl⟩ | ⟨_, _, _, _, _, _, _, rfl⟩ |
            ⟨last, j, hpc, hall, rfl⟩
          · exact ih
          · exact ih
          · have hinput : inputs[state.next]? = some input := by
              rw [← hconsistent.inputs_eq, htodo, List.getElem?_append_right
                (by simp [hconsistent.next])]
              simp [hconsistent.next]
            have hlaunched : (launchTask loop input rest state).underway =
                state.underway ++ [input] := by
              simp [State.underway, launchTask, Task.waiting]
            rw [hlaunched, ← List.append_assoc, launchTask, List.take_add_one,
              hinput]
            exact ih.append_right _
          · exact ih
          · rw [underway_eq_nil (isSome_of_collected hconsistent.positioned hpc
              hall)] at ih
            exact ih

theorem underway_of_interrupting (hpc : state.pc = .launch)
    (hstop : loop.stop state.next = true) {input : α} {rest : List α}
    (htodo : state.todo = input :: rest)
    (hstep : loop.stepMain state = some next) : state.underway = [] := by
  rw [stepMain, hpc, htodo] at hstep
  dsimp only at hstep
  rw [if_pos hstop] at hstep
  split at hstep
  · next hall => exact underway_eq_nil (List.all_eq_true.mp hall)
  · cases hstep

theorem underway_of_ended (hapart : loop.Apart)
    (run : Run loop.Step (start inputs init) trace state)
    (hended : Ended state) : state.underway = [] := by
  have hkept : state.pc = .interrupted → state.underway = [] := by
    refine run.invariant (fun state => state.pc = .interrupted →
      state.underway = []) ?_ (by simp [start])
    intro state action next h hstep hpc
    cases action with
    | finish j =>
        obtain ⟨task, htask, hrunning, rfl⟩ := stepFinish_cases hstep
        have hless := perm_underway_finishTask loop htask hrunning
        rw [h hpc] at hless
        exact absurd hless.eq_nil (List.cons_ne_nil _ _)
    | main =>
        rcases stepMain_cases hstep with ⟨_, _, rfl⟩ |
          ⟨hlaunch, htodo, hstop, rfl⟩ | ⟨_, _, _, _, _, rfl⟩ |
          ⟨_, _, _, _, _, _, _, rfl⟩ | ⟨last, _, _, _, rfl⟩
        · cases hpc
        · obtain ⟨input, rest, htodo⟩ := List.exists_cons_of_ne_nil htodo
          change state.underway = []
          exact underway_of_interrupting hlaunch hstop htodo hstep
        · simp only [launchTask] at hpc
          split_ifs at hpc
        · cases hpc
        · cases last <;> cases hpc
  obtain ⟨done, order, hconsistent⟩ := exists_consistent hapart run
  have hposition := hconsistent.positioned
  rcases hended with hpc | hpc
  · unfold Positioned at hposition
    rw [hpc] at hposition
    rw [State.underway, hposition.2, List.filterMap_nil]
  · exact hkept hpc

end SlipNet.Foundation.ForkJoin
