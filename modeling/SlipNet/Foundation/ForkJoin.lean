import SlipNet.Foundation.Runs
import Mathlib.Data.List.Basic

/-!
# Batches of asynchronous tasks

A loop starts an asynchronous task for each of its inputs.  Whenever a batch is
full, and once more at the end, it takes the values of the futures one after
the other and stores each under an index that it counts itself.  A task may
write something under the index it was started with before it is done, and
tasks are done in any order.  Where the writes under different indices do not
disturb each other, the outcome does not depend on that order.
-/

namespace SlipNet.Foundation

/-- `stop` is asked before a task is started and `full` of the number of tasks
after it; a task that is done has written with `finish`, and the loop stores
its value with `collect`. -/
structure ForkJoin (α β γ : Type*) where
  full : Nat → Bool
  stop : Nat → Bool
  work : α → β
  finish : Nat → β → γ → γ
  collect : Nat → β → γ → γ

namespace ForkJoin

structure Task (α β : Type*) where
  index : Nat
  input : α
  result : Option β

inductive Pc
  | launch
  | collect (last : Bool) (j : Nat)
  | returned
  | interrupted
  deriving DecidableEq

/-- `tasks` are the futures of the batch, `next` is the loop counter. -/
structure State (α β γ : Type*) where
  pc : Pc
  todo : List α
  next : Nat
  tasks : List (Task α β)
  completed : Nat
  shared : γ

inductive Action
  | main
  | finish (j : Nat)
  deriving DecidableEq

variable {α β γ : Type*}

def start (inputs : List α) (init : γ) : State α β γ where
  pc := .launch
  todo := inputs
  next := 0
  tasks := []
  completed := 0
  shared := init

variable (loop : ForkJoin α β γ)

def launchTask (input : α) (rest : List α) (state : State α β γ) :
    State α β γ :=
  let tasks := state.tasks ++ [⟨state.next, input, none⟩]
  { state with
    todo := rest
    next := state.next + 1
    tasks := tasks
    pc := if loop.full tasks.length then .collect false 0 else .launch }

/-- One action of the loop; `none` while it waits for a task. -/
def stepMain (state : State α β γ) : Option (State α β γ) :=
  match state.pc with
  | .launch =>
      match state.todo with
      | [] => some { state with pc := .collect true 0 }
      | input :: rest =>
          if loop.stop state.next then
            -- leaving the loop destroys the futures, which wait
            if state.tasks.all (·.result.isSome) then
              some { state with pc := .interrupted }
            else none
          else some (loop.launchTask input rest state)
  | .collect last j =>
      match state.tasks[j]? with
      | some task =>
          task.result.map fun result =>
            { state with
              pc := .collect last (j + 1)
              shared :=
                loop.collect (state.completed + j) result state.shared }
      | none =>
          some { state with
            pc := if last then .returned else .launch
            completed := state.completed + state.tasks.length
            tasks := [] }
  | .returned => none
  | .interrupted => none

def finishTask (j : Nat) (task : Task α β) (state : State α β γ) :
    State α β γ :=
  { state with
    tasks :=
      state.tasks.set j { task with result := some (loop.work task.input) }
    shared := loop.finish task.index (loop.work task.input) state.shared }

def stepFinish (j : Nat) (state : State α β γ) : Option (State α β γ) :=
  match state.tasks[j]? with
  | some task =>
      if task.result.isSome then none else some (loop.finishTask j task state)
  | none => none

def step (state : State α β γ) : Action → Option (State α β γ)
  | .main => loop.stepMain state
  | .finish j => loop.stepFinish j state

abbrev Step (state : State α β γ) (action : Action) (next : State α β γ) :
    Prop :=
  loop.step state action = some next

/-! ## What a step can do -/

variable {loop} {state next : State α β γ}

theorem stepFinish_cases {j : Nat} (h : loop.stepFinish j state = some next) :
    ∃ task, state.tasks[j]? = some task ∧ task.result = none ∧
      next = loop.finishTask j task state := by
  unfold stepFinish at h
  split at h
  · next task htask =>
      split at h
      · cases h
      · next hresult =>
          exact ⟨task, htask, by simpa using hresult, by simpa using h.symm⟩
  · cases h

theorem stepMain_cases (h : loop.stepMain state = some next) :
    (state.pc = .launch ∧ state.todo = [] ∧
      next = { state with pc := .collect true 0 }) ∨
    (state.pc = .launch ∧ state.todo ≠ [] ∧ loop.stop state.next = true ∧
      next = { state with pc := .interrupted }) ∨
    (∃ input rest, state.pc = .launch ∧ state.todo = input :: rest ∧
      loop.stop state.next = false ∧
      next = loop.launchTask input rest state) ∨
    (∃ last j task result, state.pc = .collect last j ∧
      state.tasks[j]? = some task ∧ task.result = some result ∧
      next = { state with
        pc := .collect last (j + 1)
        shared := loop.collect (state.completed + j) result state.shared }) ∨
    (∃ last j, state.pc = .collect last j ∧ state.tasks.length ≤ j ∧
      next = { state with
        pc := if last then .returned else .launch
        completed := state.completed + state.tasks.length
        tasks := [] }) := by
  unfold stepMain at h
  split at h
  · next hpc =>
      split at h
      · next htodo => exact .inl ⟨hpc, htodo, by simpa using h.symm⟩
      · next input rest htodo =>
          split_ifs at h with hstop
          · exact .inr (.inl ⟨hpc, by simp [htodo], hstop,
              by simpa using h.symm⟩)
          · exact .inr (.inr (.inl ⟨input, rest, hpc, htodo,
              by simpa using hstop, by simpa using h.symm⟩))
  · next last j hpc =>
      split at h
      · next task htask =>
          obtain ⟨result, hresult, rfl⟩ := Option.map_eq_some_iff.mp h
          exact .inr (.inr (.inr (.inl
            ⟨last, j, task, result, hpc, htask, hresult, rfl⟩)))
      · next hnone =>
          exact .inr (.inr (.inr (.inr ⟨last, j, hpc,
            List.getElem?_eq_none_iff.mp hnone, by simpa using h.symm⟩)))
  · cases h
  · cases h

/-! ## The invariant -/

variable (loop)

def entries (inputs : List α) : List (β × Nat) :=
  (inputs.map loop.work).zipIdx

def finishEntry (shared : γ) (entry : β × Nat) : γ :=
  loop.finish entry.2 entry.1 shared

def collectEntry (shared : γ) (entry : β × Nat) : γ :=
  loop.collect entry.2 entry.1 shared

/-- What is written under different indices, or by a task and by the loop, is
written to different places. -/
structure Apart : Prop where
  finish_finish : ∀ i a j b shared, i ≠ j →
    loop.finish i a (loop.finish j b shared) =
      loop.finish j b (loop.finish i a shared)
  finish_collect : ∀ i a j b shared,
    loop.finish i a (loop.collect j b shared) =
      loop.collect j b (loop.finish i a shared)

def Task.entry (task : Task α β) : Option (β × Nat) :=
  task.result.map fun result => (result, task.index)

def State.collected (state : State α β γ) : Nat :=
  match state.pc with
  | .collect _ j => state.completed + j
  | _ => state.completed

def Positioned (state : State α β γ) : Prop :=
  match state.pc with
  | .launch => True
  | .collect last j => j ≤ state.tasks.length ∧
      (last = true → state.todo = []) ∧
      ∀ task ∈ state.tasks.take j, task.result.isSome = true
  | .returned => state.todo = [] ∧ state.tasks = []
  | .interrupted => state.todo ≠ [] ∧ loop.stop state.next = true

/-- The inputs are those of the earlier batches, of this one and the rest; the
tasks that are done wrote in some order before all values were stored. -/
structure Consistent (inputs : List α) (init : γ) (done : List α)
    (order : List (β × Nat)) (state : State α β γ) : Prop where
  inputs_eq : done ++ state.tasks.map Task.input ++ state.todo = inputs
  completed : state.completed = done.length
  next : state.next = done.length + state.tasks.length
  asked : ∀ i < state.next, loop.stop i = false
  tasks : ∀ j task, state.tasks[j]? = some task →
    task.index = done.length + j ∧
      ∀ result ∈ task.result, result = loop.work task.input
  written : order.Perm
    (loop.entries done ++ state.tasks.filterMap Task.entry)
  shared : state.shared =
    ((loop.entries inputs).take state.collected).foldl loop.collectEntry
      (order.foldl loop.finishEntry init)
  positioned : loop.Positioned state

variable {loop} {inputs done : List α} {init : γ} {order : List (β × Nat)}

theorem consistent_start (loop : ForkJoin α β γ) (inputs : List α) (init : γ) :
    loop.Consistent inputs init [] [] (start inputs init) where
  inputs_eq := rfl
  completed := rfl
  next := rfl
  asked := by simp [start]
  tasks := by simp [start]
  written := .refl _
  shared := rfl
  positioned := trivial

theorem entries_append (xs ys : List α) :
    loop.entries (xs ++ ys) =
      loop.entries xs ++ (ys.map loop.work).zipIdx xs.length := by
  rw [entries, entries, List.map_append, List.zipIdx_append, Nat.zero_add,
    List.length_map]

theorem filterMap_entry {tasks : List (Task α β)} {k : Nat}
    (htasks : ∀ j task, tasks[j]? = some task → task.index = k + j ∧
      ∀ result ∈ task.result, result = loop.work task.input)
    (hdone : ∀ task ∈ tasks, task.result.isSome = true) :
    tasks.filterMap Task.entry =
      ((tasks.map Task.input).map loop.work).zipIdx k := by
  induction tasks generalizing k with
  | nil => rfl
  | cons task tasks ih =>
      obtain ⟨result, hresult⟩ :=
        Option.isSome_iff_exists.mp (hdone task List.mem_cons_self)
      obtain ⟨hindex, hvalue⟩ := htasks 0 task rfl
      have hentry : task.entry = some (loop.work task.input, k) := by
        rw [Task.entry, hresult, hvalue result hresult, hindex]
        rfl
      have hrest := ih (k := k + 1)
        (fun j other hother => by
          obtain ⟨hindex, hvalue⟩ := htasks (j + 1) other hother
          exact ⟨by rw [hindex]; omega, hvalue⟩)
        (fun other hother => hdone other (List.mem_cons_of_mem _ hother))
      rw [List.filterMap_cons_some hentry, hrest]
      rfl

theorem perm_filterMap_set {f : α → Option β} {xs : List α} {i : Nat}
    {x y : α} {b : β} (hx : xs[i]? = some x) (hnone : f x = none)
    (hsome : f y = some b) :
    ((xs.set i y).filterMap f).Perm (xs.filterMap f ++ [b]) := by
  induction xs generalizing i with
  | nil => cases hx
  | cons a xs ih =>
      cases i with
      | zero =>
          cases hx
          rw [List.set_cons_zero, List.filterMap_cons_some hsome,
            List.filterMap_cons_none hnone]
          exact (List.perm_append_singleton _ _).symm
      | succ i =>
          rw [List.set_cons_succ, List.filterMap_cons, List.filterMap_cons]
          cases f a with
          | none => exact ih hx
          | some c => exact (ih hx).cons c

theorem Apart.finish_foldl (hapart : loop.Apart) (i : Nat) (a : β)
    (stored : List (β × Nat)) (shared : γ) :
    loop.finish i a (stored.foldl loop.collectEntry shared) =
      stored.foldl loop.collectEntry (loop.finish i a shared) := by
  induction stored generalizing shared with
  | nil => rfl
  | cons entry stored ih =>
      rw [List.foldl_cons, List.foldl_cons, ih, collectEntry, collectEntry,
        hapart.finish_collect]

theorem map_input_finishTask {j : Nat} {task : Task α β}
    (htask : state.tasks[j]? = some task) :
    (loop.finishTask j task state).tasks.map Task.input =
      state.tasks.map Task.input := by
  have hinput : (state.tasks.map Task.input)[j]? = some task.input := by
    rw [List.getElem?_map, htask]
    rfl
  obtain ⟨hj, hget⟩ := List.getElem?_eq_some_iff.mp hinput
  rw [finishTask, List.map_set, ← hget, List.set_getElem_self]

theorem positioned_finishTask {j : Nat} {task : Task α β}
    (htask : state.tasks[j]? = some task) (h : loop.Positioned state) :
    loop.Positioned (loop.finishTask j task state) := by
  unfold Positioned at h ⊢
  unfold finishTask
  dsimp only at h ⊢
  cases hpc : state.pc with
  | launch => trivial
  | collect last k =>
      rw [hpc] at h
      refine ⟨by simpa using h.1, h.2.1, ?_⟩
      intro other hother
      rw [List.take_set] at hother
      rcases List.mem_or_eq_of_mem_set hother with hother | rfl
      · exact h.2.2 other hother
      · rfl
  | returned =>
      rw [hpc] at h
      simp [h.2] at htask
  | interrupted =>
      rw [hpc] at h
      exact h

theorem Consistent.finish (hapart : loop.Apart)
    (h : loop.Consistent inputs init done order state) {j : Nat}
    {task : Task α β} (htask : state.tasks[j]? = some task)
    (hrunning : task.result = none) :
    loop.Consistent inputs init done
      (order ++ [(loop.work task.input, task.index)])
      (loop.finishTask j task state) where
  inputs_eq := by
    rw [map_input_finishTask htask]
    exact h.inputs_eq
  completed := h.completed
  next := by simpa [finishTask] using h.next
  asked := h.asked
  tasks := by
    intro k other hother
    by_cases hjk : j = k
    · subst hjk
      have hlt := (List.getElem?_eq_some_iff.mp htask).1
      rw [finishTask, List.getElem?_set_self hlt] at hother
      obtain rfl := Option.some.inj hother
      exact ⟨(h.tasks j task htask).1, fun result hresult =>
        (Option.some.inj hresult).symm⟩
    · rw [finishTask, List.getElem?_set_ne hjk] at hother
      exact h.tasks k other hother
  written := by
    have hset := perm_filterMap_set (f := Task.entry) htask
      (y := { task with result := some (loop.work task.input) })
      (b := (loop.work task.input, task.index))
      (by rw [Task.entry, hrunning]; rfl) rfl
    refine (h.written.append_right _).trans ?_
    rw [List.append_assoc]
    exact hset.symm.append_left _
  shared := by
    rw [List.foldl_append]
    simp only [finishTask, h.shared, hapart.finish_foldl]
    rfl
  positioned := positioned_finishTask htask h.positioned

theorem Consistent.entry (h : loop.Consistent inputs init done order state)
    {j : Nat} {task : Task α β} (htask : state.tasks[j]? = some task) :
    (loop.entries inputs)[done.length + j]? =
      some (loop.work task.input, done.length + j) := by
  have hlt := (List.getElem?_eq_some_iff.mp htask).1
  have hinput : inputs[done.length + j]? = some task.input := by
    rw [← h.inputs_eq, List.append_assoc,
      List.getElem?_append_right (Nat.le_add_right _ _),
      Nat.add_sub_cancel_left,
      List.getElem?_append_left (by simpa using hlt), List.getElem?_map, htask]
    rfl
  rw [entries, List.getElem?_zipIdx, List.getElem?_map, hinput]
  simp

theorem Consistent.release (h : loop.Consistent inputs init done order state)
    {last : Bool} {j : Nat} (hpc : state.pc = .collect last j)
    (hall : state.tasks.length ≤ j) :
    loop.Consistent inputs init (done ++ state.tasks.map Task.input) order
      { state with
        pc := if last then .returned else .launch
        completed := state.completed + state.tasks.length
        tasks := [] } := by
  have hposition := h.positioned
  have hshared := h.shared
  unfold Positioned at hposition
  unfold State.collected at hshared
  rw [hpc] at hposition hshared
  obtain ⟨hle, htodo, hdone⟩ := hposition
  obtain rfl : j = state.tasks.length := Nat.le_antisymm hle hall
  rw [List.take_length] at hdone
  refine ⟨?_, ?_, ?_, h.asked, by simp, ?_, ?_, ?_⟩
  · simpa using h.inputs_eq
  · simp [h.completed]
  · simp [h.next]
  · have hwritten := h.written
    rw [filterMap_entry h.tasks hdone] at hwritten
    rw [entries_append, List.filterMap_nil, List.append_nil]
    exact hwritten
  · cases last <;> exact hshared
  · cases last with
    | false => trivial
    | true => exact ⟨htodo rfl, rfl⟩

theorem Consistent.launchTask (h : loop.Consistent inputs init done order state)
    {input : α} {rest : List α} (hpc : state.pc = .launch)
    (htodo : state.todo = input :: rest) (hgo : loop.stop state.next = false) :
    loop.Consistent inputs init done order
      (loop.launchTask input rest state) where
  inputs_eq := by simpa [ForkJoin.launchTask, htodo] using h.inputs_eq
  completed := h.completed
  next := by simp [ForkJoin.launchTask, h.next, Nat.add_assoc]
  asked := by
    intro i hi
    rcases Nat.lt_succ_iff_lt_or_eq.mp hi with hi | rfl
    · exact h.asked i hi
    · exact hgo
  tasks := by
    intro j task htask
    rcases Nat.lt_or_ge j state.tasks.length with hj | hj
    · rw [ForkJoin.launchTask, List.getElem?_append_left hj] at htask
      exact h.tasks j task htask
    · have hlast := (List.getElem?_eq_some_iff.mp htask).1
      simp only [ForkJoin.launchTask, List.length_append,
        List.length_singleton] at hlast
      obtain rfl : j = state.tasks.length := by omega
      rw [ForkJoin.launchTask, List.getElem?_append_right hj,
        Nat.sub_self] at htask
      obtain rfl := Option.some.inj htask
      exact ⟨h.next, by simp⟩
  written := by
    have hnone : (Task.mk state.next input (none : Option β)).entry = none :=
      rfl
    rw [ForkJoin.launchTask, List.filterMap_append,
      List.filterMap_cons_none hnone, List.filterMap_nil, List.append_nil]
    exact h.written
  shared := by
    have hcollected : (loop.launchTask input rest state).collected =
        state.collected := by
      unfold ForkJoin.launchTask State.collected
      dsimp only
      rw [hpc]
      split_ifs <;> rfl
    rw [hcollected]
    exact h.shared
  positioned := by
    unfold ForkJoin.launchTask Positioned
    dsimp only
    split_ifs
    · exact ⟨Nat.zero_le _, by simp, by simp⟩
    · trivial

theorem Consistent.take (h : loop.Consistent inputs init done order state)
    {last : Bool} {j : Nat} {task : Task α β} {result : β}
    (hpc : state.pc = .collect last j) (htask : state.tasks[j]? = some task)
    (hresult : task.result = some result) :
    loop.Consistent inputs init done order
      { state with
        pc := .collect last (j + 1)
        shared :=
          loop.collect (state.completed + j) result state.shared } := by
  have hposition := h.positioned
  have hshared := h.shared
  unfold Positioned at hposition
  unfold State.collected at hshared
  rw [hpc] at hposition hshared
  obtain ⟨hle, htodo, hdone⟩ := hposition
  refine ⟨h.inputs_eq, h.completed, h.next, h.asked, h.tasks, h.written, ?_,
    ?_, htodo, ?_⟩
  · have hvalue := (h.tasks j task htask).2 result hresult
    simp only [State.collected, hshared, ← Nat.add_assoc]
    rw [List.take_add_one, h.completed, h.entry htask, hvalue]
    simp [collectEntry]
  · exact (List.getElem?_eq_some_iff.mp htask).1
  · intro other hother
    rw [List.take_add_one, htask, List.mem_append] at hother
    rcases hother with hother | hother
    · exact hdone other hother
    · obtain rfl : other = task := by simpa using hother
      rw [hresult]
      rfl

theorem Consistent.main (h : loop.Consistent inputs init done order state)
    (hstep : loop.stepMain state = some next) :
    ∃ done, loop.Consistent inputs init done order next := by
  have hshared := h.shared
  unfold State.collected at hshared
  rcases stepMain_cases hstep with ⟨hpc, htodo, rfl⟩ |
    ⟨hpc, htodo, hstop, rfl⟩ | ⟨input, rest, hpc, htodo, hgo, rfl⟩ |
    ⟨last, j, task, result, hpc, htask, hresult, rfl⟩ |
    ⟨last, j, hpc, hall, rfl⟩
  · rw [hpc] at hshared
    exact ⟨done, h.inputs_eq, h.completed, h.next, h.asked, h.tasks, h.written,
      hshared, Nat.zero_le _, fun _ => htodo, by simp⟩
  · rw [hpc] at hshared
    exact ⟨done, h.inputs_eq, h.completed, h.next, h.asked, h.tasks, h.written,
      hshared, htodo, hstop⟩
  · exact ⟨done, h.launchTask hpc htodo hgo⟩
  · exact ⟨done, h.take hpc htask hresult⟩
  · exact ⟨_, h.release hpc hall⟩

theorem Consistent.step (hapart : loop.Apart) {action : Action}
    (h : loop.Consistent inputs init done order state)
    (hstep : loop.Step state action next) :
    ∃ done order, loop.Consistent inputs init done order next := by
  cases action with
  | main =>
      obtain ⟨done, hnext⟩ := h.main hstep
      exact ⟨done, order, hnext⟩
  | finish j =>
      obtain ⟨task, htask, hrunning, rfl⟩ := stepFinish_cases hstep
      exact ⟨done, _, h.finish hapart htask hrunning⟩

/-! ## Termination -/

def Task.remaining (task : Task α β) : Nat :=
  if task.result.isSome then 0 else 1

def measure (state : State α β γ) : Nat :=
  (state.tasks.map Task.remaining).sum +
    match state.pc with
    | .launch => 5 * state.todo.length + 2 * state.tasks.length + 2
    | .collect false j => 5 * state.todo.length + (state.tasks.length - j) + 3
    | .collect true j => state.tasks.length - j + 1
    | .returned => 0
    | .interrupted => 0

def Ended (state : State α β γ) : Prop :=
  state.pc = .returned ∨ state.pc = .interrupted

theorem measure_main (hstep : loop.stepMain state = some next) :
    measure next < measure state := by
  unfold measure
  rcases stepMain_cases hstep with ⟨hpc, htodo, rfl⟩ |
    ⟨hpc, htodo, hstop, rfl⟩ | ⟨input, rest, hpc, htodo, hgo, rfl⟩ |
    ⟨last, j, task, result, hpc, htask, hresult, rfl⟩ |
    ⟨last, j, hpc, hall, rfl⟩ <;> rw [hpc]
  · dsimp only
    omega
  · dsimp only
    omega
  · have hrunning : (Task.mk state.next input (none : Option β)).remaining =
        1 := rfl
    simp only [launchTask, htodo, List.length_append, List.length_cons,
      List.length_nil, List.map_append, List.map_cons, List.map_nil,
      List.sum_append, List.sum_cons, List.sum_nil, hrunning]
    split_ifs <;> dsimp only <;> omega
  · have hlt := (List.getElem?_eq_some_iff.mp htask).1
    cases last <;> dsimp only <;> omega
  · cases last <;>
      simp only [List.map_nil, List.sum_nil, List.length_nil,
        Bool.false_eq_true, if_true, if_false] <;> omega

theorem measure_finish {j : Nat} {task : Task α β}
    (htask : state.tasks[j]? = some task) (hrunning : task.result = none) :
    measure (loop.finishTask j task state) < measure state := by
  have hentry : (state.tasks.map Task.remaining)[j]? = some 1 := by
    rw [List.getElem?_map, htask, Option.map_some, Task.remaining, hrunning]
    rfl
  unfold measure finishTask
  rw [List.map_set, List.length_set]
  exact Nat.add_lt_add_right (sum_set_lt hentry Nat.zero_lt_one) _

theorem goes_on_of_task {j : Nat} {task : Task α β}
    (htask : state.tasks[j]? = some task) (hrunning : task.result = none) :
    ∃ action next, loop.Step state action next :=
  ⟨.finish j, loop.finishTask j task state, by
    simp [Step, ForkJoin.step, stepFinish, htask, hrunning]⟩

theorem goes_on (hended : ¬ Ended state) :
    ∃ action next, loop.Step state action next := by
  have hmain : (loop.stepMain state).isSome = true →
      ∃ action next, loop.Step state action next := by
    intro h
    obtain ⟨next, hnext⟩ := Option.isSome_iff_exists.mp h
    exact ⟨.main, next, hnext⟩
  cases hpc : state.pc with
  | launch =>
      cases htodo : state.todo with
      | nil => exact hmain (by simp [stepMain, hpc, htodo])
      | cons input rest =>
          by_cases hdone : state.tasks.all (·.result.isSome) = true
          · refine hmain ?_
            simp only [stepMain, hpc, htodo, hdone, if_true]
            split_ifs <;> rfl
          · rw [List.all_eq_true] at hdone
            push Not at hdone
            obtain ⟨task, hmem, hresult⟩ := hdone
            obtain ⟨j, hj⟩ := List.mem_iff_getElem?.mp hmem
            exact goes_on_of_task hj (by simpa using hresult)
  | collect last j =>
      cases htask : state.tasks[j]? with
      | none => exact hmain (by simp [stepMain, hpc, htask])
      | some task =>
          cases hresult : task.result with
          | none => exact goes_on_of_task htask hresult
          | some result => exact hmain (by simp [stepMain, hpc, htask, hresult])
  | returned => exact absurd (.inl hpc) hended
  | interrupted => exact absurd (.inr hpc) hended

theorem ends (loop : ForkJoin α β γ) (inputs : List α) (init : γ) :
    Ends loop.Step (start inputs init) Ended (5 * inputs.length + 2) := by
  have hbound : measure (start (β := β) inputs init) =
      5 * inputs.length + 2 := by
    simp [measure, start]
  rw [← hbound]
  refine .of_measure (fun _ => True) measure (fun _ _ _ _ _ => trivial) ?_
    (fun _ _ => goes_on) trivial
  intro state action next _ hstep
  cases action with
  | main => exact measure_main hstep
  | finish j =>
      obtain ⟨task, htask, hrunning, rfl⟩ := stepFinish_cases hstep
      exact measure_finish htask hrunning

/-! ## The outcome -/

section Outcome

variable {trace : List (State α β γ × Action)} (hapart : loop.Apart)
  (run : Run loop.Step (start inputs init) trace state)

include hapart run

theorem exists_consistent :
    ∃ done order, loop.Consistent inputs init done order state :=
  run.invariant (fun state =>
      ∃ done order, loop.Consistent inputs init done order state)
    (fun _ _ _ ⟨_, _, h⟩ hstep => h.step hapart hstep)
    ⟨[], [], consistent_start loop inputs init⟩

theorem stop_of_interrupted (hpc : state.pc = .interrupted) :
    ∃ i < inputs.length, loop.stop i = true := by
  obtain ⟨done, order, h⟩ := exists_consistent hapart run
  have hposition := h.positioned
  unfold Positioned at hposition
  rw [hpc] at hposition
  refine ⟨state.next, ?_, hposition.2⟩
  have hleft := List.length_pos_iff.mpr hposition.1
  have hlength := congrArg List.length h.inputs_eq
  simp only [List.length_append, List.length_map] at hlength
  rw [h.next]
  omega

theorem not_stop_of_returned (hpc : state.pc = .returned) :
    ∀ i < inputs.length, loop.stop i = false := by
  obtain ⟨done, order, h⟩ := exists_consistent hapart run
  have hposition := h.positioned
  unfold Positioned at hposition
  rw [hpc] at hposition
  intro i hi
  refine h.asked i ?_
  have hlength := congrArg List.length h.inputs_eq
  simp only [List.length_append, List.length_map, hposition.1, hposition.2,
    List.length_nil, Nat.add_zero] at hlength
  rw [h.next, hposition.2]
  simpa [hlength] using hi

theorem shared_of_returned (hpc : state.pc = .returned) :
    state.shared = (loop.entries inputs).foldl loop.collectEntry
      ((loop.entries inputs).foldl loop.finishEntry init) := by
  obtain ⟨done, order, h⟩ := exists_consistent hapart run
  have hposition := h.positioned
  unfold Positioned at hposition
  rw [hpc] at hposition
  have hdone : done = inputs := by
    have hinputs := h.inputs_eq
    rwa [hposition.1, hposition.2, List.map_nil, List.append_nil,
      List.append_nil] at hinputs
  have hwritten := h.written
  rw [hposition.2, List.filterMap_nil, List.append_nil, hdone] at hwritten
  have hcollected : (loop.entries inputs).length ≤ state.collected := by
    simp [State.collected, hpc, h.completed, hdone, entries]
  have horder : order.foldl loop.finishEntry init =
      (loop.entries inputs).foldl loop.finishEntry init := by
    refine hwritten.foldl_eq' (fun x hx y hy shared => ?_) init
    by_cases hxy : x.2 = y.2
    · -- an index has one value
      have hvalue : x.1 = y.1 := by
        have hx := List.mk_mem_zipIdx_iff_getElem?.mp (hwritten.subset hx)
        have hy := List.mk_mem_zipIdx_iff_getElem?.mp (hwritten.subset hy)
        rw [hxy, hy] at hx
        exact (Option.some.inj hx).symm
      rw [Prod.ext hvalue hxy]
    · exact hapart.finish_finish _ _ _ _ _ (Ne.symm hxy)
  rw [h.shared, List.take_of_length_le hcollected, horder]

end Outcome

end ForkJoin

end SlipNet.Foundation
