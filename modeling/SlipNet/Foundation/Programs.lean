import Mathlib.Data.List.Basic
import Mathlib.Tactic

/-!
# Programs that call a system

A program makes one call at a time and goes on with the reply.  Which reply
comes is up to the system; a run of the program leaves a log of its calls and
their replies.  A monitor follows the log with a state of its own and says
which calls are allowed.  A program is safe if, whatever the replies, it makes
allowed calls only, and what it returns meets a postcondition on the monitor's
state.
-/

namespace SlipNet.Foundation

/-- `call` hands the reply to the rest of the program; `cut` is as far as the
program is followed. -/
inductive Program (C : Type) (R : C → Type) (α : Type)
  | done (value : α)
  | cut
  | call (c : C) (next : R c → Program C R α)

/-- The calls of a run with their replies. -/
abbrev Log (C : Type) (R : C → Type) := List ((c : C) × R c)

variable {C : Type} {R : C → Type} {α β σ : Type}

namespace Program

def bind (program : Program C R α) (rest : α → Program C R β) :
    Program C R β :=
  match program with
  | .done value => rest value
  | .cut => .cut
  | .call c next => .call c fun reply => (next reply).bind rest

instance : Monad (Program C R) where
  pure := .done
  bind := bind

@[simp] theorem pure_eq (value : α) :
    (pure value : Program C R α) = .done value := rfl

@[simp] theorem done_bind (value : α) (rest : α → Program C R β) :
    (.done value : Program C R α) >>= rest = rest value := rfl

@[simp] theorem cut_bind (rest : α → Program C R β) :
    (.cut : Program C R α) >>= rest = .cut := rfl

@[simp] theorem call_bind (c : C) (next : R c → Program C R α)
    (rest : α → Program C R β) :
    (.call c next) >>= rest = .call c fun reply => next reply >>= rest := rfl

def run (replies : (c : C) → R c) : Program C R α → Option α × Log C R
  | .done value => (some value, [])
  | .cut => (none, [])
  | .call c next =>
      let (value, log) := (next (replies c)).run replies
      (value, ⟨c, replies c⟩ :: log)

/-! ## Fixed replies -/

section Fixed

variable {replies : (c : C) → R c}

theorem fst_run_bind (program : Program C R α) (rest : α → Program C R β) :
    ((program >>= rest).run replies).1 =
      (program.run replies).1.bind fun value =>
        ((rest value).run replies).1 := by
  induction program with
  | done value => rfl
  | cut => rfl
  | call c next ih => exact ih (replies c)

variable (replies) (view : Option α × Log C R → Option β)

def Shows (program : Program C R α) (value : β) : Prop :=
  view (program.run replies) = some value

variable {replies view}

theorem shows_ite {test : Prop} [Decidable test]
    {yes no : Program C R α} {whenYes whenNo : β}
    (hyes : Shows replies view yes whenYes)
    (hno : Shows replies view no whenNo) :
    Shows replies view (if test then yes else no)
      (if test then whenYes else whenNo) := by
  split_ifs
  · exact hyes
  · exact hno

theorem shows_call {c : C} {rest : R c → Program C R α} {value : β}
    (hview : ∀ ran, view (ran.1, ⟨c, replies c⟩ :: ran.2) = view ran)
    (h : Shows replies view (rest (replies c)) value) :
    Shows replies view (.call c .done >>= rest) value :=
  (hview _).trans h

theorem shows_bind {γ : Type} {view : Option β → Option γ} {part : α}
    {program : Program C R α} {rest : α → Program C R β} {value : γ}
    (hpart : (program.run replies).1 = some part)
    (h : Shows replies (fun ran => view ran.1) (rest part) value) :
    Shows replies (fun ran => view ran.1) (program >>= rest) value := by
  rw [Shows, fst_run_bind, hpart]
  exact h

end Fixed

/-! ## Systems with a state -/

section Playing

variable {S : Type} (system : (c : C) → S → R c × S)

/-- The program against a system that answers from its state. -/
def play : Program C R α → S → Option (α × S)
  | .done value, state => some (value, state)
  | .cut, _ => none
  | .call c next, state =>
      (next (system c state).1).play (system c state).2

/-- The program returns, and the postcondition holds of what it returns and the
state it leaves. -/
def Yields (post : α → S → Prop) (program : Program C R α) (state : S) : Prop :=
  ∃ value after, program.play system state = some (value, after) ∧
    post value after

variable {system} {post : α → S → Prop} {state : S}

theorem yields_done {value : α} (h : post value state) :
    Yields system post (.done value) state :=
  ⟨value, state, rfl, h⟩

theorem yields_call {c : C} {rest : R c → Program C R α}
    (h : Yields system post (rest (system c state).1) (system c state).2) :
    Yields system post (.call c .done >>= rest) state :=
  h

theorem Yields.bind {middle : β → S → Prop} {program : Program C R β}
    {rest : β → Program C R α} (h : Yields system middle program state)
    (hrest : ∀ value after, middle value after →
      Yields system post (rest value) after) :
    Yields system post (program >>= rest) state := by
  induction program generalizing state with
  | done value =>
      obtain ⟨_, _, hplay, hmiddle⟩ := h
      cases hplay
      exact hrest value state hmiddle
  | cut =>
      obtain ⟨_, _, hplay, _⟩ := h
      cases hplay
  | call c next ih => exact ih (system c state).1 h

end Playing

end Program

/-- The program can leave this log; the result is `none` while it is not
done. -/
inductive Executes : Program C R α → Log C R → Option α → Prop
  | done (value : α) : Executes (.done value) [] (some value)
  | pending (program : Program C R α) : Executes program [] none
  | call {c : C} {next : R c → Program C R α} (reply : R c) {log : Log C R}
      {result : Option α} (h : Executes (next reply) log result) :
      Executes (.call c next) (⟨c, reply⟩ :: log) result

/-! ## Monitors -/

/-- `allowed` is asked of the program, `possible` of the system. -/
structure Monitor (C : Type) (R : C → Type) (σ : Type) where
  allowed : σ → C → Prop
  possible : σ → (c : C) → R c → Prop
  after : σ → (c : C) → R c → σ

namespace Monitor

variable (monitor : Monitor C R σ)

def Respects (state : σ) : Log C R → Prop
  | [] => True
  | ⟨c, reply⟩ :: log =>
      monitor.allowed state c ∧ Respects (monitor.after state c reply) log

def Possible (state : σ) : Log C R → Prop
  | [] => True
  | ⟨c, reply⟩ :: log =>
      monitor.possible state c reply ∧
        Possible (monitor.after state c reply) log

def afterLog (state : σ) (log : Log C R) : σ :=
  log.foldl (fun state entry => monitor.after state entry.1 entry.2) state

/-- Whatever possible replies come, the program makes allowed calls only, and
what it returns meets the postcondition. -/
def Safe (post : α → σ → Prop) : Program C R α → σ → Prop
  | .done value, state => post value state
  | .cut, _ => True
  | .call c next, state =>
      monitor.allowed state c ∧ ∀ reply, monitor.possible state c reply →
        Safe post (next reply) (monitor.after state c reply)

variable {monitor} {post : α → σ → Prop} {state : σ}

@[simp] theorem safe_done (value : α) :
    monitor.Safe post (.done value) state ↔ post value state := Iff.rfl

@[simp] theorem safe_cut :
    monitor.Safe post (.cut : Program C R α) state ↔ True := Iff.rfl

theorem safe_call {c : C} {rest : R c → Program C R α}
    (hallowed : monitor.allowed state c)
    (hrest : ∀ reply, monitor.possible state c reply →
      monitor.Safe post (rest reply) (monitor.after state c reply)) :
    monitor.Safe post (.call c .done >>= rest) state :=
  ⟨hallowed, hrest⟩

theorem Safe.bind {program : Program C R α} {rest : α → Program C R β}
    {middle : α → σ → Prop} {post : β → σ → Prop}
    (h : monitor.Safe middle program state)
    (hrest : ∀ value state', middle value state' →
      monitor.Safe post (rest value) state') :
    monitor.Safe post (program >>= rest) state := by
  induction program generalizing state with
  | done value => exact hrest value state h
  | cut => trivial
  | call c next ih =>
      exact ⟨h.1, fun reply hreply => ih reply (h.2 reply hreply)⟩

/-- A safe program stays within what is allowed, at every moment of every run,
and meets its postcondition when it returns. -/
theorem Safe.sound {program : Program C R α} {log : Log C R}
    {result : Option α} (h : monitor.Safe post program state)
    (hexecutes : Executes program log result)
    (hpossible : monitor.Possible state log) :
    monitor.Respects state log ∧
      ∀ value ∈ result, post value (monitor.afterLog state log) := by
  induction hexecutes generalizing state with
  | done value =>
      refine ⟨trivial, fun other hother => ?_⟩
      cases hother
      exact h
  | pending program => exact ⟨trivial, by simp⟩
  | call reply hrest ih =>
      obtain ⟨hrespects, hpost⟩ := ih (h.2 reply hpossible.1) hpossible.2
      exact ⟨⟨h.1, hrespects⟩, hpost⟩

/-! ## Logging -/

section Logging

variable {post : α → Log C R → Prop} {log : Log C R} {c : C}
  {rest : R c → Program C R α}

end Logging

end Monitor

end SlipNet.Foundation
