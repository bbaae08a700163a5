import Mathlib.Tactic

/-!
# Runs of a transition system

A run keeps, for every step taken, the state before it and the action, so that
a condition on steps can be asked of a whole run, and the run is split at any of
its steps into the run before and the run after it.  Invariants are carried from
one step to a run under such a condition; a state that is never left once it is
entered records that the condition was broken.  A property that a step keeps
exactly under a condition holds all along exactly the runs that meet it, and a
measure that every step lowers bounds the length of a run.
-/

namespace SlipNet.Foundation

variable {σ α : Type*} {step : σ → α → σ → Prop}

/-- `Run step s trace t`: the steps in `trace` lead from `s` to `t`. -/
inductive Run (step : σ → α → σ → Prop) : σ → List (σ × α) → σ → Prop
  | refl (s : σ) : Run step s [] s
  | tail {s t u : σ} {a : α} {trace : List (σ × α)} :
      Run step s trace t → step t a u → Run step s (trace ++ [(t, a)]) u

def Throughout (meets : σ → α → Prop) (trace : List (σ × α)) : Prop :=
  ∀ entry ∈ trace, meets entry.1 entry.2

@[simp] theorem throughout_nil (meets : σ → α → Prop) :
    Throughout meets [] := by simp [Throughout]

@[simp] theorem throughout_cons {meets : σ → α → Prop} {t : σ} {a : α}
    {trace : List (σ × α)} : Throughout meets ((t, a) :: trace) ↔
      meets t a ∧ Throughout meets trace :=
  List.forall_mem_cons

@[simp] theorem throughout_append {meets : σ → α → Prop}
    {before after : List (σ × α)} : Throughout meets (before ++ after) ↔
      Throughout meets before ∧ Throughout meets after :=
  List.forall_mem_append

theorem throughout_append_singleton {meets : σ → α → Prop}
    {trace : List (σ × α)} {t : σ} {a : α} :
    Throughout meets (trace ++ [(t, a)]) ↔
      Throughout meets trace ∧ meets t a := by
  simp

def Everywhere (good : σ → Prop) (trace : List (σ × α)) (last : σ) : Prop :=
  (∀ entry ∈ trace, good entry.1) ∧ good last

theorem everywhere_append_singleton {good : σ → Prop}
    {trace : List (σ × α)} {t u : σ} {a : α} :
    Everywhere good (trace ++ [(t, a)]) u ↔
      Everywhere good trace t ∧ good u := by
  simp [Everywhere, or_imp, forall_and]

theorem concat_eq_append_cons_iff {trace before after : List (σ × α)}
    {last entry : σ × α} : trace ++ [last] = before ++ entry :: after ↔
      (after = [] ∧ trace = before ∧ last = entry) ∨
        ∃ rest, after = rest ++ [last] ∧ trace = before ++ entry :: rest := by
  rcases List.eq_nil_or_concat' after with rfl | ⟨rest, other, rfl⟩
  · simp
  · have hassoc : before ++ entry :: (rest ++ [other]) =
        (before ++ entry :: rest) ++ [other] := by simp
    rw [hassoc, List.append_singleton_inj]
    constructor
    · rintro ⟨htrace, rfl⟩
      exact .inr ⟨rest, rfl, htrace⟩
    · rintro (⟨hnil, _⟩ | ⟨rest', hrest, htrace⟩)
      · simp at hnil
      · obtain ⟨rfl, rfl⟩ := List.append_singleton_inj.mp hrest
        exact ⟨htrace, rfl⟩

namespace Run

variable {s u : σ} {trace : List (σ × α)}

/-- The run up to a step of its trace, and the step. -/
theorem split (run : Run step s trace u) {before after : List (σ × α)} {t : σ}
    {a : α} (h : trace = before ++ (t, a) :: after) :
    Run step s before t ∧ ∃ v, step t a v ∧ Run step v after u := by
  induction run generalizing after with
  | refl => simp at h
  | @tail t' u a' trace run last ih =>
      rcases concat_eq_append_cons_iff.mp h with
        ⟨rfl, rfl, hlast⟩ | ⟨rest, rfl, htrace⟩
      · cases hlast
        exact ⟨run, u, last, .refl u⟩
      · obtain ⟨hbefore, v, hstep, hafter⟩ := ih htrace
        exact ⟨hbefore, v, hstep, hafter.tail last⟩

/-- An invariant of the steps that meet a condition holds at the end of every
run that meets it throughout. -/
theorem invariant_of_throughout (run : Run step s trace u) (inv : σ → Prop)
    (meets : σ → α → Prop)
    (preserved : ∀ t a u, inv t → meets t a → step t a u → inv u)
    (hmeets : Throughout meets trace) (h : inv s) : inv u := by
  induction run with
  | refl => exact h
  | tail run last ih =>
      rw [throughout_append_singleton] at hmeets
      exact preserved _ _ _ (ih hmeets.1) hmeets.2 last

theorem invariant (run : Run step s trace u) (inv : σ → Prop)
    (preserved : ∀ t a u, inv t → step t a u → inv u) (h : inv s) : inv u :=
  run.invariant_of_throughout inv (fun _ _ => True)
    (fun _ _ _ ht _ last => preserved _ _ _ ht last) (fun _ _ => trivial) h

/-- Steps that lower a measure are few. -/
theorem length_add_le (run : Run step s trace u) (inv : σ → Prop)
    (meets : σ → α → Prop) (measure : σ → Nat)
    (preserved : ∀ t a u, inv t → meets t a → step t a u → inv u)
    (lowers : ∀ t a u, inv t → meets t a → step t a u →
      measure u < measure t)
    (hmeets : Throughout meets trace) (h : inv s) :
    trace.length + measure u ≤ measure s := by
  induction run with
  | refl => simp
  | @tail t u a trace run last ih =>
      rw [throughout_append_singleton] at hmeets
      have ht : inv t :=
        run.invariant_of_throughout inv meets preserved hmeets.1 h
      have hlast := lowers t a u ht hmeets.2 last
      have hbound := ih hmeets.1
      rw [List.length_append, List.length_singleton]
      omega

/-- Actions that lower a measure, while the others do not raise it, are few. -/
theorem countP_add_le (run : Run step s trace u) (inv : σ → Prop)
    (counted : α → Bool) (measure : σ → Nat)
    (preserved : ∀ t a u, inv t → step t a u → inv u)
    (lowers : ∀ t a u, inv t → step t a u →
      measure u + (if counted a then 1 else 0) ≤ measure t) (h : inv s) :
    trace.countP (fun entry => counted entry.2) + measure u ≤ measure s := by
  induction run with
  | refl => simp
  | @tail t u a trace run last ih =>
      have hlast := lowers t a u (run.invariant inv preserved h) last
      rw [List.countP_append, List.countP_singleton]
      dsimp only
      omega

/-- What an invariant says about the next action holds all along a run. -/
theorem throughout (run : Run step s trace u) (inv : σ → Prop)
    (good : σ → α → Prop)
    (preserved : ∀ t a u, inv t → step t a u → inv u)
    (holds : ∀ t a, inv t → good t a) (h : inv s) : Throughout good trace := by
  induction run with
  | refl => exact throughout_nil good
  | @tail t u a trace run last ih =>
      exact throughout_append_singleton.mpr
        ⟨ih, holds t a (run.invariant inv preserved h)⟩

/-- Where a step that breaks the condition enters an absorbing set, a run that
breaks it anywhere ends there. -/
theorem absorbed (run : Run step s trace u) (inv bad : σ → Prop)
    (meets : σ → α → Prop)
    (preserved : ∀ t a u, inv t → step t a u → inv u)
    (enters : ∀ t a u, inv t → ¬ meets t a → step t a u → bad u)
    (absorbing : ∀ t a u, inv t → bad t → step t a u → bad u)
    (h : inv s) (hbroken : ¬ Throughout meets trace) : bad u := by
  induction run with
  | refl => exact absurd (throughout_nil meets) hbroken
  | @tail t u a trace run last ih =>
      have ht : inv t := run.invariant inv preserved h
      by_cases htrace : Throughout meets trace
      · refine enters _ _ _ ht (fun hlast => hbroken ?_) last
        exact throughout_append_singleton.mpr ⟨htrace, hlast⟩
      · exact absorbing _ _ _ ht (ih htrace) last

theorem everywhere_iff (run : Run step s trace u) (inv good : σ → Prop)
    (meets : σ → α → Prop)
    (preserved : ∀ t a u, inv t → step t a u → inv u)
    (kept : ∀ t a u, inv t → good t → step t a u → (good u ↔ meets t a))
    (h : inv s) (hgood : good s) :
    Everywhere good trace u ↔ Throughout meets trace := by
  induction run with
  | refl => simp [Everywhere, hgood]
  | @tail t u a trace run last ih =>
      have ht : inv t := run.invariant inv preserved h
      rw [everywhere_append_singleton, throughout_append_singleton, ← ih]
      constructor
      · exact fun hall => ⟨hall.1, (kept _ _ _ ht hall.1.2 last).mp hall.2⟩
      · exact fun hall => ⟨hall.1, (kept _ _ _ ht hall.1.2 last).mpr hall.2⟩

end Run

/-- A measure that is a sum falls with any of its terms. -/
theorem sum_set_lt {entries : List Nat} {i n m : Nat}
    (hentry : entries[i]? = some m) (hlt : n < m) :
    (entries.set i n).sum < entries.sum := by
  induction entries generalizing i with
  | nil => cases hentry
  | cons entry entries ih =>
      cases i with
      | zero =>
          cases hentry
          simpa using hlt
      | succ i => simpa using ih hentry

/-- No run from here is longer than the bound, and a run that has not ended
goes on. -/
structure Ends (step : σ → α → σ → Prop) (s : σ) (ended : σ → Prop)
    (bound : Nat) : Prop where
  length_le : ∀ {trace u}, Run step s trace u → trace.length ≤ bound
  goes_on : ∀ {trace u}, Run step s trace u → ¬ ended u → ∃ a v, step u a v

namespace Ends

variable {s : σ} {ended : σ → Prop}

theorem of_measure (inv : σ → Prop) (measure : σ → Nat)
    (preserved : ∀ t a u, inv t → step t a u → inv u)
    (lowers : ∀ t a u, inv t → step t a u → measure u < measure t)
    (goes_on : ∀ t, inv t → ¬ ended t → ∃ a u, step t a u) (h : inv s) :
    Ends step s ended (measure s) where
  length_le run := by
    have hbound := run.length_add_le inv (fun _ _ => True) measure
      (fun _ _ _ ht _ last => preserved _ _ _ ht last)
      (fun _ _ _ ht _ last => lowers _ _ _ ht last) (fun _ _ => trivial) h
    exact Nat.le_of_add_right_le hbound
  goes_on run hended := goes_on _ (run.invariant inv preserved h) hended

theorem exists_run {bound : Nat} (h : Ends step s ended bound) :
    ∃ trace u, Run step s trace u ∧ ended u := by
  by_contra hnone
  push Not at hnone
  have hlong : ∀ n, ∃ trace u, Run step s trace u ∧ trace.length = n := by
    intro n
    induction n with
    | zero => exact ⟨[], s, .refl s, rfl⟩
    | succ n ih =>
        obtain ⟨trace, u, run, hlength⟩ := ih
        obtain ⟨a, v, hstep⟩ := h.goes_on run (hnone trace u run)
        exact ⟨_, v, run.tail hstep, by simp [hlength]⟩
  obtain ⟨trace, u, run, hlength⟩ := hlong (bound + 1)
  have hbound := h.length_le run
  omega

end Ends

end SlipNet.Foundation
