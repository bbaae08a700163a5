import Mathlib.Data.List.Basic

/-!
# Loops that accumulate

A loop over a list that carries a state is a left fold.  What no pass changes
the loop does not change, and what a pass adds on account of its own element
the loop adds on account of the elements of the list.
-/

namespace SlipNet.Foundation

variable {σ α β : Type*} {step : σ → α → σ} {xs : List α} {s : σ}

theorem foldl_keeps (f : σ → β) (hstep : ∀ s x, f (step s x) = f s) :
    f (xs.foldl step s) = f s := by
  induction xs generalizing s with
  | nil => rfl
  | cons x xs ih => rw [List.foldl_cons, ih, hstep]

theorem foldl_eq_self (h : ∀ x ∈ xs, step s x = s) : xs.foldl step s = s := by
  induction xs with
  | nil => rfl
  | cons x xs ih =>
      rw [List.foldl_cons, h x List.mem_cons_self]
      exact ih fun y hy => h y (List.mem_cons_of_mem _ hy)

theorem foldl_adds_only (holds : σ → Prop) {adds : α → Prop}
    (hstep : ∀ s, ∀ x ∈ xs, holds (step s x) → holds s ∨ adds x)
    (h : holds (xs.foldl step s)) : holds s ∨ ∃ x ∈ xs, adds x := by
  induction xs generalizing s with
  | nil => exact .inl h
  | cons x xs ih =>
      have hrest := fun s y hy => hstep s y (List.mem_cons_of_mem x hy)
      rcases ih hrest h with h | ⟨y, hy, hadds⟩
      · exact (hstep s x (by simp) h).imp_right fun hadds =>
          ⟨x, by simp, hadds⟩
      · exact .inr ⟨y, List.mem_cons_of_mem x hy, hadds⟩

theorem foldl_adds_iff (holds : σ → Prop) {adds : α → Prop}
    (hstep : ∀ s x, holds (step s x) ↔ holds s ∨ adds x) :
    holds (xs.foldl step s) ↔ holds s ∨ ∃ x ∈ xs, adds x := by
  induction xs generalizing s with
  | nil => simp
  | cons x xs ih => rw [List.foldl_cons, ih, hstep, or_assoc,
      List.exists_mem_cons_iff]

theorem foldl_appends {step : List β → α → List β} {f : α → List β}
    (hstep : ∀ ys x, step ys x = ys ++ f x) (ys : List β) :
    xs.foldl step ys = ys ++ xs.flatMap f := by
  induction xs generalizing ys with
  | nil => simp
  | cons x xs ih => rw [List.foldl_cons, ih, hstep, List.append_assoc,
      List.flatMap_cons]

/-- Where every pass overwrites or keeps, the last value written stays. -/
theorem foldl_last (f : σ → β) {g : α → Option β}
    (hstep : ∀ s x, f (step s x) = (g x).getD (f s)) :
    f (xs.foldl step s) = (xs.filterMap g).getLast?.getD (f s) := by
  induction xs generalizing s with
  | nil => rfl
  | cons x xs ih =>
      rw [List.foldl_cons, ih, hstep, List.filterMap_cons]
      cases g x with
      | none => rfl
      | some b => rw [List.getLast?_cons, Option.getD_some, Option.getD_some]

/-! ## Loops over separated sections -/

section Sections

variable [BEq α] [LawfulBEq α] {separator : α}

theorem notMem_of_mem_splitOn {piece : List α}
    (h : piece ∈ xs.splitOn separator) : separator ∉ piece := by
  induction xs generalizing piece with
  | nil =>
      rw [List.splitOn_nil, List.mem_singleton] at h
      simp [h]
  | cons x xs ih =>
      obtain ⟨first, rest, hsplit⟩ :=
        List.exists_cons_of_ne_nil (List.splitOn_ne_nil separator xs)
      rw [List.splitOn_cons_eq_if_modifyHead] at h
      rw [hsplit] at h ih
      split_ifs at h with hx
      · rcases List.mem_cons.mp h with rfl | h
        · exact List.not_mem_nil
        · exact ih h
      · rcases List.mem_cons.mp h with rfl | h
        · rw [List.mem_cons, not_or]
          exact ⟨fun hsep => hx (beq_iff_eq.mpr hsep.symm), ih (by simp)⟩
        · exact ih (List.mem_cons_of_mem _ h)

/-- A loop over a list goes through its sections one after the other. -/
theorem foldl_splitOn (step : σ → α → σ) (xs : List α) (s : σ) :
    xs.foldl step s =
      (xs.splitOn separator).tail.foldl
        (fun s piece => piece.foldl step (step s separator))
        (((xs.splitOn separator).headD []).foldl step s) := by
  induction xs generalizing s with
  | nil => rfl
  | cons x xs ih =>
      obtain ⟨first, rest, hsplit⟩ :=
        List.exists_cons_of_ne_nil (List.splitOn_ne_nil separator xs)
      rw [List.splitOn_cons_eq_if_modifyHead, List.foldl_cons, ih, hsplit]
      split_ifs with hx
      · obtain rfl := beq_iff_eq.mp hx
        rfl
      · rfl

end Sections

end SlipNet.Foundation
