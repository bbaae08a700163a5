import Mathlib.Order.Defs.LinearOrder
import Mathlib.Order.Lattice
import Mathlib.Data.List.Sort
import Mathlib.Tactic.Common

/-!
# Standard sorting

`std::sort` leaves the order of equivalent elements open, so a caller is
verified against every sorting routine that permutes its input and orders it by
the given comparison.
-/

namespace SlipNet.Standard

/-- The comparisons `std::sort` accepts. -/
structure StrictWeakOrder {α : Type} (lt : α → α → Bool) : Prop where
  asymm : ∀ a b, lt a b = true → lt b a = false
  cotrans : ∀ a b c, lt a c = true → lt a b = true ∨ lt b c = true

/-- A routine with the contract of `std::sort`. -/
structure SortRoutine (α : Type) where
  sort : (α → α → Bool) → List α → List α
  perm : ∀ {lt}, StrictWeakOrder lt → ∀ entries,
    (sort lt entries).Perm entries
  sorted : ∀ {lt}, StrictWeakOrder lt → ∀ entries,
    (sort lt entries).Pairwise fun a b => lt b a = false

def SortRoutine.merge (α : Type) : SortRoutine α where
  sort lt entries := entries.mergeSort fun a b => !lt b a
  perm _ entries := List.mergeSort_perm entries _
  sorted := by
    intro lt order entries
    have htrans : ∀ a b c, (!lt b a) = true → (!lt c b) = true →
        (!lt c a) = true := by
      intro a b c hba hcb
      rw [Bool.not_eq_true'] at hba hcb ⊢
      by_contra hca
      rcases order.cotrans c b a (by simpa using hca) with h | h
      · simp [h] at hcb
      · simp [h] at hba
    have htotal : ∀ a b, (!lt b a || !lt a b) = true := by
      intro a b
      cases h : lt b a with
      | false => simp
      | true => simp [order.asymm b a h]
    exact (List.pairwise_mergeSort htrans htotal entries).imp
      fun {a b} h => by simpa using h

variable {α : Type} {lt : α → α → Bool}

theorem StrictWeakOrder.of_key {κ : Type} [LinearOrder κ] (key : α → κ)
    (h : ∀ a b, lt a b = true ↔ key a < key b) : StrictWeakOrder lt where
  asymm a b hab := by
    have hlt := (h a b).mp hab
    by_contra hba
    exact lt_asymm hlt ((h b a).mp (by simpa using hba))
  cotrans a b c hac := by
    rw [h a b, h b c]
    exact (lt_or_ge (key a) (key b)).imp_right
      fun hba => lt_of_le_of_lt hba ((h a c).mp hac)

theorem SortRoutine.mem_sort (routine : SortRoutine α)
    (order : StrictWeakOrder lt) {entries : List α} {x : α} :
    x ∈ routine.sort lt entries ↔ x ∈ entries :=
  (routine.perm order entries).mem_iff

/-- Where no two elements are equivalent, every routine arranges every
permutation of the input alike. -/
theorem SortRoutine.sort_eq_of_perm (first second : SortRoutine α)
    (order : StrictWeakOrder lt) {xs ys : List α} (hperm : xs.Perm ys)
    (hequiv : ∀ a ∈ xs, ∀ b ∈ xs, lt a b = false → lt b a = false → a = b) :
    first.sort lt xs = second.sort lt ys := by
  refine List.Perm.eq_of_pairwise ?_ (first.sorted order xs)
    (second.sorted order ys) ?_
  · intro a b ha hb hba hab
    rw [first.mem_sort order] at ha
    rw [second.mem_sort order, ← hperm.mem_iff] at hb
    exact hequiv a ha b hb hab hba
  · exact (first.perm order xs).trans
      (hperm.trans (second.perm order ys).symm)

theorem SortRoutine.sort_eq_self (routine : SortRoutine α)
    (order : StrictWeakOrder lt) {entries : List α}
    (h : entries.Pairwise fun a b => lt a b = true) :
    routine.sort lt entries = entries := by
  let R (a b : α) : Prop := lt b a = false → lt a b = false → a = b
  have hforward : entries.Pairwise R :=
    h.imp fun {a b} hab _ hfalse => by rw [hab] at hfalse; cases hfalse
  have hbackward : entries.Pairwise (flip R) :=
    h.imp fun {a b} hab hfalse _ => by rw [hab] at hfalse; cases hfalse
  refine List.Perm.eq_of_pairwise ?_ (routine.sorted order entries)
    (h.imp fun {a b} hab => order.asymm a b hab) (routine.perm order entries)
  intro a b ha hb
  rw [routine.mem_sort order] at ha
  exact hforward.forall_of_forall_of_flip (fun _ _ _ _ => rfl) hbackward ha hb

end SlipNet.Standard
