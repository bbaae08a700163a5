import Mathlib.Data.List.Range
import Mathlib.Data.Nat.ModEq
import Mathlib.Tactic

/-!
# Numbering what is kept

A loop numbers the elements of a list modulo `m` and keeps some of them.  The
numbers kept run on without a gap exactly if a multiple of `m` elements is
dropped in front of each kept one.  Where they do, each number belongs to
one element.
-/

namespace SlipNet.Foundation

variable {α β : Type*}

theorem add_mod_eq_left_iff {a b m : Nat} (hm : 0 < m) :
    (a + b) % m = a ↔ m ∣ b ∧ a < m := by
  constructor
  · intro h
    have hlt : a < m := h ▸ Nat.mod_lt _ hm
    have hcongr : a + b ≡ a [MOD m] := by
      rw [Nat.ModEq, h, Nat.mod_eq_of_lt hlt]
    exact ⟨Nat.add_modEq_left_iff.mp hcongr, hlt⟩
  · rintro ⟨hdvd, hlt⟩
    have hcongr : a + b ≡ a [MOD m] := Nat.add_modEq_left_iff.mpr hdvd
    rwa [Nat.ModEq, Nat.mod_eq_of_lt hlt] at hcongr

/-! ## The numbers of the kept elements -/

def keptNumbers (m : Nat) (keeps : α → Bool) : Nat → List α → List Nat
  | _, [] => []
  | number, x :: xs =>
      if keeps x then number % m :: keptNumbers m keeps (number + 1) xs
      else keptNumbers m keeps (number + 1) xs

/-- A multiple of `m` elements is dropped in front of each one that is kept,
with `dropped` elements dropped before the list. -/
def DropsMultiples (m : Nat) (keeps : α → Bool) (dropped : Nat)
    (xs : List α) : Prop :=
  ∀ before x after, xs = before ++ x :: after → keeps x = true →
    m ∣ dropped + before.countP fun y => !keeps y

variable {m : Nat} {keeps : α → Bool} {dropped : Nat} {x : α} {xs : List α}

@[simp] theorem dropsMultiples_nil : DropsMultiples m keeps dropped [] := by
  rintro (_ | ⟨y, before⟩) x after h <;> cases h

theorem dropsMultiples_cons_of_pos (h : keeps x = true) :
    DropsMultiples m keeps dropped (x :: xs) ↔
      m ∣ dropped ∧ DropsMultiples m keeps dropped xs := by
  constructor
  · intro hdrops
    refine ⟨by simpa using hdrops [] x xs rfl h, ?_⟩
    rintro before y after rfl hy
    simpa [h] using hdrops (x :: before) y after rfl hy
  · rintro ⟨hdvd, hdrops⟩ (_ | ⟨z, before⟩) y after heq hy
    · simpa using hdvd
    · obtain ⟨rfl, rfl⟩ := List.cons_eq_cons.mp heq
      simpa [h] using hdrops before y after rfl hy

theorem dropsMultiples_cons_of_neg (h : keeps x = false) :
    DropsMultiples m keeps dropped (x :: xs) ↔
      DropsMultiples m keeps (dropped + 1) xs := by
  have hcount (before : List α) :
      dropped + ((x :: before).countP fun y => !keeps y) =
        dropped + 1 + before.countP fun y => !keeps y := by
    rw [List.countP_cons_of_pos (by simp [h])]
    omega
  constructor
  · rintro hdrops before y after rfl hy
    rw [← hcount]
    exact hdrops (x :: before) y after rfl hy
  · rintro hdrops (_ | ⟨z, before⟩) y after heq hy
    · obtain ⟨rfl, rfl⟩ := List.cons_eq_cons.mp heq
      exact absurd (hy.symm.trans h) (by simp)
    · obtain ⟨rfl, rfl⟩ := List.cons_eq_cons.mp heq
      rw [hcount]
      exact hdrops before y after rfl hy

/-- The kept numbers follow `next` while the numbers of the loop are `dropped`
ahead. -/
theorem keptNumbers_eq_range'_iff {next : Nat} (hm : 0 < m)
    (hnext : next ≤ m) :
    keptNumbers m keeps (next + dropped) xs =
        List.range' next (xs.countP keeps) ↔
      next + xs.countP keeps ≤ m ∧ DropsMultiples m keeps dropped xs := by
  induction xs generalizing next dropped with
  | nil => simpa [keptNumbers] using hnext
  | cons x xs ih =>
      rw [keptNumbers]
      by_cases hkept : keeps x = true
      · -- the number of a kept element is `next` only if none has been lost
        rw [if_pos hkept, List.countP_cons_of_pos hkept, List.range'_succ,
          List.cons_eq_cons, add_mod_eq_left_iff hm,
          dropsMultiples_cons_of_pos hkept, Nat.add_right_comm]
        constructor
        · rintro ⟨⟨hdvd, hlt⟩, htail⟩
          obtain ⟨hroom, hdrops⟩ := (ih hlt).mp htail
          exact ⟨by omega, hdvd, hdrops⟩
        · rintro ⟨hroom, hdvd, hdrops⟩
          have hlt : next < m := by omega
          exact ⟨⟨hdvd, hlt⟩, (ih hlt).mpr ⟨by omega, hdrops⟩⟩
      · -- a dropped one takes the loop one number further ahead of `next`
        have hrejected := eq_false_of_ne_true hkept
        rw [if_neg hkept, List.countP_cons_of_neg hkept, Nat.add_assoc,
          ih hnext, dropsMultiples_cons_of_neg hrejected]

/-! ## Elements by their numbers -/

/-- Where the keys are distinct, a search finds the one element that has the
key. -/
theorem exists_filter_eq_singleton [DecidableEq β] {key : α → β}
    (hnodup : (xs.map key).Nodup) {k : β} (hmem : k ∈ xs.map key) :
    ∃ x, xs.filter (fun y => key y = k) = [x] ∧
      xs.find? (fun y => key y = k) = some x := by
  have hcount : (xs.filter fun y => decide (key y = k)).length = 1 := by
    rw [← List.countP_eq_length_filter]
    have hone := List.count_eq_one_of_mem hnodup hmem
    rw [List.count, List.countP_map] at hone
    exact hone
  obtain ⟨x, hx⟩ := List.length_eq_one_iff.mp hcount
  refine ⟨x, hx, ?_⟩
  rw [← List.head?_filter, hx, List.head?_cons]

end SlipNet.Foundation
