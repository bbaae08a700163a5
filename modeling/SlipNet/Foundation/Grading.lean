import Mathlib.Algebra.BigOperators.Group.Finset.Basic
import Mathlib.Data.Finset.Lattice.Fold
import Mathlib.Tactic

/-!
# Grades

The gravest of a list of grades is bounded by a grade exactly if each of them
is.  A list that is split by a key has as many elements of a kind as its parts
have together, and is as grave as the gravest of its parts.
-/

namespace SlipNet.Foundation

variable {α κ γ : Type*}

section Order

variable [LinearOrder γ] [OrderBot γ]

def gravest (grades : List γ) : γ := grades.foldr max ⊥

variable {grades : List γ} {bound : γ}

theorem gravest_le_iff : gravest grades ≤ bound ↔
    ∀ grade ∈ grades, grade ≤ bound := by
  induction grades with
  | nil => simp [gravest]
  | cons grade grades ih =>
      rw [gravest, List.foldr_cons, max_le_iff, List.forall_mem_cons]
      exact and_congr_right fun _ => ih

theorem le_gravest {grade : γ} (h : grade ∈ grades) : grade ≤ gravest grades :=
  gravest_le_iff.mp le_rfl grade h

theorem gravest_perm {other : List γ} (h : grades.Perm other) :
    gravest grades = gravest other := by
  refine le_antisymm ?_ ?_
  · exact gravest_le_iff.mpr fun grade hgrade => le_gravest (h.mem_iff.mp hgrade)
  · exact gravest_le_iff.mpr fun grade hgrade => le_gravest (h.mem_iff.mpr hgrade)

/-- Where the grades fall, the first is the gravest. -/
theorem gravest_cons_of_pairwise {grade : γ}
    (h : (grade :: grades).Pairwise fun a b => b ≤ a) :
    gravest (grade :: grades) = grade := by
  rw [gravest, List.foldr_cons, max_eq_left]
  exact gravest_le_iff.mpr (List.pairwise_cons.mp h).1

end Order

/-! ## Parts -/

/-- Selecting before a list is gathered is selecting what was gathered. -/
theorem flatMap_filter {β : Type*} {f : α → List β} {p : α → Bool}
    {q : β → Bool} (h : ∀ a, ∀ b ∈ f a, q b = p a) (xs : List α) :
    (xs.filter p).flatMap f = (xs.flatMap f).filter q := by
  induction xs with
  | nil => rfl
  | cons x xs ih =>
      rw [List.flatMap_cons, List.filter_append, ← ih]
      by_cases hx : p x = true
      · have hall : (f x).filter q = f x :=
          List.filter_eq_self.mpr fun b hb => (h x b hb).trans hx
        rw [List.filter_cons_of_pos hx, List.flatMap_cons, hall]
      · have hnone : (f x).filter q = [] :=
          List.filter_eq_nil_iff.mpr fun b hb => (h x b hb).symm ▸ hx
        rw [List.filter_cons_of_neg hx, hnone, List.nil_append]

variable [DecidableEq κ] {key : α → κ} {keys : Finset κ} {xs : List α}

theorem countP_eq_sum_parts (h : ∀ x ∈ xs, key x ∈ keys) (kind : α → Bool) :
    xs.countP kind =
      ∑ k ∈ keys, (xs.filter fun x => key x = k).countP kind := by
  induction xs with
  | nil => simp
  | cons x xs ih =>
      rw [List.forall_mem_cons] at h
      have hpart (k : κ) :
          ((x :: xs).filter fun y => key y = k).countP kind =
            (xs.filter fun y => key y = k).countP kind +
              if key x = k then (if kind x then 1 else 0) else 0 := by
        by_cases hk : key x = k
        · simp [hk, List.countP_cons]
        · simp [hk]
      rw [List.countP_cons, ih h.2, Finset.sum_congr rfl fun k _ => hpart k,
        Finset.sum_add_distrib, Finset.sum_ite_eq, if_pos h.1]

theorem gravest_eq_sup_parts [LinearOrder γ] [OrderBot γ]
    (h : ∀ x ∈ xs, key x ∈ keys) (grade : α → γ) :
    gravest (xs.map grade) = keys.sup fun k =>
      gravest ((xs.filter fun x => key x = k).map grade) := by
  refine le_antisymm (gravest_le_iff.mpr ?_) (Finset.sup_le fun k _ =>
    gravest_le_iff.mpr ?_)
  · intro g hg
    obtain ⟨x, hx, rfl⟩ := List.mem_map.mp hg
    refine le_trans ?_ (Finset.le_sup (f := fun k =>
      gravest ((xs.filter fun x => key x = k).map grade)) (h x hx))
    exact le_gravest (List.mem_map_of_mem (by simp [hx]))
  · intro g hg
    obtain ⟨x, hx, rfl⟩ := List.mem_map.mp hg
    exact le_gravest (List.mem_map_of_mem (List.mem_filter.mp hx).1)

theorem exists_card_eq_sum_length {α β κ ι : Type*} [DecidableEq κ]
    [DecidableEq ι] {outer : α → κ} {inner : β → ι} {xs : List α}
    {entries : α → List β} (hxs : (xs.map outer).Nodup)
    (hentries : ∀ x ∈ xs, ((entries x).map inner).Nodup) :
    ∃ pairs : Finset (κ × ι),
      pairs.card = (xs.map fun x => (entries x).length).sum ∧
      ∀ k i, (k, i) ∈ pairs ↔
        ∃ x ∈ xs, outer x = k ∧ ∃ entry ∈ entries x, inner entry = i := by
  have hnodup : (xs.flatMap fun x =>
      (entries x).map fun entry => (outer x, inner entry)).Nodup := by
    refine List.nodup_flatMap.mpr ⟨fun x hx => ?_, ?_⟩
    · refine List.Nodup.of_map Prod.snd ?_
      rw [List.map_map]
      exact hentries x hx
    · refine (List.pairwise_map.mp hxs).imp fun hne pair hfirst hsecond => ?_
      obtain ⟨_, _, rfl⟩ := List.mem_map.mp hfirst
      obtain ⟨_, _, hpair⟩ := List.mem_map.mp hsecond
      exact hne (Prod.mk.inj hpair).1.symm
  refine ⟨_, List.toFinset_card_of_nodup hnodup |>.trans ?_, fun k i => ?_⟩
  · simp [List.length_flatMap]
  · simp only [List.mem_toFinset, List.mem_flatMap, List.mem_map,
      Prod.mk.injEq]
    constructor
    · rintro ⟨x, hx, entry, hentry, rfl, rfl⟩
      exact ⟨x, hx, rfl, entry, hentry, rfl⟩
    · rintro ⟨x, hx, rfl, entry, hentry, rfl⟩
      exact ⟨x, hx, entry, hentry, rfl, rfl⟩

end SlipNet.Foundation
