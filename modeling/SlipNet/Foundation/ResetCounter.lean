import Mathlib.Algebra.Order.Sub.Basic
import Mathlib.Data.List.Chain
import Mathlib.Tactic

/-!
# Counters that reset

A counter grows and may fall back to any smaller value.  The increase between
two readings is taken to be the second reading if the counter fell, and their
difference if it did not.  The increases along a list of readings add up to the
increase from the first to the last only if nothing is lost at a reset.
-/

namespace SlipNet.Foundation

/-! ## Readings -/

variable {M : Type*}

def lastReading (first : M) : List M → M
  | [] => first
  | reading :: later => lastReading reading later

theorem lastReading_append_cons (first : M) (before : List M) (reading : M)
    (after : List M) :
    lastReading first (before ++ reading :: after) =
      lastReading reading after := by
  induction before generalizing first with
  | nil => rfl
  | cons other before ih => exact ih other

variable [LinearOrder M]

/-- No reading is below the one before it. -/
def NeverResets (first : M) (later : List M) : Prop :=
  (first :: later).IsChain (· ≤ ·)

/-- The counter stays at its first value, falls below it once, and ends below
it. -/
def ResetsUnmoved (first : M) (later : List M) : Prop :=
  ∃ before reading after, later = before ++ reading :: after ∧
    (∀ other ∈ before, other = first) ∧ reading < first ∧
    NeverResets reading after ∧ lastReading reading after < first

theorem resetsUnmoved_cons_iff {first reading : M} {later : List M} :
    ResetsUnmoved first (reading :: later) ↔
      reading < first ∧ NeverResets reading later ∧
          lastReading reading later < first ∨
        reading = first ∧ ResetsUnmoved first later := by
  constructor
  · rintro ⟨before, low, after, hlater, hbefore, hlow, hnever, hlast⟩
    cases before with
    | nil =>
        obtain ⟨rfl, rfl⟩ := List.cons.inj hlater
        exact .inl ⟨hlow, hnever, hlast⟩
    | cons head before =>
        obtain ⟨rfl, rfl⟩ := List.cons.inj hlater
        rw [List.forall_mem_cons] at hbefore
        exact .inr ⟨hbefore.1, before, low, after, rfl, hbefore.2, hlow,
          hnever, hlast⟩
  · rintro (⟨hlow, hnever, hlast⟩ | ⟨rfl, before, low, after, rfl, hbefore,
      hrest⟩)
    · exact ⟨[], reading, later, rfl, by simp, hlow, hnever, hlast⟩
    · exact ⟨reading :: before, low, after, rfl,
        List.forall_mem_cons.mpr ⟨rfl, hbefore⟩, hrest⟩

theorem ResetsUnmoved.lastReading_lt {first : M} {later : List M}
    (h : ResetsUnmoved first later) : lastReading first later < first := by
  obtain ⟨before, reading, after, rfl, _, _, _, hlast⟩ := h
  rwa [lastReading_append_cons]

/-! ## What resets lose -/

variable [AddCommMonoid M]

/-- The sum of the readings that a reset fell back from. -/
def lostAtResets (first : M) : List M → M
  | [] => 0
  | reading :: later =>
      (if reading < first then first else 0) + lostAtResets reading later

section Lost

variable [CanonicallyOrderedAdd M]

theorem lostAtResets_eq_zero_iff (first : M) (later : List M) :
    lostAtResets first later = 0 ↔ NeverResets first later := by
  induction later generalizing first with
  | nil => simp [lostAtResets, NeverResets]
  | cons reading later ih =>
      rw [lostAtResets, add_eq_zero, ih, NeverResets, NeverResets,
        List.isChain_cons_cons]
      refine and_congr_left fun _ => ?_
      split_ifs with h
      · exact iff_of_false (zero_le.trans_lt h).ne' (not_le.mpr h)
      · exact iff_of_true rfl (not_lt.mp h)

theorem le_lostAtResets {first : M} {later : List M}
    (h : lastReading first later < first) :
    first ≤ lostAtResets first later := by
  induction later generalizing first with
  | nil => exact absurd h (lt_irrefl first)
  | cons reading later ih =>
      rw [lostAtResets]
      split_ifs with hreset
      · exact le_self_add
      · have hle := not_lt.mp hreset
        rw [zero_add]
        exact hle.trans (ih (h.trans_le hle))

variable [IsCancelAdd M]

theorem lostAtResets_eq_first_iff {first : M} {later : List M}
    (h : lastReading first later < first) :
    lostAtResets first later = first ↔ ResetsUnmoved first later := by
  induction later with
  | nil => exact absurd h (lt_irrefl first)
  | cons reading later ih =>
      rw [resetsUnmoved_cons_iff, lostAtResets]
      rcases lt_trichotomy reading first with hlow | rfl | hhigh
      · rw [if_pos hlow, add_eq_left, lostAtResets_eq_zero_iff]
        constructor
        · exact fun hnever => .inl ⟨hlow, hnever, h⟩
        · rintro (⟨_, hnever, _⟩ | ⟨rfl, _⟩)
          · exact hnever
          · exact absurd hlow (lt_irrefl reading)
      · rw [if_neg (lt_irrefl reading), zero_add, ih h]
        simp
      · rw [if_neg hhigh.not_gt, zero_add]
        refine iff_of_false ?_ ?_
        · exact (hhigh.trans_le (le_lostAtResets (h.trans hhigh))).ne'
        · rintro (⟨hlow, _⟩ | ⟨rfl, _⟩)
          · exact lt_asymm hlow hhigh
          · exact lt_irrefl reading hhigh

end Lost

/-! ## Increases -/

variable [Sub M]

def increase (current previous : M) : M :=
  if current < previous then current else current - previous

def totalIncrease (first : M) : List M → M
  | [] => 0
  | reading :: later => increase reading first + totalIncrease reading later

variable [CanonicallyOrderedAdd M] [OrderedSub M]

theorem increase_add (current previous : M) :
    increase current previous + previous =
      current + if current < previous then previous else 0 := by
  unfold increase
  split_ifs with h
  · rfl
  · rw [add_zero, tsub_add_cancel_of_le (not_lt.mp h)]

theorem totalIncrease_add (first : M) (later : List M) :
    totalIncrease first later + first =
      lastReading first later + lostAtResets first later := by
  induction later generalizing first with
  | nil => simp [totalIncrease, lastReading, lostAtResets]
  | cons reading later ih =>
      calc
        increase reading first + totalIncrease reading later + first =
            increase reading first + first + totalIncrease reading later :=
          add_right_comm _ _ _
        _ = (if reading < first then first else 0) +
            (totalIncrease reading later + reading) := by
          rw [increase_add]
          abel
        _ = lastReading reading later +
            ((if reading < first then first else 0) +
              lostAtResets reading later) := by
          rw [ih, add_left_comm]

/-- The increases add up to the increase from end to end exactly if the counter
never resets, or resets once from where it stood and ends below that. -/
theorem increase_eq_totalIncrease_iff [IsCancelAdd M] (first : M)
    (later : List M) :
    increase (lastReading first later) first = totalIncrease first later ↔
      NeverResets first later ∨ ResetsUnmoved first later := by
  have hends := increase_add (lastReading first later) first
  have htotal := totalIncrease_add first later
  have hlost : increase (lastReading first later) first =
        totalIncrease first later ↔
      lostAtResets first later =
        if lastReading first later < first then first else 0 := by
    rw [← add_left_inj first, hends, htotal, add_right_inj, eq_comm]
  rw [hlost]
  by_cases hlast : lastReading first later < first
  · rw [if_pos hlast, lostAtResets_eq_first_iff hlast]
    have hresets : ¬ NeverResets first later := by
      rw [← lostAtResets_eq_zero_iff]
      exact ((zero_le.trans_lt hlast).trans_le (le_lostAtResets hlast)).ne'
    rw [or_iff_right hresets]
  · rw [if_neg hlast, lostAtResets_eq_zero_iff,
      or_iff_left fun h => hlast h.lastReading_lt]

end SlipNet.Foundation
