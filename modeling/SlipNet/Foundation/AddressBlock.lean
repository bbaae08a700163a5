import Mathlib.Order.Bounds.Basic
import Mathlib.Data.Nat.Bitwise
import Mathlib.Tactic

/-!
# Aligned blocks of numbers

The numbers that agree with `a` from bit `k` upwards form an interval of length
`2 ^ k` that starts at a multiple of `2 ^ k`.  This file gives its ends, and
shows that a mask computes them: clearing the low `k` bits gives the first
number, setting them the last.
-/

namespace SlipNet.Foundation

/-- `x` agrees with `a` from bit `k` upwards. -/
def AgreeFrom (k a x : Nat) : Prop := ∀ i, k ≤ i → x.testBit i = a.testBit i

def blockStart (k a : Nat) : Nat := a / 2 ^ k * 2 ^ k

def blockEnd (k a : Nat) : Nat := a / 2 ^ k * 2 ^ k + (2 ^ k - 1)

theorem agreeFrom_iff {k a x : Nat} :
    AgreeFrom k a x ↔ x / 2 ^ k = a / 2 ^ k := by
  constructor
  · intro h
    apply Nat.eq_of_testBit_eq
    intro i
    rw [Nat.testBit_div_two_pow, Nat.testBit_div_two_pow]
    exact h (i + k) (by omega)
  · intro h i hi
    have hbit := congrArg (Nat.testBit · (i - k)) h
    simp only [Nat.testBit_div_two_pow, Nat.sub_add_cancel hi] at hbit
    exact hbit

theorem blockStart_le (k a : Nat) : blockStart k a ≤ a :=
  Nat.div_mul_le_self a (2 ^ k)

theorem le_blockEnd (k a : Nat) : a ≤ blockEnd k a := by
  have hmod := Nat.mod_lt a (Nat.two_pow_pos k)
  have hsplit := Nat.div_add_mod' a (2 ^ k)
  rw [blockEnd]
  omega

theorem blockEnd_eq (k a : Nat) : blockEnd k a = blockStart k a + (2 ^ k - 1) :=
  rfl

theorem agreeFrom_iff_mem {k a x : Nat} :
    AgreeFrom k a x ↔ blockStart k a ≤ x ∧ x ≤ blockEnd k a := by
  have hpos := Nat.two_pow_pos k
  rw [agreeFrom_iff, Nat.div_eq_iff hpos, blockStart, blockEnd]
  omega

theorem agreeFrom_blockStart (k a : Nat) : AgreeFrom k a (blockStart k a) :=
  agreeFrom_iff_mem.mpr ⟨le_rfl, (blockStart_le k a).trans (le_blockEnd k a)⟩

theorem agreeFrom_blockEnd (k a : Nat) : AgreeFrom k a (blockEnd k a) :=
  agreeFrom_iff_mem.mpr ⟨(blockStart_le k a).trans (le_blockEnd k a), le_rfl⟩

/-! ## Masks -/

theorem testBit_blockStart (k a i : Nat) :
    (blockStart k a).testBit i = (decide (k ≤ i) && a.testBit i) := by
  rw [blockStart, Nat.testBit_mul_two_pow, Nat.testBit_div_two_pow]
  by_cases h : k ≤ i <;> simp [h]

theorem testBit_blockEnd (k a i : Nat) :
    (blockEnd k a).testBit i = (decide (i < k) || a.testBit i) := by
  have hlow : 2 ^ k - 1 < 2 ^ k := Nat.sub_lt (Nat.two_pow_pos k) Nat.one_pos
  rw [blockEnd, Nat.mul_comm, Nat.testBit_two_pow_mul_add _ hlow]
  by_cases h : i < k
  · simp [h]
  · simp [h, Nat.testBit_div_two_pow, Nat.sub_add_cancel (not_lt.mp h)]

/-- A mask of width `w` that keeps the bits from `k` on. -/
def IsMask (w k mask : Nat) : Prop :=
  ∀ i, mask.testBit i = (decide (k ≤ i) && decide (i < w))

theorem and_mask {w k mask a : Nat} (hmask : IsMask w k mask)
    (ha : a < 2 ^ w) : a &&& mask = blockStart k a := by
  apply Nat.eq_of_testBit_eq
  intro i
  rw [Nat.testBit_and, hmask, testBit_blockStart]
  by_cases hi : i < w
  · simp [hi, Bool.and_comm]
  · have hzero : a.testBit i = false := Nat.testBit_lt_two_pow
      (ha.trans_le (Nat.pow_le_pow_right (by omega) (not_lt.mp hi)))
    simp [hzero]

theorem or_not_mask {w k mask wildcard a : Nat} (hk : k ≤ w)
    (hmask : IsMask w k mask)
    (hwildcard : ∀ i, wildcard.testBit i = (decide (i < w) && !mask.testBit i)) :
    blockStart k a ||| wildcard = blockEnd k a := by
  apply Nat.eq_of_testBit_eq
  intro i
  rw [Nat.testBit_or, hwildcard, hmask, testBit_blockStart, testBit_blockEnd]
  by_cases hi : i < k
  · simp [hi, show ¬ k ≤ i by omega, show i < w by omega]
  · simp [hi, show k ≤ i by omega]

theorem isMask_shiftLeft (w k : Nat) :
    IsMask w k ((2 ^ w - 1) <<< k % 2 ^ w) := by
  intro i
  rw [Nat.testBit_mod_two_pow, Nat.testBit_shiftLeft,
    Nat.testBit_two_pow_sub_one]
  by_cases hk : k ≤ i
  · by_cases hi : i < w
    · simp [hk, hi, show i - k < w by omega]
    · simp [hi]
  · simp [hk]

theorem isMask_zero (w : Nat) : IsMask w w 0 := by
  intro i
  simp

theorem testBit_complement {w x : Nat} (hx : x < 2 ^ w) (i : Nat) :
    (2 ^ w - 1 - x).testBit i = (decide (i < w) && !x.testBit i) := by
  rw [Nat.sub_sub, Nat.add_comm]
  exact Nat.testBit_two_pow_sub_succ hx i

end SlipNet.Foundation
