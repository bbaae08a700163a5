import Mathlib.Data.List.TakeWhile
import Mathlib.Tactic

/-!
# Decimal numerals

`Nat.toDigits 10` prints a natural number and `Nat.ofDigitChars 10` reads a
string of digits.  The printed numeral is the only one for its number without
a superfluous leading zero.
-/

namespace SlipNet.Foundation

/-- The minimal decimal numeral of a natural number. -/
def decimal (n : Nat) : List Char := Nat.toDigits 10 n

/-- The number a string of decimal digits denotes. -/
def digitsValue (digits : List Char) : Nat := Nat.ofDigitChars 10 digits 0

@[simp] theorem digitsValue_decimal (n : Nat) :
    digitsValue (decimal n) = n :=
  Nat.ofDigitChars_ten_toDigits

@[simp] theorem decimal_ne_nil (n : Nat) : decimal n ≠ [] :=
  Nat.toDigits_ne_nil

theorem isDigit_of_mem_decimal {n : Nat} {c : Char} (h : c ∈ decimal n) :
    c.isDigit = true :=
  Nat.isDigit_of_mem_toDigits (by decide) (by decide) h

theorem decimal_injective : Function.Injective decimal := by
  intro m n h
  have := congrArg digitsValue h
  simpa using this

theorem notMem_decimal {n : Nat} {c : Char} (h : c.isDigit = false) :
    c ∉ decimal n := by
  intro hc
  rw [isDigit_of_mem_decimal hc] at h
  contradiction

@[simp] theorem takeWhile_isDigit_decimal (n : Nat) :
    (decimal n).takeWhile Char.isDigit = decimal n :=
  List.takeWhile_eq_self_iff.mpr fun _ hc => isDigit_of_mem_decimal hc

theorem digitsValue_append_singleton (digits : List Char) (c : Char) :
    digitsValue (digits ++ [c]) =
      10 * digitsValue digits + (c.toNat - 48) := by
  simp [digitsValue, Nat.ofDigitChars_append, Nat.ofDigitChars_cons]

theorem digitChar_of_isDigit {c : Char} (h : c.isDigit = true) :
    c.toNat - 48 < 10 ∧ Nat.digitChar (c.toNat - 48) = c := by
  have hrange : 48 ≤ c.toNat ∧ c.toNat ≤ 57 := Char.isDigit_iff_toNat.mp h
  have hlt : c.toNat - 48 < 10 := by omega
  refine ⟨hlt, Char.toNat_inj.mp ?_⟩
  rw [Nat.toNat_digitChar_of_lt_ten hlt]
  omega

theorem decimal_digitsValue {digits : List Char} (hne : digits ≠ [])
    (hdigit : ∀ c ∈ digits, c.isDigit = true)
    (hlead : digits.length = 1 ∨ digits.head? ≠ some '0') :
    decimal (digitsValue digits) = digits := by
  induction digits using List.reverseRecOn with
  | nil => exact absurd rfl hne
  | append_singleton digits c ih =>
      obtain ⟨hlt, hchar⟩ := digitChar_of_isDigit (hdigit c (by simp))
      rw [digitsValue_append_singleton]
      by_cases hnil : digits = []
      · subst hnil
        have hvalue : digitsValue [] = 0 := rfl
        rw [hvalue, Nat.mul_zero, Nat.zero_add, decimal,
          Nat.toDigits_of_lt_base hlt, hchar, List.nil_append]
      · have hhead : digits.head? ≠ some '0' := by
          rcases hlead with hlen | hhead
          · exact absurd (by simpa using hlen) hnil
          · rwa [List.head?_append_of_ne_nil _ hnil] at hhead
        have hstart := ih hnil (fun d hd => hdigit d (by simp [hd]))
          (.inr hhead)
        have hpos : 0 < digitsValue digits := by
          by_contra hzero
          have hvalue : digitsValue digits = 0 := by omega
          rw [hvalue] at hstart
          apply hhead
          rw [← hstart]
          rfl
        calc
          decimal (10 * digitsValue digits + (c.toNat - 48)) =
              decimal (digitsValue digits) ++
                decimal (c.toNat - 48) :=
            (Nat.toDigits_append_toDigits (by decide) hpos hlt).symm
          _ = digits ++ [c] := by
            rw [hstart, decimal, Nat.toDigits_of_lt_base hlt, hchar]

theorem head?_decimal_ne_zero {n : Nat} (hn : 0 < n) :
    (decimal n).head? ≠ some '0' := by
  induction n using Nat.strongRecOn with
  | ind n ih =>
      by_cases hlt : n < 10
      · rw [decimal, Nat.toDigits_of_lt_base hlt]
        interval_cases n <;> decide
      · have hsplit : decimal (n / 10) ++ decimal (n % 10) = decimal n := by
          have h := Nat.toDigits_append_toDigits (b := 10) (by decide)
            (show 0 < n / 10 by omega) (show n % 10 < 10 by omega)
          rwa [Nat.div_add_mod] at h
        rw [← hsplit, List.head?_append_of_ne_nil _ (decimal_ne_nil _)]
        exact ih (n / 10) (by omega) (by omega)

theorem decimal_digitsValue_iff {digits : List Char} :
    decimal (digitsValue digits) = digits ↔
      digits ≠ [] ∧ (∀ c ∈ digits, c.isDigit = true) ∧
        (digits.length = 1 ∨ digits.head? ≠ some '0') := by
  constructor
  · intro h
    rw [← h]
    refine ⟨decimal_ne_nil _, fun c hc => isDigit_of_mem_decimal hc, ?_⟩
    rcases Nat.eq_zero_or_pos (digitsValue digits) with hzero | hpos
    · rw [hzero]
      exact .inl rfl
    · exact .inr (head?_decimal_ne_zero hpos)
  · rintro ⟨hne, hdigit, hlead⟩
    exact decimal_digitsValue hne hdigit hlead

end SlipNet.Foundation
