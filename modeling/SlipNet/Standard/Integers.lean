import SlipNet.Foundation.Decimal
import SlipNet.Standard.Strings

/-!
# Printing and parsing integers

`std::to_string` and the stream inserters print minimal decimal numerals.
`std::stoi`, `std::stoul` and `std::stoull` skip white space, read an optional
sign and the longest run of digits, and throw when there is no digit or the
value is out of range; trailing text is not an error.  A shift by a count
outside the width is undefined and has no value here.
-/

namespace SlipNet.Standard

open SlipNet.Foundation

/-- `output << value` for a signed integer. -/
def printInt (value : Int) : Str :=
  if value < 0 then '-' :: decimal value.natAbs else decimal value.natAbs

theorem notMem_printInt {c : Char} (hdigit : c.isDigit = false)
    (hminus : c ≠ '-') (value : Int) : c ∉ printInt value := by
  unfold printInt
  split
  · simp [hminus, notMem_decimal hdigit]
  · exact notMem_decimal hdigit

theorem printInt_injective : Function.Injective printInt := by
  intro a b h
  unfold printInt at h
  have hminus : ∀ n, '-' ∉ decimal n := fun n => notMem_decimal (by decide)
  split_ifs at h with ha hb hb
  · have := decimal_injective (List.cons.inj h).2
    omega
  · exact absurd (h ▸ List.mem_cons_self) (hminus _)
  · exact absurd (h.symm ▸ List.mem_cons_self) (hminus _)
  · have := decimal_injective h
    omega

/-- What the `strtol` family reads at the start of a string. -/
structure Scanned where
  negative : Bool
  magnitude : Nat
  consumed : Nat
  deriving DecidableEq, Repr

/-- Sign and remaining text, with the number of characters of the sign. -/
def scanSign : Str → Bool × Nat × Str
  | '-' :: rest => (true, 1, rest)
  | '+' :: rest => (false, 1, rest)
  | rest => (false, 0, rest)

/-- `none` when no conversion can be performed. -/
def scanInteger (value : Str) : Option Scanned :=
  let blanks := value.takeWhile isspace
  let (negative, signLength, body) := scanSign (value.dropWhile isspace)
  let digits := body.takeWhile isdigit
  if digits = [] then none
  else
    some {
      negative := negative
      magnitude := digitsValue digits
      consumed := blanks.length + signLength + digits.length }

def Scanned.value (scanned : Scanned) : Int :=
  if scanned.negative then -(scanned.magnitude : Int) else scanned.magnitude

def InIntRange (value : Int) : Prop :=
  -2147483648 ≤ value ∧ value ≤ 2147483647

instance (value : Int) : Decidable (InIntRange value) :=
  inferInstanceAs (Decidable (_ ∧ _))

/-- `std::stoi(value, &position)`; `none` is an exception. -/
def stoi (value : Str) : Option (Int × Nat) := do
  let scanned ← scanInteger value
  if InIntRange scanned.value then
    some (scanned.value, scanned.consumed)
  else none

/-- `std::stoull(value)`; a minus sign negates the result modulo 2^64. -/
def stoull (value : Str) : Option UInt64 := do
  let scanned ← scanInteger value
  if scanned.magnitude < 2 ^ 64 then
    some (if scanned.negative then 0 - UInt64.ofNat scanned.magnitude
      else UInt64.ofNat scanned.magnitude)
  else none

/-- `std::stoul(value)` where `unsigned long` has 64 bits, as on Linux.  On
Windows it has 32, and the numerals from `2 ^ 32` on throw. -/
def stoul (value : Str) : Option UInt64 := stoull value

/-- `value << count` on 32 bits. -/
def shiftLeft32 (value : UInt32) (count : Int) : Option UInt32 :=
  if 0 ≤ count ∧ count < 32 then some (value <<< UInt32.ofNat count.toNat)
  else none

theorem shiftLeft32_of_lt (value : UInt32) {count : Nat} (h : count < 32) :
    ∃ shifted, shiftLeft32 value count = some shifted ∧
      shifted.toNat = value.toNat <<< count % 2 ^ 32 := by
  refine ⟨_, if_pos ⟨by omega, by omega⟩, ?_⟩
  rw [UInt32.toNat_shiftLeft, UInt32.toNat_ofNat', Int.toNat_natCast,
    Nat.mod_eq_of_lt (show count < 2 ^ 32 by omega), Nat.mod_eq_of_lt h]

/-! ## Reading numerals back -/

theorem isspace_of_isDigit {c : Char} (h : c.isDigit = true) :
    isspace c = false := by
  by_contra hspace
  simp only [isspace, Bool.not_eq_false, Bool.or_eq_true,
    decide_eq_true_eq] at hspace
  rcases hspace with ((((rfl | rfl) | rfl) | rfl) | rfl) | rfl <;>
    exact absurd h (by decide)

theorem scanSign_of_isDigit {c : Char} (h : c.isDigit = true) (rest : Str) :
    scanSign (c :: rest) = (false, 0, c :: rest) := by
  have hminus : c ≠ '-' := by rintro rfl; exact absurd h (by decide)
  have hplus : c ≠ '+' := by rintro rfl; exact absurd h (by decide)
  unfold scanSign
  split <;> simp_all

theorem scanInteger_digits {digits : Str} (hne : digits ≠ [])
    (hdigit : ∀ c ∈ digits, c.isDigit = true) :
    scanInteger digits =
      some ⟨false, digitsValue digits, digits.length⟩ := by
  cases digits with
  | nil => exact absurd rfl hne
  | cons c rest =>
      have hc := hdigit c (by simp)
      have hspace := isspace_of_isDigit hc
      have htake : (c :: rest).takeWhile isdigit = c :: rest :=
        List.takeWhile_eq_self_iff.mpr hdigit
      simp [scanInteger, hspace, scanSign_of_isDigit hc, htake]

theorem scanInteger_neg_digits {digits : Str} (hne : digits ≠ [])
    (hdigit : ∀ c ∈ digits, c.isDigit = true) :
    scanInteger ('-' :: digits) =
      some ⟨true, digitsValue digits, 1 + digits.length⟩ := by
  have htake : digits.takeWhile isdigit = digits :=
    List.takeWhile_eq_self_iff.mpr hdigit
  have hspace : isspace '-' = false := by decide
  simp [scanInteger, hspace, scanSign, htake, hne]

theorem stoi_of_scanInteger {value : Str} {scanned : Scanned}
    (h : scanInteger value = some scanned)
    (hrange : InIntRange scanned.value) :
    stoi value = some (scanned.value, scanned.consumed) := by
  simp [stoi, h, hrange]

theorem stoi_digits {digits : Str} (hne : digits ≠ [])
    (hdigit : ∀ c ∈ digits, c.isDigit = true)
    (hsmall : digitsValue digits ≤ 2147483647) :
    stoi digits = some ((digitsValue digits : Int), digits.length) := by
  refine stoi_of_scanInteger (scanInteger_digits hne hdigit) ?_
  simp only [InIntRange, Scanned.value, Bool.false_eq_true, if_false]
  omega

theorem length_scanSign (value : Str) :
    (scanSign value).2.1 + (scanSign value).2.2.length = value.length := by
  unfold scanSign
  split <;> simp [Nat.add_comm]

theorem mem_of_mem_scanSign {value : Str} {c : Char} (h : c ∈ value) :
    c = '-' ∨ c = '+' ∨ c ∈ (scanSign value).2.2 := by
  unfold scanSign
  split <;> simp_all
  rcases h with h | h <;> simp [h]

theorem of_stoi_whole {value : Str} {n : Int}
    (h : stoi value = some (n, value.length)) {c : Char} (hc : c ∈ value) :
    isspace c = true ∨ c = '-' ∨ c = '+' ∨ isdigit c = true := by
  obtain ⟨scanned, hscan, hrest⟩ := Option.bind_eq_some_iff.mp h
  split at hrest
  · have hconsumed : scanned.consumed = value.length :=
      (Prod.mk.inj (Option.some.inj hrest)).2
    rw [scanInteger] at hscan
    dsimp only at hscan
    split at hscan
    · cases hscan
    · obtain rfl := Option.some.inj hscan
      have hblanks : (value.takeWhile isspace).length +
          (value.dropWhile isspace).length = value.length := by
        rw [← List.length_append, List.takeWhile_append_dropWhile]
      have hsign := length_scanSign (value.dropWhile isspace)
      -- the digits are all that is left behind blanks and sign
      have hdigits : (scanSign (value.dropWhile isspace)).2.2.takeWhile
          isdigit = (scanSign (value.dropWhile isspace)).2.2 :=
        (List.takeWhile_prefix isdigit).eq_of_length (by
          have htotal := hblanks.trans hconsumed.symm
          rw [← hsign, ← Nat.add_assoc] at htotal
          exact (Nat.add_left_cancel htotal).symm)
      rw [← List.takeWhile_append_dropWhile (p := isspace) (l := value),
        List.mem_append] at hc
      rcases hc with hc | hc
      · exact .inl (List.mem_takeWhile_imp hc)
      · rcases mem_of_mem_scanSign hc with hc | hc | hc
        · exact .inr (.inl hc)
        · exact .inr (.inr (.inl hc))
        · exact .inr (.inr (.inr
            (List.takeWhile_eq_self_iff.mp hdigits c hc)))
  · cases hrest

theorem stoull_digits {digits : Str} (hne : digits ≠ [])
    (hdigit : ∀ c ∈ digits, c.isDigit = true) :
    stoull digits =
      if digitsValue digits < 2 ^ 64 then
        some (UInt64.ofNat (digitsValue digits))
      else none := by
  simp [stoull, scanInteger_digits hne hdigit]

theorem stoi_printInt {value : Int} (hrange : InIntRange value) :
    stoi (printInt value) = some (value, (printInt value).length) := by
  have hdigit : ∀ c ∈ decimal value.natAbs, c.isDigit = true :=
    fun _ hc => isDigit_of_mem_decimal hc
  by_cases hneg : value < 0
  · have hscan :=
      scanInteger_neg_digits (decimal_ne_nil value.natAbs) hdigit
    have hvalue : Scanned.value ⟨true, digitsValue (decimal value.natAbs),
        1 + (decimal value.natAbs).length⟩ = value := by
      simp only [Scanned.value, if_true, digitsValue_decimal]
      omega
    have hstoi := stoi_of_scanInteger hscan (by rwa [hvalue])
    rw [hvalue] at hstoi
    rw [printInt, if_pos hneg, hstoi, List.length_cons, Nat.add_comm]
  · have hvalue : (value.natAbs : Int) = value := by omega
    have hsmall : digitsValue (decimal value.natAbs) ≤ 2147483647 := by
      have := hrange.2
      rw [digitsValue_decimal]
      omega
    rw [printInt, if_neg hneg,
      stoi_digits (decimal_ne_nil _) hdigit hsmall, digitsValue_decimal,
      hvalue]

theorem stoull_decimal (value : UInt64) :
    stoull (decimal value.toNat) = some value := by
  rw [stoull_digits (decimal_ne_nil _) fun _ hc => isDigit_of_mem_decimal hc,
    digitsValue_decimal, if_pos value.toNat_lt, UInt64.ofNat_toNat]

end SlipNet.Standard
