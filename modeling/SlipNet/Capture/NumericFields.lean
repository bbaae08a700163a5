import SlipNet.Capture.RoundTrip
import SlipNet.Standard.Numerals

/-!
# Numeric fields of a capture file

`loadCapture` converts the value of a numeric line with `std::stoull`,
`std::stoul` or `std::stoi` and casts the result to the field.  The conversions
take a numeral at the start of the text and ignore what follows, and the casts
wrap around; only a conversion that fails leaves zero behind.
-/

namespace SlipNet.Capture

open SlipNet.Foundation
open SlipNet.Standard

inductive NumericField
  | id | sourcePort | destinationPort | ttl | length
  deriving DecidableEq, Repr

namespace NumericField

def key : NumericField → Str
  | id => "id".toList
  | sourcePort => "source_port".toList
  | destinationPort => "destination_port".toList
  | ttl => "ttl".toList
  | length => "length".toList

def stored (packet : Packet) : NumericField → Int
  | id => packet.id.toNat
  | sourcePort => packet.sourcePort.toNat
  | destinationPort => packet.destinationPort.toNat
  | ttl => packet.ttl.toNat
  | length => packet.length.toInt

def InRange (n : Int) : NumericField → Prop
  | id => 0 ≤ n ∧ n < 2 ^ 64
  | sourcePort => 0 ≤ n ∧ n < 2 ^ 16
  | destinationPort => 0 ≤ n ∧ n < 2 ^ 16
  | ttl => 0 ≤ n ∧ n < 2 ^ 8
  | length => InIntRange n

/-- The cast to the field keeps a number modulo this. -/
def modulus : NumericField → Nat
  | id => 2 ^ 64
  | sourcePort => 2 ^ 16
  | destinationPort => 2 ^ 16
  | ttl => 2 ^ 8
  | length => 2 ^ 32

/-- The numerals that the conversion of the field accepts. -/
def Converts (negative : Bool) (magnitude : Nat) : NumericField → Prop
  | length => InIntRange (if negative then -(magnitude : Int) else magnitude)
  | _ => magnitude < 2 ^ 64

/-- The field gets the number whose numeral the text is, else zero. -/
structure StoresExactly (field : NumericField) (value : Str) (n : Int) :
    Prop where
  numeral : ∀ m, field.InRange m → value = printInt m → n = m
  other : (∀ m, field.InRange m → value ≠ printInt m) → n = 0

/-- No conversion of a prefix of the text leaves anything but zero. -/
def LeavesZero (field : NumericField) (value : Str) : Prop :=
  ∀ text rest negative magnitude, value = text ++ rest →
    IsNumeral text negative magnitude → NoDigitAhead rest →
    field.Converts negative magnitude → field.modulus ∣ magnitude

end NumericField

/-! ## Conversions of numerals -/

theorem sub_mod_eq_zero_iff {modulus magnitude : Nat}
    (hmodulus : modulus ∣ 2 ^ 64) (hlt : magnitude < 2 ^ 64) :
    (0 - UInt64.ofNat magnitude).toNat % modulus = 0 ↔ modulus ∣ magnitude := by
  have hvalue : (0 - UInt64.ofNat magnitude).toNat =
      (2 ^ 64 - magnitude) % 2 ^ 64 := by
    rw [UInt64.toNat_sub, UInt64.toNat_ofNat', Nat.mod_eq_of_lt hlt]
    rfl
  rw [hvalue, Nat.mod_mod_of_dvd _ hmodulus, ← Nat.dvd_iff_mod_eq_zero]
  constructor
  · intro h
    have hsub := Nat.dvd_sub hmodulus h
    rwa [Nat.sub_sub_self hlt.le] at hsub
  · exact Nat.dvd_sub hmodulus

theorem stoullOrZero_mod_eq_zero_iff {modulus : Nat}
    (hmodulus : modulus ∣ 2 ^ 64) (value : Str) :
    (stoullOrZero value).toNat % modulus = 0 ↔
      ∀ text rest negative magnitude, value = text ++ rest →
        IsNumeral text negative magnitude → NoDigitAhead rest →
        magnitude < 2 ^ 64 → modulus ∣ magnitude := by
  cases hscan : scanInteger value with
  | none =>
      have hzero : stoullOrZero value = 0 := by
        simp [stoullOrZero, stoull, hscan]
      rw [hzero]
      simp only [UInt64.toNat_zero, Nat.zero_mod, true_iff]
      rintro text rest negative magnitude rfl htext hrest _
      rw [scanInteger_of_isNumeral htext hrest] at hscan
      cases hscan
  | some scanned =>
      obtain ⟨text, rest, rfl, htext, _, hrest⟩ :=
        exists_isNumeral_of_scanInteger hscan
      have hvalue : stoullOrZero (text ++ rest) =
          if scanned.magnitude < 2 ^ 64 then
            if scanned.negative then 0 - UInt64.ofNat scanned.magnitude
            else UInt64.ofNat scanned.magnitude
          else 0 := by
        simp only [stoullOrZero, stoull, hscan, Option.bind_eq_bind,
          Option.bind_some]
        split <;> rfl
      have hread : (∀ text' rest' negative magnitude,
          text ++ rest = text' ++ rest' →
          IsNumeral text' negative magnitude → NoDigitAhead rest' →
          magnitude < 2 ^ 64 → modulus ∣ magnitude) ↔
          (scanned.magnitude < 2 ^ 64 → modulus ∣ scanned.magnitude) := by
        refine ⟨fun h => h text rest _ _ rfl htext hrest, ?_⟩
        intro h text' rest' negative magnitude hsplit htext' hrest'
        rw [hsplit, scanInteger_of_isNumeral htext' hrest'] at hscan
        obtain rfl := Option.some.inj hscan
        exact h
      rw [hread, hvalue]
      split_ifs with hlt hnegative
      · rw [sub_mod_eq_zero_iff hmodulus hlt, forall_prop_of_true hlt]
      · rw [UInt64.toNat_ofNat', Nat.mod_eq_of_lt hlt,
          ← Nat.dvd_iff_mod_eq_zero, forall_prop_of_true hlt]
      · exact iff_of_true rfl fun h => absurd h hlt

theorem stoiOrZero_eq_zero_iff (value : Str) :
    (stoiOrZero value).toInt = 0 ↔
      ∀ text rest negative magnitude, value = text ++ rest →
        IsNumeral text negative magnitude → NoDigitAhead rest →
        InIntRange (if negative then -(magnitude : Int) else magnitude) →
        2 ^ 32 ∣ magnitude := by
  -- in the range of the type no number but zero is a multiple
  have hmultiple : ∀ (negative : Bool) (magnitude : Nat),
      InIntRange (if negative then -(magnitude : Int) else magnitude) →
      (2 ^ 32 ∣ magnitude ↔
        (if negative then -(magnitude : Int) else magnitude) = 0) := by
    intro negative magnitude hrange
    unfold InIntRange at hrange
    cases negative <;> simp only [Bool.false_eq_true, if_true, if_false]
      at hrange ⊢ <;> omega
  cases hstoi : stoi value with
  | none =>
      have hzero : stoiOrZero value = 0 := by rw [stoiOrZero, hstoi]
      rw [hzero]
      refine iff_of_true rfl ?_
      intro text rest negative magnitude hvalue htext hrest hrange
      rw [stoi_eq_some_iff.mpr ⟨text, rest, negative, magnitude, hvalue,
        htext, rfl, hrest, rfl, hrange⟩] at hstoi
      cases hstoi
  | some read =>
      obtain ⟨n, position⟩ := read
      obtain ⟨text, rest, negative, magnitude, hvalue, htext, _, hrest, hn,
        hrange⟩ := stoi_eq_some_iff.mp hstoi
      have hstored : (stoiOrZero value).toInt = n := by
        rw [stoiOrZero, hstoi]
        exact Int32.toInt_ofInt_of_le hrange.1 (by have := hrange.2; omega)
      rw [hstored]
      constructor
      · intro hzero text' rest' negative' magnitude' hvalue' htext' hrest'
          hrange'
        rw [hmultiple negative' magnitude' hrange']
        have hstoi' := stoi_eq_some_iff.mpr ⟨text', rest', negative',
          magnitude', hvalue', htext', rfl, hrest', rfl, hrange'⟩
        rw [hstoi] at hstoi'
        exact (Prod.mk.inj (Option.some.inj hstoi')).1.symm.trans hzero
      · intro h
        rw [hn] at hrange ⊢
        exact (hmultiple negative magnitude hrange).mp
          (h text rest negative magnitude hvalue htext hrest hrange)

/-! ## One line of a packet -/

def NumericField.converted (value : Str) : NumericField → Int
  | .id => (stoullOrZero value).toNat
  | .sourcePort => (stoullOrZero value).toUInt16.toNat
  | .destinationPort => (stoullOrZero value).toUInt16.toNat
  | .ttl => (stoullOrZero value).toUInt8.toNat
  | .length => (stoiOrZero value).toInt

theorem stored_loadLine (loader : Loader) (h : loader.insidePacket = true)
    (field : NumericField) (value : Str) :
    field.stored (loadLine loader (field.key ++ '=' :: value)).currentPacket =
      field.converted value := by
  have hkey : '=' ∉ field.key := by cases field <;> decide
  rw [loadLine_keyValue loader hkey, h]
  cases field <;> rfl

theorem printInt_natCast (n : Nat) : printInt n = decimal n := by
  rw [printInt, if_neg (by omega), Int.natAbs_natCast]

theorem stoullOrZero_printInt {n : Nat} (h : n < 2 ^ 64) :
    (stoullOrZero (printInt n)).toNat = n := by
  have hdecimal := stoullOrZero_decimal (UInt64.ofNat n)
  rw [UInt64.toNat_ofNat', Nat.mod_eq_of_lt h] at hdecimal
  rw [printInt_natCast, hdecimal, UInt64.toNat_ofNat', Nat.mod_eq_of_lt h]

theorem converted_printInt {field : NumericField} {n : Int}
    (h : field.InRange n) : field.converted (printInt n) = n := by
  have hnarrow : ∀ bits ≤ 64, 0 ≤ n → n < 2 ^ bits →
      (((stoullOrZero (printInt n)).toNat % 2 ^ bits : Nat) : Int) = n := by
    intro bits hbits hlow hhigh
    obtain ⟨m, rfl⟩ := Int.eq_ofNat_of_zero_le hlow
    have hm : m < 2 ^ bits := by exact_mod_cast hhigh
    have hwide : m < 2 ^ 64 := hm.trans_le (Nat.pow_le_pow_right (by omega)
      hbits)
    rw [stoullOrZero_printInt hwide, Nat.mod_eq_of_lt hm]
  cases field with
  | id =>
      have hwhole := hnarrow 64 le_rfl h.1 h.2
      rwa [Nat.mod_eq_of_lt (UInt64.toNat_lt _)] at hwhole
  | sourcePort => exact hnarrow 16 (by omega) h.1 h.2
  | destinationPort => exact hnarrow 16 (by omega) h.1 h.2
  | ttl => exact hnarrow 8 (by omega) h.1 h.2
  | length =>
      have hstored := Int32.toInt_ofInt_of_le h.1 (by have := h.2; omega)
      rw [NumericField.converted, stoiOrZero, stoi_printInt h]
      exact hstored

theorem converted_eq_zero_iff (field : NumericField) (value : Str) :
    field.converted value = 0 ↔ field.LeavesZero value := by
  cases field with
  | id =>
      have hwhole := stoullOrZero_mod_eq_zero_iff (dvd_refl _) value
      rw [Nat.mod_eq_of_lt (UInt64.toNat_lt _)] at hwhole
      exact Int.natCast_eq_zero.trans hwhole
  | sourcePort =>
      exact Int.natCast_eq_zero.trans
        (stoullOrZero_mod_eq_zero_iff (by decide) value)
  | destinationPort =>
      exact Int.natCast_eq_zero.trans
        (stoullOrZero_mod_eq_zero_iff (by decide) value)
  | ttl =>
      exact Int.natCast_eq_zero.trans
        (stoullOrZero_mod_eq_zero_iff (by decide) value)
  | length => exact stoiOrZero_eq_zero_iff value

/-- A numeric line stores the number its text is the numeral of, and zero for
every other text, exactly when the text is such a numeral or nothing but zero
is left of what the conversion reads. -/
theorem storesExactly_iff (loader : Loader)
    (hinside : loader.insidePacket = true) (field : NumericField)
    (value : Str) :
    field.StoresExactly value (field.stored
        (loadLine loader (field.key ++ '=' :: value)).currentPacket) ↔
      (∃ n, field.InRange n ∧ value = printInt n) ∨
        field.LeavesZero value := by
  rw [stored_loadLine loader hinside, ← converted_eq_zero_iff]
  constructor
  · intro h
    by_cases hnumeral : ∃ n, field.InRange n ∧ value = printInt n
    · exact .inl hnumeral
    · exact .inr (h.other fun m hm hvalue => hnumeral ⟨m, hm, hvalue⟩)
  · rintro (⟨n, hn, rfl⟩ | hzero)
    · have hstored := converted_printInt hn
      refine ⟨fun m _ hprinted => ?_, fun h => absurd rfl (h n hn)⟩
      rw [hstored]
      exact printInt_injective hprinted
    · refine ⟨fun m hm hvalue => ?_, fun _ => hzero⟩
      rw [hvalue]
      exact converted_printInt hm

theorem storesExactly_ttl :
    NumericField.ttl.StoresExactly "64".toList (NumericField.ttl.stored
      (loadLine { insidePacket := true }
        (NumericField.ttl.key ++ '=' :: "64".toList)).currentPacket) :=
  (storesExactly_iff { insidePacket := true } rfl .ttl "64".toList).mpr
    (.inl ⟨64, ⟨by decide, by decide⟩, by decide⟩)

/-- A time to live of 300 is stored as 44. -/
theorem not_storesExactly_ttl :
    ¬ NumericField.ttl.StoresExactly "300".toList (NumericField.ttl.stored
      (loadLine { insidePacket := true }
        (NumericField.ttl.key ++ '=' :: "300".toList)).currentPacket) := by
  intro h
  have hzero := h.other fun m hm hvalue => by
    have hm' : printInt 300 = printInt m := Eq.trans (by decide) hvalue
    have hrange := hm.2
    rw [← printInt_injective hm'] at hrange
    omega
  exact absurd hzero (by decide)

end SlipNet.Capture
