import SlipNet.Platform.MacVendor

/-!
# The hardware address of a neighbour

`MacResolver::normalizeMac` keeps the hexadecimal digits of a text.  Twelve of
them are an address, which is written in one form whatever stood between them;
every other text is left as it is.
-/

namespace SlipNet.Network

open SlipNet.Standard
open SlipNet.Platform

def separated (formatted : Str) : Str :=
  if formatted = [] then [] else formatted ++ [':']

def formatPairs (formatted : Str) : Str → Str
  | [] => formatted
  | [digit] => separated formatted ++ [digit]
  | high :: low :: rest =>
      formatPairs (separated formatted ++ [high, low]) rest

def normalizeMac (mac : Str) : Str :=
  let hex := upper (mac.filter isxdigit)
  if hex.length ≠ 12 then mac else formatPairs [] hex

structure MacResolution where
  found : Bool := false
  ip : Str := []
  mac : Str := []
  vendor : Str := []
  interfaceName : Str := []
  deriving DecidableEq, Repr

theorem formatPairs_octets (octets : List Octet) (formatted : Str) :
    formatPairs formatted (octets.flatMap Octet.text) =
      octets.foldl (fun text octet => separated text ++ octet.text)
        formatted := by
  induction octets generalizing formatted with
  | nil => rfl
  | cons octet octets ih =>
      rw [List.flatMap_cons, Octet.text, List.cons_append, List.cons_append,
        List.nil_append, formatPairs, ih]
      rfl

theorem exists_octets {n : Nat} {hex : Str} (hlength : hex.length = 2 * n)
    (hhex : ∀ c ∈ hex, isxdigit c = true) :
    ∃ octets : List Octet,
      octets.length = n ∧ octets.flatMap Octet.text = hex := by
  induction n generalizing hex with
  | zero => exact ⟨[], rfl, (List.length_eq_zero_iff.mp hlength).symm⟩
  | succ n ih =>
      match hex with
      | [] => simp at hlength
      | [_] =>
          rw [List.length_singleton] at hlength
          omega
      | high :: low :: rest =>
          rw [List.forall_mem_cons, List.forall_mem_cons] at hhex
          rw [List.length_cons, List.length_cons] at hlength
          obtain ⟨octets, hcount, hrest⟩ := ih (by omega) hhex.2.2
          refine ⟨⟨high, low, hhex.1, hhex.2.1⟩ :: octets, by simp [hcount], ?_⟩
          rw [List.flatMap_cons, hrest]
          rfl

end SlipNet.Network

namespace SlipNet.Platform.MacAddress

open SlipNet.Standard

variable (mac : MacAddress)

def octets : List Octet :=
  [mac.first, mac.second, mac.third, mac.fourth, mac.fifth, mac.sixth]

def digits : Str := mac.octets.flatMap Octet.text

theorem length_text : mac.text.length = 17 := rfl

theorem filter_text : mac.text.filter isxdigit = mac.digits := by
  have hcolon : isxdigit ':' = false := by decide
  have hhigh (octet : Octet) := octet.isHex.1
  have hlow (octet : Octet) := octet.isHex.2
  simp [text, digits, octets, Octet.text, hcolon, hhigh, hlow]

theorem exists_of_digits {hex : Str} (hlength : hex.length = 12)
    (hhex : ∀ c ∈ hex, isxdigit c = true) :
    ∃ mac : MacAddress, mac.digits = hex := by
  obtain ⟨octets, hcount, hdigits⟩ :=
    Network.exists_octets (show hex.length = 2 * 6 from hlength) hhex
  match octets, hcount with
  | [first, second, third, fourth, fifth, sixth], _ =>
      exact ⟨⟨first, second, third, fourth, fifth, sixth⟩, hdigits⟩

end SlipNet.Platform.MacAddress

namespace SlipNet.Network

open SlipNet.Standard
open SlipNet.Platform

/-! ## The normal form -/

theorem upper_upper (value : Str) : upper (upper value) = upper value := by
  simp [upper]

theorem upper_eq_of_lower_eq {first second : Str}
    (h : lower first = lower second) : upper first = upper second := by
  have hupper : ∀ value, upper (lower value) = upper value := by
    simp [upper, lower]
  rw [← hupper first, h, hupper]

theorem isxdigit_of_mem_upper {value : Str} {c : Char}
    (h : c ∈ upper (value.filter isxdigit)) : isxdigit c = true := by
  obtain ⟨digit, hdigit, rfl⟩ := List.mem_map.mp h
  exact (toUpper_xdigits digit
    (mem_xdigits (List.mem_filter.mp hdigit).2)).1

variable {mac : MacAddress}

theorem normalizeMac_of_digits {value : Str}
    (h : upper (value.filter isxdigit) = mac.digits) :
    normalizeMac value = mac.text := by
  have hlength : mac.digits.length = 12 := rfl
  rw [normalizeMac, h, if_neg (not_not.mpr hlength), MacAddress.digits,
    formatPairs_octets]
  rfl

theorem normalizeMac_text (h : upper mac.digits = mac.digits) :
    normalizeMac mac.text = mac.text :=
  normalizeMac_of_digits (by rw [MacAddress.filter_text, h])

theorem normalizeMac_of_length {value : Str}
    (h : (value.filter isxdigit).length = 12) :
    ∃ mac : MacAddress, normalizeMac value = mac.text ∧
      mac.digits = upper (value.filter isxdigit) := by
  have hlength : (upper (value.filter isxdigit)).length = 12 := by
    rw [upper, List.length_map, h]
  obtain ⟨mac, hmac⟩ := MacAddress.exists_of_digits hlength
    fun _ => isxdigit_of_mem_upper
  exact ⟨mac, normalizeMac_of_digits hmac.symm, hmac⟩

theorem normalizeMac_of_length_ne {value : Str}
    (h : (value.filter isxdigit).length ≠ 12) : normalizeMac value = value := by
  rw [normalizeMac, upper, List.length_map, if_pos h]

theorem normalizeMac_idempotent (value : Str) :
    normalizeMac (normalizeMac value) = normalizeMac value := by
  by_cases h : (value.filter isxdigit).length = 12
  · obtain ⟨mac, hmac, hdigits⟩ := normalizeMac_of_length h
    rw [hmac]
    exact normalizeMac_text (by rw [hdigits, upper_upper])
  · rw [normalizeMac_of_length_ne h, normalizeMac_of_length_ne h]

/-- Twelve hexadecimal digits are written as six pairs in upper case, whatever
stands between them, and equal digits in one way; other texts are kept. -/
theorem normalizeMac_canonical :
    (∀ value, normalizeMac (normalizeMac value) = normalizeMac value) ∧
    (∀ value, (value.filter isxdigit).length = 12 →
      ∃ mac : MacAddress, normalizeMac value = mac.text ∧
        mac.text.length = 17 ∧ upper mac.digits = mac.digits ∧
        mac.digits = upper (value.filter isxdigit)) ∧
    (∀ first second, (first.filter isxdigit).length = 12 →
      lower (first.filter isxdigit) = lower (second.filter isxdigit) →
      normalizeMac first = normalizeMac second) ∧
    ∀ value, (value.filter isxdigit).length ≠ 12 →
      normalizeMac value = value := by
  refine ⟨normalizeMac_idempotent, ?_, ?_, fun _ => normalizeMac_of_length_ne⟩
  · intro value h
    obtain ⟨mac, hmac, hdigits⟩ := normalizeMac_of_length h
    exact ⟨mac, hmac, mac.length_text, by rw [hdigits, upper_upper], hdigits⟩
  · intro first second h hsame
    obtain ⟨mac, hmac, hdigits⟩ := normalizeMac_of_length h
    rw [hmac]
    refine (normalizeMac_of_digits ?_).symm
    rw [← upper_eq_of_lower_eq hsame, hdigits]

end SlipNet.Network
