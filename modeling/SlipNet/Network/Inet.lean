import SlipNet.Foundation.Decimal
import SlipNet.Standard.Strings
import Mathlib.Tactic

/-!
# IPv4 addresses as text

`inet_ntop` prints an address as a dotted quad and `inet_pton` reads exactly
the texts it prints: four decimal numbers below 256 without leading zeros,
separated by dots.  Addresses are in host byte order.
-/

namespace SlipNet.Network

open SlipNet.Foundation
open SlipNet.Standard

def octets (address : UInt32) : List Nat :=
  [address.toNat / 16777216, address.toNat / 65536 % 256,
    address.toNat / 256 % 256, address.toNat % 256]

def ofOctets (a b c d : Nat) : UInt32 :=
  .ofNat (a * 16777216 + b * 65536 + c * 256 + d)

def inetNtop (address : UInt32) : Str :=
  ['.'].intercalate ((octets address).map decimal)

def readOctet (piece : Str) : Option Nat :=
  if piece = decimal (digitsValue piece) ∧ digitsValue piece ≤ 255 then
    some (digitsValue piece)
  else none

/-- `inet_pton(AF_INET, ...)`; `none` where it does not return 1. -/
def inetPton (text : Str) : Option UInt32 :=
  match (text.splitOn '.').mapM readOctet with
  | some [a, b, c, d] => some (ofOctets a b c d)
  | _ => none

theorem octets_lt (address : UInt32) : ∀ octet ∈ octets address, octet < 256 := by
  have hlt := address.toNat_lt
  simp only [octets, List.mem_cons, List.not_mem_nil, or_false]
  omega

theorem octets_ofOctets {a b c d : Nat} (ha : a < 256) (hb : b < 256)
    (hc : c < 256) (hd : d < 256) :
    octets (ofOctets a b c d) = [a, b, c, d] := by
  have hvalue : (ofOctets a b c d).toNat =
      a * 16777216 + b * 65536 + c * 256 + d := by
    rw [ofOctets, UInt32.toNat_ofNat']
    omega
  simp only [octets, hvalue, List.cons.injEq, and_true]
  omega

theorem ofOctets_octets (address : UInt32) :
    ofOctets (address.toNat / 16777216) (address.toNat / 65536 % 256)
      (address.toNat / 256 % 256) (address.toNat % 256) = address := by
  apply UInt32.toNat_inj.mp
  have hlt := address.toNat_lt
  rw [ofOctets, UInt32.toNat_ofNat']
  omega

theorem notMem_inetNtop {c : Char} (hdigit : c.isDigit = false)
    (hdot : c ≠ '.') (address : UInt32) : c ∉ inetNtop address := by
  simp [inetNtop, octets, List.intercalate, notMem_decimal hdigit, hdot]

theorem readOctet_decimal {n : Nat} (h : n < 256) :
    readOctet (decimal n) = some n := by
  rw [readOctet, digitsValue_decimal, if_pos ⟨rfl, by omega⟩]

theorem readOctet_eq_some {piece : Str} {n : Nat}
    (h : readOctet piece = some n) : piece = decimal n ∧ n < 256 := by
  rw [readOctet] at h
  split at h
  · next hpiece =>
      obtain rfl := Option.some.inj h
      exact ⟨hpiece.1, by omega⟩
  · cases h

theorem readOctet_isSome_iff {piece : Str} :
    (readOctet piece).isSome = true ↔
      piece ≠ [] ∧ (∀ c ∈ piece, c.isDigit = true) ∧
        (piece.length = 1 ∨ piece.head? ≠ some '0') ∧
        digitsValue piece ≤ 255 := by
  rw [readOctet, Option.isSome_ite, eq_comm, decimal_digitsValue_iff, and_assoc,
    and_assoc]

theorem splitOn_inetNtop (address : UInt32) :
    (inetNtop address).splitOn '.' = (octets address).map decimal := by
  apply List.splitOn_intercalate
  · intro piece hpiece
    obtain ⟨octet, _, rfl⟩ := List.mem_map.mp hpiece
    exact notMem_decimal (by decide)
  · simp [octets]

theorem mapM_readOctet_decimal {numbers : List Nat}
    (h : ∀ n ∈ numbers, n < 256) :
    (numbers.map decimal).mapM readOctet = some numbers := by
  induction numbers with
  | nil => rfl
  | cons n numbers ih =>
      rw [List.forall_mem_cons] at h
      simp [List.mapM_cons, readOctet_decimal h.1, ih h.2]

theorem of_mapM_readOctet {pieces : List Str} {numbers : List Nat}
    (h : pieces.mapM readOctet = some numbers) :
    pieces = numbers.map decimal ∧ ∀ n ∈ numbers, n < 256 := by
  induction pieces generalizing numbers with
  | nil =>
      obtain rfl : [] = numbers := by simpa using h
      simp
  | cons piece pieces ih =>
      rw [List.mapM_cons] at h
      obtain ⟨n, hn, h⟩ := Option.bind_eq_some_iff.mp h
      obtain ⟨rest, hrest, h⟩ := Option.bind_eq_some_iff.mp h
      obtain rfl := Option.some.inj h
      obtain ⟨rfl, hlt⟩ := readOctet_eq_some hn
      obtain ⟨rfl, hall⟩ := ih hrest
      exact ⟨rfl, List.forall_mem_cons.mpr ⟨hlt, hall⟩⟩

theorem inetPton_inetNtop (address : UInt32) :
    inetPton (inetNtop address) = some address := by
  rw [inetPton, splitOn_inetNtop,
    mapM_readOctet_decimal (octets_lt address)]
  exact congrArg some (ofOctets_octets address)

/-- `inet_pton` accepts the texts `inet_ntop` prints, and no others. -/
theorem inetPton_eq_some_iff {text : Str} {address : UInt32} :
    inetPton text = some address ↔ text = inetNtop address := by
  constructor
  · intro h
    rw [inetPton] at h
    split at h
    · next a b c d hread =>
        obtain rfl := Option.some.inj h
        obtain ⟨hpieces, hlt⟩ := of_mapM_readOctet hread
        rw [inetNtop, octets_ofOctets (hlt a (by simp)) (hlt b (by simp))
          (hlt c (by simp)) (hlt d (by simp)), ← hpieces,
          List.intercalate_splitOn]
    · cases h
  · rintro rfl
    exact inetPton_inetNtop address

theorem inetNtop_injective : Function.Injective inetNtop := by
  intro a b h
  have hread := inetPton_inetNtop a
  rw [h, inetPton_inetNtop] at hread
  exact (Option.some.inj hread).symm

example : inetNtop 0xc0a80101 = "192.168.1.1".toList := by decide

end SlipNet.Network
