import SlipNet.Network.SubnetBlock

/-!
# The subnet helpers

`Subnet::calculateNetwork` and `Subnet::calculatePrefix` work on a netmask
text: one masks an address with it, the other counts its leading ones.  On the
netmasks that the calculator reports they agree with the calculator.
-/

namespace SlipNet.Network

open SlipNet.Foundation
open SlipNet.Standard

namespace Subnet

/-- An error is the text of the exception. -/
def convertIP (address : Str) : Except Str UInt32 :=
  match inetPton (cStr address) with
  | some value => .ok value
  | none => .error "Invalid IPv4 address".toList

def convertBack (address : UInt32) : Str := inetNtop address

def calculateNetwork (ip netmask : Str) : Except Str Str := do
  let ipAddress ← convertIP ip
  let mask ← convertIP netmask
  return convertBack (ipAddress &&& mask)

def countOnes (mask : UInt32) (prefixLength : Int) : Nat → Int
  | 0 => prefixLength
  | i + 1 =>
      if (mask >>> UInt32.ofNat i) &&& 1 ≠ 0 then
        countOnes mask (prefixLength + 1) i
      else prefixLength

def calculatePrefix (netmask : Str) : Except Str Int := do
  let mask ← convertIP netmask
  return countOnes mask 0 32

/-! ## Counting the ones of a mask -/

theorem shiftRight_and_one (mask : UInt32) {i : Nat} (hi : i < 32) :
    (mask >>> UInt32.ofNat i) &&& 1 ≠ 0 ↔ mask.toNat.testBit i = true := by
  rw [ne_eq, ← UInt32.toNat_inj, UInt32.toNat_and, UInt32.toNat_shiftRight,
    UInt32.toNat_ofNat', Nat.mod_eq_of_lt (show i < 2 ^ 32 by omega),
    Nat.mod_eq_of_lt hi, Nat.testBit, Nat.and_comm]
  simp

/-- Of the bits below `n` a mask has those from `k` on set, so the loop counts
them and stops. -/
theorem countOnes_of_isMask {mask : UInt32} {k : Nat}
    (hmask : IsMask 32 k mask.toNat) (count : Int) {n : Nat} (hn : n ≤ 32) :
    countOnes mask count n = count + (n - k : Nat) := by
  induction n generalizing count with
  | zero => simp [countOnes]
  | succ n ih =>
      have hbit : (mask >>> UInt32.ofNat n) &&& 1 ≠ 0 ↔ k ≤ n := by
        rw [shiftRight_and_one mask (by omega), hmask]
        simp [show n < 32 by omega]
      rw [countOnes]
      by_cases hk : k ≤ n
      · rw [if_pos (hbit.mpr hk), ih (count + 1) (by omega)]
        omega
      · rw [if_neg (mt hbit.mp hk)]
        omega

/-! ## Agreement with the calculator -/

theorem convertIP_of_inetPton {text : Str} {address : UInt32}
    (h : inetPton (cStr text) = some address) :
    convertIP text = .ok address := by
  rw [convertIP, h]

theorem cStr_inetNtop (address : UInt32) :
    cStr (inetNtop address) = inetNtop address :=
  cStr_eq_self (notMem_inetNtop (by decide) (by decide) address)

theorem convertIP_inetNtop (address : UInt32) :
    convertIP (inetNtop address) = .ok address :=
  convertIP_of_inetPton (by rw [cStr_inetNtop, inetPton_inetNtop])

theorem fields_describe {cidr : Str} {address : UInt32} {prefixLength : Nat}
    {info : SubnetInfo} (hle : prefixLength ≤ 32)
    (h : describe cidr address prefixLength = some info) :
    ∃ mask, IsMask 32 (32 - prefixLength) mask.toNat ∧
      info.netmask = inetNtop mask ∧
      info.network = inetNtop (address &&& mask) ∧
      info.prefixLength = prefixLength := by
  obtain ⟨mask, hnetmask, hmask⟩ := exists_netmaskOf hle
  rw [describe, hnetmask] at h
  obtain rfl := Option.some.inj h
  exact ⟨mask, hmask, rfl, rfl, rfl⟩

/-- On an address that the calculator accepts and the netmask it reports, the
helpers give the prefix length and the network it reports. -/
theorem calculate_agrees {cidr ip : Str} {prefixLength : Int}
    {info : SubnetInfo} (hparse : parseCIDR cidr = some (ip, prefixLength))
    (hinfo : calculate cidr = some info) (hvalid : info.valid = true) :
    calculatePrefix info.netmask = .ok prefixLength ∧
      calculateNetwork ip info.netmask = .ok info.network := by
  obtain ⟨text, prefixText, address, rfl, hslash, hne, hdigit, hle, hread,
    hdescribe⟩ := of_calculate_valid hinfo hvalid
  have htext : text ≠ [] := by
    rintro rfl
    cases hread
  rw [parseCIDR_split hslash,
    if_pos ⟨htext, hne, List.all_eq_true.mpr hdigit, hle⟩] at hparse
  obtain ⟨rfl, rfl⟩ := Prod.mk.inj (Option.some.inj hparse)
  obtain ⟨mask, hmask, hnetmask, hnetwork, _⟩ := fields_describe hle hdescribe
  have hconvert : convertIP info.netmask = .ok mask := by
    rw [hnetmask, convertIP_inetNtop]
  constructor
  · have hcount : countOnes mask 0 32 = digitsValue prefixText := by
      rw [countOnes_of_isMask hmask 0 le_rfl]
      omega
    rw [calculatePrefix, hconvert, ← hcount]
    rfl
  · rw [calculateNetwork, convertIP_of_inetPton hread, hconvert, hnetwork]
    rfl

theorem calculate_agrees_eight :
    ∃ info, calculate "10.1.2.3/8".toList = some info ∧
      calculatePrefix info.netmask = .ok 8 ∧
      calculateNetwork "10.1.2.3".toList info.netmask = .ok info.network := by
  have hcidr : IsCIDR "10.1.2.3/8".toList 0x0A010203 8 :=
    ⟨"10.1.2.3".toList, "8".toList, rfl, by decide, by decide,
      inetPton_eq_some_iff.mpr (by decide), by decide,
      List.all_eq_true.mp (by decide), by decide, by decide⟩
  obtain ⟨info, hinfo, _, hvalid, _⟩ :=
    calculate_describes (by decide) hcidr
  exact ⟨info, hinfo, calculate_agrees (by decide) hinfo hvalid⟩

end Subnet

end SlipNet.Network
