import SlipNet.Network.SubnetCalculator

/-!
# What the subnet calculator describes

The addresses that share the top bits of an address form a block.  The
calculator accepts exactly the texts that denote one, and its fields are the
ends of the block, the masks, and the counts, all without wrapping around.
-/

namespace SlipNet.Network

open SlipNet.Foundation
open SlipNet.Standard

/-- The addresses that share the top `prefixLength` bits of `address`. -/
def sharesTopBits (prefixLength : Nat) (address : UInt32) : Set UInt32 :=
  { other | ∀ i, 32 - prefixLength ≤ i → i < 32 →
      other.toNat.testBit i = address.toNat.testBit i }

/-- The block of an address, with its ends and masks. -/
structure AddressBlock (address : UInt32) (prefixLength : Nat) where
  network : UInt32
  broadcast : UInt32
  netmask : UInt32
  wildcard : UInt32
  least : IsLeast (sharesTopBits prefixLength address) network
  greatest : IsGreatest (sharesTopBits prefixLength address) broadcast
  netmask_bits : ∀ i < 32,
    netmask.toNat.testBit i = decide (32 - prefixLength ≤ i)
  wildcard_bits : ∀ i < 32,
    wildcard.toNat.testBit i = !netmask.toNat.testBit i

/-- The fields of a valid result, the numbers taken without wrapping: up to
`/30` the ends of the block are not hosts. -/
structure Describes {address : UInt32} {prefixLength : Nat}
    (info : SubnetInfo) (block : AddressBlock address prefixLength) : Prop where
  prefixLength_eq : info.prefixLength = prefixLength
  network_eq : info.network = inetNtop block.network
  broadcast_eq : info.broadcast = inetNtop block.broadcast
  netmask_eq : info.netmask = inetNtop block.netmask
  wildcard_eq : info.wildcard = inetNtop block.wildcard
  totalAddresses_eq : info.totalAddresses.toNat = 2 ^ (32 - prefixLength)
  firstHost_eq : ∃ first, info.firstHost = inetNtop first ∧ first.toNat =
    block.network.toNat + if prefixLength ≤ 30 then 1 else 0
  lastHost_eq : ∃ last, info.lastHost = inetNtop last ∧ last.toNat =
    block.broadcast.toNat - if prefixLength ≤ 30 then 1 else 0
  usableHosts_eq : info.usableHosts.toNat =
    2 ^ (32 - prefixLength) - if prefixLength ≤ 30 then 2 else 0

/-! ## Blocks over machine words -/

variable {address network broadcast mask : UInt32} {prefixLength : Nat}

theorem mem_sharesTopBits {other : UInt32} :
    other ∈ sharesTopBits prefixLength address ↔
      AgreeFrom (32 - prefixLength) address.toNat other.toNat := by
  constructor
  · intro h i hi
    by_cases hwidth : i < 32
    · exact h i hi hwidth
    · have hpow : 2 ^ 32 ≤ 2 ^ i :=
        Nat.pow_le_pow_right (by omega) (not_lt.mp hwidth)
      rw [Nat.testBit_lt_two_pow (other.toNat_lt.trans_le hpow),
        Nat.testBit_lt_two_pow (address.toNat_lt.trans_le hpow)]
  · exact fun h i hi _ => h i hi

theorem isLeast_network
    (h : network.toNat = blockStart (32 - prefixLength) address.toNat) :
    IsLeast (sharesTopBits prefixLength address) network := by
  constructor
  · rw [mem_sharesTopBits, h]
    exact agreeFrom_blockStart _ _
  · intro other hother
    rw [mem_sharesTopBits, agreeFrom_iff_mem] at hother
    rw [UInt32.le_iff_toNat_le, h]
    exact hother.1

theorem isGreatest_broadcast
    (h : broadcast.toNat = blockEnd (32 - prefixLength) address.toNat) :
    IsGreatest (sharesTopBits prefixLength address) broadcast := by
  constructor
  · rw [mem_sharesTopBits, h]
    exact agreeFrom_blockEnd _ _
  · intro other hother
    rw [mem_sharesTopBits, agreeFrom_iff_mem] at hother
    rw [UInt32.le_iff_toNat_le, h]
    exact hother.2

theorem exists_netmaskOf (h : prefixLength ≤ 32) :
    ∃ mask, netmaskOf prefixLength = some mask ∧
      IsMask 32 (32 - prefixLength) mask.toNat := by
  by_cases hzero : prefixLength = 0
  · subst hzero
    exact ⟨0, rfl, isMask_zero 32⟩
  · obtain ⟨mask, hmask, hvalue⟩ :=
      shiftLeft32_of_lt 0xFFFFFFFF (show 32 - prefixLength < 32 by omega)
    have hcount : (32 : Int) - prefixLength = (32 - prefixLength : Nat) := by
      omega
    refine ⟨mask, ?_, ?_⟩
    · rw [netmaskOf, if_neg (by omega), hcount]
      exact hmask
    · rw [hvalue]
      exact isMask_shiftLeft 32 _

theorem toNat_network (hmask : IsMask 32 (32 - prefixLength) mask.toNat) :
    (address &&& mask).toNat =
      blockStart (32 - prefixLength) address.toNat := by
  rw [UInt32.toNat_and]
  exact and_mask hmask address.toNat_lt

theorem testBit_not (mask : UInt32) (i : Nat) :
    (~~~mask).toNat.testBit i = (decide (i < 32) && !mask.toNat.testBit i) := by
  rw [UInt32.toNat_not]
  exact testBit_complement mask.toNat_lt i

theorem toNat_broadcast (hmask : IsMask 32 (32 - prefixLength) mask.toNat) :
    (address &&& mask ||| ~~~mask).toNat =
      blockEnd (32 - prefixLength) address.toNat := by
  rw [UInt32.toNat_or, toNat_network hmask]
  exact or_not_mask (Nat.sub_le 32 prefixLength) hmask (testBit_not mask)

/-- The block the masked address and its complement span. -/
def blockOfMask (address : UInt32) {mask : UInt32}
    (hmask : IsMask 32 (32 - prefixLength) mask.toNat) :
    AddressBlock address prefixLength where
  network := address &&& mask
  broadcast := address &&& mask ||| ~~~mask
  netmask := mask
  wildcard := ~~~mask
  least := isLeast_network (toNat_network hmask)
  greatest := isGreatest_broadcast (toNat_broadcast hmask)
  netmask_bits := fun i hi => by simp [hmask i, hi]
  wildcard_bits := fun i hi => by
    rw [testBit_not]
    simp [hi]

/-! ## The fields -/

theorem hostFields_spec {total : UInt64} (hle : prefixLength ≤ 32)
    (hbroadcast : broadcast.toNat =
      network.toNat + (2 ^ (32 - prefixLength) - 1))
    (htotal : total.toNat = 2 ^ (32 - prefixLength)) :
    let fields := hostFields prefixLength network broadcast total
    (∃ first, fields.1 = inetNtop first ∧ first.toNat =
      network.toNat + if prefixLength ≤ 30 then 1 else 0) ∧
    (∃ last, fields.2.1 = inetNtop last ∧ last.toNat =
      broadcast.toNat - if prefixLength ≤ 30 then 1 else 0) ∧
    fields.2.2.toNat =
      2 ^ (32 - prefixLength) - if prefixLength ≤ 30 then 2 else 0 := by
  have hlt := broadcast.toNat_lt
  rcases Nat.lt_or_ge 30 prefixLength with hlarge | hsmall
  · obtain rfl | rfl : prefixLength = 31 ∨ prefixLength = 32 := by omega
    · exact ⟨⟨network, rfl, rfl⟩, ⟨broadcast, rfl, rfl⟩, rfl⟩
    · have hsame : broadcast = network :=
        UInt32.toNat_inj.mp (by simpa using hbroadcast)
      exact ⟨⟨network, rfl, rfl⟩, ⟨network, rfl, by simp [hsame]⟩, rfl⟩
  · -- two addresses at least lie between the ends
    have hsize : 4 ≤ 2 ^ (32 - prefixLength) :=
      Nat.pow_le_pow_right (show 0 < 2 by omega)
        (show 2 ≤ 32 - prefixLength by omega)
    have hfirst : (network + 1).toNat = network.toNat + 1 := by
      rw [UInt32.toNat_add, UInt32.toNat_one]
      omega
    have hlast : (broadcast - 1).toNat = broadcast.toNat - 1 := by
      refine UInt32.toNat_sub_of_le _ _ ?_
      rw [UInt32.le_iff_toNat_le, UInt32.toNat_one]
      omega
    have htwo : total ≥ 2 := by
      rw [ge_iff_le, UInt64.le_iff_toNat_le, htotal]
      exact (show 2 ≤ 4 by omega).trans hsize
    have husable : (total - 2).toNat = 2 ^ (32 - prefixLength) - 2 := by
      rw [UInt64.toNat_sub_of_le _ _ htwo, htotal]
      rfl
    rw [hostFields, if_pos (by omega), if_pos htwo]
    simp only [if_pos hsmall]
    exact ⟨⟨network + 1, rfl, hfirst⟩, ⟨broadcast - 1, rfl, hlast⟩, husable⟩

variable (hmask : IsMask 32 (32 - prefixLength) mask.toNat)

include hmask

theorem toNat_broadcast_eq (address : UInt32) :
    (address &&& mask ||| ~~~mask).toNat =
      (address &&& mask).toNat + (2 ^ (32 - prefixLength) - 1) := by
  rw [toNat_broadcast hmask, toNat_network hmask, blockEnd_eq]

theorem toNat_totalAddresses (address : UInt32) :
    ((address &&& mask ||| ~~~mask).toUInt64 - (address &&& mask).toUInt64 +
      1).toNat = 2 ^ (32 - prefixLength) := by
  have hbroadcast := toNat_broadcast_eq hmask address
  have hlt := (address &&& mask ||| ~~~mask).toNat_lt
  have hpos := Nat.two_pow_pos (32 - prefixLength)
  have hle : (address &&& mask).toUInt64 ≤
      (address &&& mask ||| ~~~mask).toUInt64 := by
    rw [UInt64.le_iff_toNat_le, UInt32.toNat_toUInt64, UInt32.toNat_toUInt64]
    omega
  have hsub : ((address &&& mask ||| ~~~mask).toUInt64 -
      (address &&& mask).toUInt64).toNat = 2 ^ (32 - prefixLength) - 1 := by
    rw [UInt64.toNat_sub_of_le _ _ hle, UInt32.toNat_toUInt64,
      UInt32.toNat_toUInt64]
    omega
  rw [UInt64.toNat_add, hsub, UInt64.toNat_one]
  omega

theorem describe_describes (address : UInt32) (cidr : Str)
    (hle : prefixLength ≤ 32)
    (hnetmask : netmaskOf prefixLength = some mask) :
    ∃ info, describe cidr address prefixLength = some info ∧
      info.input = cidr ∧ info.valid = true ∧
      Describes info (blockOfMask address hmask) := by
  obtain ⟨hfirst, hlast, husable⟩ := hostFields_spec hle
    (toNat_broadcast_eq hmask address) (toNat_totalAddresses hmask address)
  rw [describe, hnetmask]
  exact ⟨_, rfl, rfl, rfl, ⟨rfl, rfl, rfl, rfl, rfl,
    toNat_totalAddresses hmask address, hfirst, hlast, husable⟩⟩

omit hmask

/-! ## The calculator -/

theorem calculate_describes {cidr : Str} (hnul : '\x00' ∉ cidr)
    (hcidr : IsCIDR cidr address prefixLength) :
    ∃ info, calculate cidr = some info ∧ info.input = cidr ∧
      info.valid = true ∧
      ∃ block : AddressBlock address prefixLength, Describes info block := by
  obtain ⟨_, _, _, _, _, _, _, _, _, hle⟩ := id hcidr
  obtain ⟨mask, hnetmask, hmask⟩ := exists_netmaskOf hle
  obtain ⟨info, hdescribe, hinput, hvalid, hdescribes⟩ :=
    describe_describes hmask address cidr hle hnetmask
  exact ⟨info, (calculate_of_isCIDR hnul hcidr).trans hdescribe, hinput,
    hvalid, _, hdescribes⟩

/-- The calculator accepts the texts that denote a block, and describes the
block they denote; no step of it is undefined. -/
theorem calculate_spec {cidr : Str} (hnul : '\x00' ∉ cidr) :
    ∃ info, calculate cidr = some info ∧ info.input = cidr ∧
      (info.valid = true ↔
        ∃ address prefixLength, IsCIDR cidr address prefixLength) ∧
      (info.valid = false → info = { input := cidr }) ∧
      ∀ address prefixLength, IsCIDR cidr address prefixLength →
        ∃ block : AddressBlock address prefixLength, Describes info block := by
  by_cases haccepted : ∃ address prefixLength,
      IsCIDR cidr address prefixLength
  · obtain ⟨address, prefixLength, hcidr⟩ := id haccepted
    obtain ⟨info, hinfo, hinput, hvalid, _⟩ := calculate_describes hnul hcidr
    refine ⟨info, hinfo, hinput, ⟨fun _ => haccepted, fun _ => hvalid⟩, ?_, ?_⟩
    · exact fun h => absurd (hvalid.symm.trans h) (by simp)
    · intro address' prefixLength' hcidr'
      obtain ⟨info', hinfo', _, _, hdescribes⟩ :=
        calculate_describes hnul hcidr'
      rw [hinfo] at hinfo'
      exact Option.some.inj hinfo' ▸ hdescribes
  · refine ⟨{ input := cidr }, ?_, rfl, ?_, fun _ => rfl, ?_⟩
    · exact calculate_of_not_isCIDR hnul fun address prefixLength h =>
        haccepted ⟨address, prefixLength, h⟩
    · exact ⟨fun h => absurd h (by simp), fun h => absurd h haccepted⟩
    · exact fun address prefixLength h =>
        absurd ⟨address, prefixLength, h⟩ haccepted

theorem calculate_spec_topOfSpace :
    ∃ info, calculate "255.255.255.254/31".toList = some info ∧
      info.valid = true ∧ info.usableHosts.toNat = 2 := by
  have hcidr : IsCIDR "255.255.255.254/31".toList 0xFFFFFFFE 31 :=
    ⟨"255.255.255.254".toList, "31".toList, rfl, by decide, by decide,
      inetPton_eq_some_iff.mpr (by decide), by decide,
      List.all_eq_true.mp (by decide), by decide, by decide⟩
  obtain ⟨info, hinfo, _, hvalid, _, hdescribes⟩ :=
    calculate_spec (show '\x00' ∉ "255.255.255.254/31".toList by decide)
  obtain ⟨block, hblock⟩ := hdescribes _ _ hcidr
  exact ⟨info, hinfo, hvalid.mpr ⟨_, _, hcidr⟩, hblock.usableHosts_eq⟩

end SlipNet.Network
