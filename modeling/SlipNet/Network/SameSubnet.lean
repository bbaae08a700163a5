import SlipNet.Network.SubnetBlock

/-!
# Reports on one subnet

Two addresses that share the top bits of the prefix have one masked network
value, and all that is reported is computed from it and the mask, except the
text that was given and the kind of the address: `classifyAddress` is asked
about the address itself, and its ranges can be finer than the prefix.
-/

namespace SlipNet.Network

open SlipNet.Foundation
open SlipNet.Standard

variable {a b mask : UInt32} {prefixLength : Nat}

theorem and_eq_of_sharesTopBits (h : b ∈ sharesTopBits prefixLength a)
    (hmask : IsMask 32 (32 - prefixLength) mask.toNat) :
    b &&& mask = a &&& mask := by
  rw [mem_sharesTopBits, agreeFrom_iff] at h
  apply UInt32.toNat_inj.mp
  rw [toNat_network hmask, toNat_network hmask, blockStart, blockStart, h]

theorem describe_of_and_eq (hnetmask : netmaskOf prefixLength = some mask)
    (h : b &&& mask = a &&& mask) (first second : Str) :
    describe second b prefixLength =
      (describe first a prefixLength).map fun info =>
        { info with input := second, addressType := classifyAddress b } := by
  rw [describe, describe, hnetmask]
  simp only [Option.bind_eq_bind, Option.bind_some, h]
  rfl

/-! ## The kind of an address -/

/-- No range is finer than 16 bits. -/
theorem addressRanges_mask : ∀ range ∈ addressRanges,
    0xFFFF0000 &&& range.2.1 = range.2.1 := by decide

theorem isMask_sixteen : IsMask 32 16 (0xFFFF0000 : UInt32).toNat :=
  isMask_shiftLeft 32 16

theorem classifyAddress_eq_of_and_eq
    (h : b &&& 0xFFFF0000 = a &&& 0xFFFF0000) :
    classifyAddress b = classifyAddress a := by
  have hrange : ∀ range ∈ addressRanges,
      b &&& range.2.1 = a &&& range.2.1 := by
    intro range hmem
    rw [← addressRanges_mask range hmem, ← UInt32.and_assoc, h,
      UInt32.and_assoc]
  rw [classifyAddress, classifyAddress]
  congr 1
  exact List.find?_congr fun range hmem => by simp [hrange range hmem]

theorem classifyAddress_eq (h : b ∈ sharesTopBits prefixLength a)
    (hle : 16 ≤ prefixLength) : classifyAddress b = classifyAddress a := by
  have hshare : b ∈ sharesTopBits 16 a := fun i hi hlt => h i (by omega) hlt
  exact classifyAddress_eq_of_and_eq
    (and_eq_of_sharesTopBits hshare isMask_sixteen)

/-! ## Two reports -/

theorem IsCIDR.nul_notMem {cidr : Str} {address : UInt32}
    (h : IsCIDR cidr address prefixLength) : '\x00' ∉ cidr := by
  obtain ⟨ip, prefixText, rfl, _, _, hread, _, hdigit, _⟩ := h
  rw [inetPton_eq_some_iff.mp hread, List.mem_append, List.mem_cons, not_or,
    not_or]
  refine ⟨notMem_inetNtop (by decide) (by decide) address, by decide, ?_⟩
  exact fun hmem => absurd (hdigit _ hmem) (by decide)

theorem isCIDR_text (address : UInt32) (hle : prefixLength ≤ 32) :
    IsCIDR (inetNtop address ++ '/' :: decimal prefixLength) address
      prefixLength :=
  ⟨inetNtop address, decimal prefixLength, rfl,
    notMem_inetNtop (by decide) (by decide) address,
    notMem_decimal (by decide), inetPton_inetNtop address,
    decimal_ne_nil prefixLength, fun _ hc => isDigit_of_mem_decimal hc,
    digitsValue_decimal prefixLength, hle⟩

theorem calculate_of_sharesTopBits {first second : Str}
    (hfirst : IsCIDR first a prefixLength)
    (hsecond : IsCIDR second b prefixLength)
    (h : b ∈ sharesTopBits prefixLength a) :
    calculate second = (calculate first).map fun info =>
      { info with input := second, addressType := classifyAddress b } := by
  obtain ⟨_, _, _, _, _, _, _, _, _, hle⟩ := id hfirst
  obtain ⟨mask, hnetmask, hmask⟩ := exists_netmaskOf hle
  rw [calculate_of_isCIDR hsecond.nul_notMem hsecond,
    calculate_of_isCIDR hfirst.nul_notMem hfirst]
  exact describe_of_and_eq hnetmask (and_eq_of_sharesTopBits h hmask)
    first second

theorem addressType_describe {cidr : Str} {info : SubnetInfo}
    (h : describe cidr a prefixLength = some info) :
    info.addressType = classifyAddress a := by
  rw [describe] at h
  obtain ⟨mask, _, hinfo⟩ := Option.bind_eq_some_iff.mp h
  rw [← Option.some.inj hinfo]

/-- Two addresses of one subnet have one report, apart from the text that was
given and the kind of the address.  The kinds can differ for prefixes shorter
than 16 bits only.  In particular the reported network gives the same report. -/
theorem calculate_sameSubnet {first second : Str}
    (hfirst : IsCIDR first a prefixLength)
    (hsecond : IsCIDR second b prefixLength)
    (h : b ∈ sharesTopBits prefixLength a) :
    ∃ info, calculate first = some info ∧ info.valid = true ∧
      info.addressType = classifyAddress a ∧
      calculate second = some
        { info with input := second, addressType := classifyAddress b } ∧
      (16 ≤ prefixLength → classifyAddress b = classifyAddress a) ∧
      ∃ network, info.network = inetNtop network ∧
        ∀ again, again = info.network ++ '/' :: decimal prefixLength →
          calculate again = some
            { info with
              input := again
              addressType := classifyAddress network } ∧
          (16 ≤ prefixLength →
            classifyAddress network = classifyAddress a) := by
  obtain ⟨_, _, _, _, _, _, _, _, _, hle⟩ := id hfirst
  obtain ⟨info, hinfo, _, hvalid, block, hblock⟩ :=
    calculate_describes hfirst.nul_notMem hfirst
  have htype : info.addressType = classifyAddress a := by
    rw [calculate_of_isCIDR hfirst.nul_notMem hfirst] at hinfo
    exact addressType_describe hinfo
  refine ⟨info, hinfo, hvalid, htype, ?_, classifyAddress_eq h,
    block.network, hblock.network_eq, ?_⟩
  · rw [calculate_of_sharesTopBits hfirst hsecond h, hinfo, Option.map_some]
  · rintro again rfl
    have hagain := isCIDR_text block.network hle
    rw [← hblock.network_eq] at hagain
    refine ⟨?_, classifyAddress_eq block.least.1⟩
    rw [calculate_of_sharesTopBits hfirst hagain block.least.1, hinfo,
      Option.map_some]

theorem sharesTopBits_twentyFour :
    0xC0A80105 ∈ sharesTopBits 24 0xC0A8014D := by
  intro i hi hlt
  interval_cases i <;> decide

theorem calculate_sameSubnet_twentyFour :
    ∃ info, calculate "192.168.1.77/24".toList = some info ∧
      calculate "192.168.1.5/24".toList = some
        { info with
          input := "192.168.1.5/24".toList
          addressType := classifyAddress 0xC0A80105 } := by
  have hfirst : IsCIDR "192.168.1.77/24".toList 0xC0A8014D 24 :=
    ⟨"192.168.1.77".toList, "24".toList, rfl, by decide, by decide,
      inetPton_eq_some_iff.mpr (by decide), by decide,
      List.all_eq_true.mp (by decide), by decide, by decide⟩
  have hsecond : IsCIDR "192.168.1.5/24".toList 0xC0A80105 24 :=
    ⟨"192.168.1.5".toList, "24".toList, rfl, by decide, by decide,
      inetPton_eq_some_iff.mpr (by decide), by decide,
      List.all_eq_true.mp (by decide), by decide, by decide⟩
  obtain ⟨info, hinfo, _, _, hagain, _⟩ :=
    calculate_sameSubnet hfirst hsecond sharesTopBits_twentyFour
  exact ⟨info, hinfo, hagain⟩

/-- `10.0.0.1/4` is reported with the network `0.0.0.0`, which is of another
kind than the address. -/
theorem calculate_not_sameType :
    ¬ ∀ (first second : Str) (a b : UInt32) (prefixLength : Nat),
      IsCIDR first a prefixLength → IsCIDR second b prefixLength →
      b ∈ sharesTopBits prefixLength a →
      (calculate second).map (·.addressType) =
        (calculate first).map (·.addressType) := by
  intro h
  have hfirst : IsCIDR "10.0.0.1/4".toList 0x0A000001 4 :=
    ⟨"10.0.0.1".toList, "4".toList, rfl, by decide, by decide,
      inetPton_eq_some_iff.mpr (by decide), by decide,
      List.all_eq_true.mp (by decide), by decide, by decide⟩
  have hsecond : IsCIDR "0.0.0.0/4".toList 0 4 :=
    ⟨"0.0.0.0".toList, "4".toList, rfl, by decide, by decide,
      inetPton_eq_some_iff.mpr (by decide), by decide,
      List.all_eq_true.mp (by decide), by decide, by decide⟩
  have hshared : 0 ∈ sharesTopBits 4 0x0A000001 := by
    intro i hi hlt
    interval_cases i <;> decide
  have hsame := h _ _ _ _ _ hfirst hsecond hshared
  rw [calculate_of_isCIDR (by decide) hfirst,
    calculate_of_isCIDR (by decide) hsecond] at hsame
  exact absurd hsame (by decide)

end SlipNet.Network
