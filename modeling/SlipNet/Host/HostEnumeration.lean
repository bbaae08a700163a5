import SlipNet.Host.HostDiscovery

/-!
# Host enumeration and the subnet calculator

The two components agree on every block except `/0`, where host discovery
shifts a 32-bit one by 32, and except for texts with a NUL, which end at the
NUL for the calculator only.
-/

namespace SlipNet.Discovery

open SlipNet.Foundation
open SlipNet.Standard
open SlipNet.Network

/-- The enumeration is defined and lists the addresses from the calculator's
first host to its last, in ascending order, each once. -/
def EnumeratesHosts (cidr : Str) (info : SubnetInfo) : Prop :=
  ∃ hosts first last, generateHosts cidr = some hosts ∧
    info.firstHost = inetNtop first ∧ info.lastHost = inetNtop last ∧
    first ≤ last ∧ hosts = quads first last ∧ hosts.Nodup ∧
    hosts.length = info.usableHosts.toNat

/-- A prefix length other than zero behind an address text without a NUL. -/
def HasPositivePrefix (cidr : Str) : Prop :=
  ∃ ip prefixText, cidr = ip ++ '/' :: prefixText ∧ '/' ∉ ip ∧
    '\x00' ∉ ip ∧ digitsValue prefixText ≠ 0

/-- A numeral for zero behind the text of an address. -/
def HasZeroPrefix (cidr : Str) : Prop :=
  ∃ ip prefixText address, cidr = ip ++ '/' :: prefixText ∧ '/' ∉ ip ∧
    parseIPv4 ip = some address ∧
    stoi prefixText = some (0, prefixText.length)

/-! ## The enumeration behind a split text -/

theorem generateHosts_split {ip prefixText : Str} (hip : '/' ∉ ip)
    (hne : prefixText ≠ []) (hdigit : ∀ c ∈ prefixText, c.isDigit = true)
    (hle : digitsValue prefixText ≤ 32) :
    generateHosts (ip ++ '/' :: prefixText) =
      match parseIPv4 ip with
      | none => some []
      | some address => do
          let mask ← netmaskOf (digitsValue prefixText)
          let (firstHost, lastHost) ←
            hostRange (address &&& mask) (digitsValue prefixText)
          return quads firstHost lastHost := by
  have hstoi := stoi_digits hne hdigit (by omega)
  have hdrop : (ip ++ '/' :: prefixText).drop (ip.length + 1) = prefixText := by
    simp
  have htake : (ip ++ '/' :: prefixText).take ip.length = ip := by simp
  rw [generateHosts, findChar_append hip]
  dsimp only
  rw [hdrop, htake]
  cases parseIPv4 ip with
  | none => rfl
  | some address =>
      rw [hstoi]
      dsimp only
      rw [if_neg (not_not.mpr rfl), if_neg (by omega), prefixToMask_eq hle]
      simp only [hostLoop_eq, List.nil_append]

/-! ## First and last host -/

variable {prefixLength : Nat} {network broadcast : UInt32}

/-- Below `/31` the two ends are computed from the size of the block, modulo
`2 ^ 32`. -/
theorem hostRange_block (hpos : prefixLength ≠ 0) (hle : prefixLength ≤ 32)
    (hbroadcast : broadcast.toNat =
      network.toNat + (2 ^ (32 - prefixLength) - 1)) :
    ∃ first last, hostRange network prefixLength = some (first, last) ∧
      first.toNat = network.toNat + (if prefixLength ≤ 30 then 1 else 0) ∧
      last.toNat = broadcast.toNat - (if prefixLength ≤ 30 then 1 else 0) := by
  have hlt := broadcast.toNat_lt
  rcases Nat.lt_or_ge 30 prefixLength with hlarge | hsmall
  · obtain rfl | rfl : prefixLength = 31 ∨ prefixLength = 32 := by omega
    · refine ⟨network, network + 1, rfl, rfl, ?_⟩
      simp only [Nat.reduceSub, Nat.reducePow] at hbroadcast
      rw [UInt32.toNat_add, UInt32.toNat_one, if_neg (by omega)]
      omega
    · refine ⟨network, network, rfl, rfl, ?_⟩
      simp only [Nat.reduceSub, Nat.reducePow] at hbroadcast
      rw [if_neg (by omega)]
      omega
  · have hsize : 4 ≤ 2 ^ (32 - prefixLength) :=
      Nat.pow_le_pow_right (show 0 < 2 by omega)
        (show 2 ≤ 32 - prefixLength by omega)
    have hbound : 2 ^ (32 - prefixLength) < 2 ^ 32 :=
      Nat.pow_lt_pow_right (by omega) (by omega)
    obtain ⟨hostCount, hshift, hvalue⟩ :=
      shiftLeft32_of_lt 1 (show 32 - prefixLength < 32 by omega)
    have hcount : (32 : Int) - prefixLength = (32 - prefixLength : Nat) := by
      omega
    have hhostCount : hostCount.toNat = 2 ^ (32 - prefixLength) := by
      rw [hvalue, UInt32.toNat_one, Nat.shiftLeft_eq, one_mul]
      exact Nat.mod_eq_of_lt hbound
    refine ⟨network + 1, network + hostCount - 2, ?_, ?_, ?_⟩
    · rw [hostRange, if_pos (by omega), hcount, hshift]
      rfl
    · rw [UInt32.toNat_add, UInt32.toNat_one, if_pos hsmall]
      omega
    · -- the sum wraps around at the top of the address space only
      rw [UInt32.toNat_sub, UInt32.toNat_add, hhostCount, if_pos hsmall,
        show (2 : UInt32).toNat = 2 from rfl]
      omega

theorem hostRange_zero (network : UInt32) : hostRange network 0 = none := rfl

theorem hostRange_eq_none_iff (hle : prefixLength ≤ 32) :
    hostRange network prefixLength = none ↔ prefixLength = 0 := by
  constructor
  · intro hnone
    by_contra hzero
    obtain ⟨hostCount, hshift, -⟩ :=
      shiftLeft32_of_lt 1 (show 32 - prefixLength < 32 by omega)
    have hcount : (32 : Int) - prefixLength = (32 - prefixLength : Nat) := by
      omega
    rw [hostRange, hcount, hshift] at hnone
    split_ifs at hnone
    cases hnone
  · rintro rfl
    exact hostRange_zero network

/-! ## Where the enumeration is undefined -/

theorem generateHosts_eq_none_iff {cidr : Str} :
    generateHosts cidr = none ↔ HasZeroPrefix cidr := by
  constructor
  · intro hnone
    rw [generateHosts] at hnone
    cases hslash : findChar '/' cidr with
    | none => rw [hslash] at hnone; cases hnone
    | some slash =>
        obtain ⟨ip, prefixText, rfl, hip, rfl⟩ :=
          exists_split_of_findChar hslash
        rw [hslash] at hnone
        dsimp only at hnone
        rw [List.take_left, ← List.singleton_append, ← List.append_assoc,
          List.drop_left' (by simp)] at hnone
        cases hread : parseIPv4 ip with
        | none => rw [hread] at hnone; cases hnone
        | some address =>
            rw [hread] at hnone
            dsimp only at hnone
            cases hstoi : stoi prefixText with
            | none => rw [hstoi] at hnone; cases hnone
            | some read =>
                obtain ⟨value, position⟩ := read
                rw [hstoi] at hnone
                dsimp only at hnone
                split_ifs at hnone with hposition hrange
                rw [not_not] at hposition
                obtain ⟨prefixLength, rfl⟩ :=
                  Int.eq_ofNat_of_zero_le (show 0 ≤ value by omega)
                have hle : prefixLength ≤ 32 := by omega
                obtain ⟨mask, hmask, -⟩ := exists_netmaskOf hle
                rw [prefixToMask_eq hle, hmask] at hnone
                have hzero : prefixLength = 0 := by
                  by_contra hne
                  have hdefined : hostRange (address &&& mask) prefixLength ≠
                      none := mt (hostRange_eq_none_iff hle).mp hne
                  obtain ⟨range, hsome⟩ :=
                    Option.ne_none_iff_exists'.mp hdefined
                  simp only [Option.bind_eq_bind, Option.bind_some, hsome]
                    at hnone
                  cases hnone
                subst hzero
                exact ⟨ip, prefixText, address, rfl, hip, hread,
                  hposition ▸ hstoi⟩
  · rintro ⟨ip, prefixText, address, rfl, hip, hread, hstoi⟩
    rw [generateHosts, findChar_append hip]
    dsimp only
    rw [List.take_left, ← List.singleton_append, ← List.append_assoc,
      List.drop_left' (by simp), hread, hstoi]
    dsimp only
    rw [if_neg (not_not.mpr rfl), if_neg (by omega)]
    rfl

/-- The calculator's first host does not lie behind its last one, and
`usableHosts` counts from the one to the other. -/
theorem hosts_between (hbroadcast : broadcast.toNat =
      network.toNat + (2 ^ (32 - prefixLength) - 1))
    {first last : Nat}
    (hfirst : first = network.toNat + if prefixLength ≤ 30 then 1 else 0)
    (hlast : last = broadcast.toNat - if prefixLength ≤ 30 then 1 else 0) :
    first ≤ last ∧ last + 1 - first =
      2 ^ (32 - prefixLength) - if prefixLength ≤ 30 then 2 else 0 := by
  subst hfirst hlast
  have hpos := Nat.two_pow_pos (32 - prefixLength)
  split_ifs with hsmall
  · have hsize : 4 ≤ 2 ^ (32 - prefixLength) :=
      Nat.pow_le_pow_right (show 0 < 2 by omega)
        (show 2 ≤ 32 - prefixLength by omega)
    omega
  · omega

theorem quads_ne_nil {first last : UInt32} (h : first ≤ last) :
    quads first last ≠ [] := by
  rw [UInt32.le_iff_toNat_le] at h
  rw [← List.length_pos_iff, length_quads]
  omega

/-! ## The agreement -/

section

variable {ip prefixText : Str} {address mask : UInt32} {info : SubnetInfo}
  (hip : '/' ∉ ip) (hne : prefixText ≠ [])
  (hdigit : ∀ c ∈ prefixText, c.isDigit = true)
  (hle : digitsValue prefixText ≤ 32)
  (hmask : IsMask 32 (32 - digitsValue prefixText) mask.toNat)

include hip hne hdigit hle

theorem enumeratesHosts_of_pos
    (hnetmask : netmaskOf (digitsValue prefixText) = some mask)
    (hread : parseIPv4 ip = some address)
    (hpos : digitsValue prefixText ≠ 0)
    (hdescribes : Describes info (blockOfMask address hmask)) :
    EnumeratesHosts (ip ++ '/' :: prefixText) info := by
  have hbroadcast := toNat_broadcast_eq hmask address
  obtain ⟨first, last, hrange, hfirst, hlast⟩ :=
    hostRange_block hpos hle hbroadcast
  obtain ⟨first', hfirstHost, hfirst'⟩ := hdescribes.firstHost_eq
  obtain ⟨last', hlastHost, hlast'⟩ := hdescribes.lastHost_eq
  obtain rfl : first' = first := UInt32.toNat_inj.mp (hfirst'.trans hfirst.symm)
  obtain rfl : last' = last := UInt32.toNat_inj.mp (hlast'.trans hlast.symm)
  obtain ⟨hordered, hcount⟩ := hosts_between hbroadcast hfirst hlast
  refine ⟨quads first' last', first', last', ?_, hfirstHost, hlastHost, ?_,
    rfl, nodup_quads _ _, ?_⟩
  · rw [generateHosts_split hip hne hdigit hle, hread]
    dsimp only
    rw [hnetmask]
    simp only [Option.bind_eq_bind, Option.bind_some, hrange]
    rfl
  · exact UInt32.le_iff_toNat_le.mpr hordered
  · rw [length_quads, hdescribes.usableHosts_eq, hcount]

end

/-- Host discovery agrees with the calculator on the blocks below `/0`, and on
no other. -/
theorem generateHosts_enumerates_iff {cidr : Str} {info : SubnetInfo}
    (hinfo : calculate cidr = some info) (hvalid : info.valid = true) :
    EnumeratesHosts cidr info ↔ HasPositivePrefix cidr := by
  obtain ⟨ip, prefixText, address, rfl, hip, hne, hdigit, hle, hread,
    hdescribe⟩ := of_calculate_valid hinfo hvalid
  obtain ⟨mask, hnetmask, hmask⟩ := exists_netmaskOf hle
  obtain ⟨info', hdescribe', _, _, hdescribes⟩ :=
    describe_describes hmask address (ip ++ '/' :: prefixText) hle hnetmask
  obtain rfl : info' = info :=
    Option.some.inj (hdescribe'.symm.trans hdescribe)
  have hgenerate := generateHosts_split hip hne hdigit hle
  constructor
  · rintro ⟨hosts, first, last, hhosts, _, _, hordered, rfl, _, _⟩
    refine ⟨ip, prefixText, rfl, hip, ?_, ?_⟩
    · intro hnul
      rw [hgenerate, parseIPv4_nul hnul] at hhosts
      exact quads_ne_nil hordered (Option.some.inj hhosts).symm
    · intro hzero
      rw [hgenerate, hzero] at hhosts
      cases hparsed : parseIPv4 ip with
      | none =>
          rw [hparsed] at hhosts
          exact quads_ne_nil hordered (Option.some.inj hhosts).symm
      | some parsed =>
          rw [hparsed] at hhosts
          simp [netmaskOf, hostRange_zero] at hhosts
  · rintro ⟨ip', prefixText', hsplit, hip', hnul, hpos⟩
    obtain ⟨rfl, rfl⟩ := append_cons_inj hip hip' hsplit
    rw [cStr_eq_self hnul, inetPton_eq_some_iff] at hread
    subst hread
    exact enumeratesHosts_of_pos hip hne hdigit hle hmask hnetmask
      (parseIPv4_inetNtop address) hpos hdescribes

theorem generateHosts_enumerates_slash30 :
    ∃ info, calculate "192.168.1.0/30".toList = some info ∧
      EnumeratesHosts "192.168.1.0/30".toList info := by
  have hcidr : IsCIDR "192.168.1.0/30".toList 0xC0A80100 30 :=
    ⟨"192.168.1.0".toList, "30".toList, rfl, by decide, by decide,
      inetPton_eq_some_iff.mpr (by decide), by decide,
      List.all_eq_true.mp (by decide), by decide, by decide⟩
  obtain ⟨info, hinfo, _, hvalid, _⟩ :=
    calculate_describes (show '\x00' ∉ "192.168.1.0/30".toList by decide) hcidr
  refine ⟨info, hinfo, (generateHosts_enumerates_iff hinfo hvalid).mpr ?_⟩
  exact ⟨"192.168.1.0".toList, "30".toList, rfl, by decide, by decide,
    by decide⟩

/-- The whole address space as a block: a shift by 32. -/
theorem not_generateHosts_enumerates_slash0 :
    ∃ info, calculate "10.0.0.0/0".toList = some info ∧ info.valid = true ∧
      generateHosts "10.0.0.0/0".toList = none ∧
      ¬ EnumeratesHosts "10.0.0.0/0".toList info := by
  have hcidr : IsCIDR "10.0.0.0/0".toList 0x0A000000 0 :=
    ⟨"10.0.0.0".toList, "0".toList, rfl, by decide, by decide,
      inetPton_eq_some_iff.mpr (by decide), by decide,
      List.all_eq_true.mp (by decide), by decide, by decide⟩
  obtain ⟨info, hinfo, _, hvalid, _⟩ :=
    calculate_describes (show '\x00' ∉ "10.0.0.0/0".toList by decide) hcidr
  have hnone : generateHosts "10.0.0.0/0".toList = none := by decide
  refine ⟨info, hinfo, hvalid, hnone, ?_⟩
  rintro ⟨hosts, _, _, hhosts, _⟩
  rw [hnone] at hhosts
  cases hhosts

end SlipNet.Discovery
