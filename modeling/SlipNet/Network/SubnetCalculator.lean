import SlipNet.Foundation.AddressBlock
import SlipNet.Network.Inet
import SlipNet.Standard.Integers

/-!
# The subnet calculator

`SubnetCalculator::calculate` reads an address and a prefix length and
describes the block of addresses they stand for.  The result is `none` only if
a shift is undefined, which never happens.
-/

namespace SlipNet.Network

open SlipNet.Foundation
open SlipNet.Standard

structure SubnetInfo where
  valid : Bool := false
  input : Str := []
  network : Str := []
  broadcast : Str := []
  firstHost : Str := []
  lastHost : Str := []
  netmask : Str := []
  wildcard : Str := []
  addressType : Str := []
  prefixLength : Int := 0
  totalAddresses : UInt64 := 0
  usableHosts : UInt64 := 0
  deriving DecidableEq, Repr

/-! ## Parsing -/

def parsePrefix (value : Str) : Option Int :=
  if value = [] then none
  else do
    let parsed ← stoul value
    if parsed > 32 then none else some parsed.toNat

def parseCIDR (cidr : Str) : Option (Str × Int) :=
  match findChar '/' cidr with
  | none => none
  | some slash =>
      if slash = 0 ∨ slash = cidr.length - 1 then none
      else if (findChar '/' (cidr.drop (slash + 1))).isSome then none
      else
        let ip := cidr.take slash
        let prefixText := cidr.drop (slash + 1)
        if prefixText.all isdigit then
          (parsePrefix prefixText).map fun prefixLength => (ip, prefixLength)
        else none

/-- `0` stands for failure. -/
def parseIPv4 (ip : Str) : UInt32 := (inetPton (cStr ip)).getD 0

def formatIPv4 (value : UInt32) : Str := inetNtop value

/-- Network, mask and name of a special range, in the order of the tests. -/
def addressRanges : List (UInt32 × UInt32 × Str) :=
  [(0x00000000, 0xFF000000, "Unspecified / Special".toList),
    (0x0A000000, 0xFF000000, "Private".toList),
    (0xAC100000, 0xFFF00000, "Private".toList),
    (0xC0A80000, 0xFFFF0000, "Private".toList),
    (0x7F000000, 0xFF000000, "Loopback".toList),
    (0xA9FE0000, 0xFFFF0000, "Link-local".toList),
    (0xE0000000, 0xF0000000, "Multicast".toList),
    (0xF0000000, 0xF0000000, "Reserved".toList)]

def classifyAddress (address : UInt32) : Str :=
  match addressRanges.find? fun (network, mask, _) =>
      address &&& mask = network with
  | some (_, _, name) => name
  | none => "Public / Global".toList

/-! ## The calculation -/

def hostFields (prefixLength : Int) (network broadcast : UInt32)
    (total : UInt64) : Str × Str × UInt64 :=
  if prefixLength ≤ 30 then
    (formatIPv4 (network + 1), formatIPv4 (broadcast - 1),
      if total ≥ 2 then total - 2 else 0)
  else if prefixLength = 31 then
    (formatIPv4 network, formatIPv4 broadcast, 2)
  else (formatIPv4 network, formatIPv4 network, 1)

def netmaskOf (prefixLength : Int) : Option UInt32 :=
  if prefixLength = 0 then some 0
  else shiftLeft32 0xFFFFFFFF (32 - prefixLength)

def describe (cidr : Str) (address : UInt32) (prefixLength : Int) :
    Option SubnetInfo := do
  let mask ← netmaskOf prefixLength
  let network := address &&& mask
  let broadcast := network ||| ~~~mask
  let total := broadcast.toUInt64 - network.toUInt64 + 1
  let (firstHost, lastHost, usableHosts) :=
    hostFields prefixLength network broadcast total
  return {
    valid := true
    input := cidr
    prefixLength := prefixLength
    network := formatIPv4 network
    broadcast := formatIPv4 broadcast
    netmask := formatIPv4 mask
    wildcard := formatIPv4 (~~~mask)
    totalAddresses := total
    firstHost := firstHost
    lastHost := lastHost
    usableHosts := usableHosts
    addressType := classifyAddress address }

def calculate (cidr : Str) : Option SubnetInfo :=
  let result : SubnetInfo := { input := cidr }
  match parseCIDR cidr with
  | none => result
  | some (ip, prefixLength) =>
      let address := parseIPv4 ip
      if address = 0 ∧ ip ≠ "0.0.0.0".toList then result
      else describe cidr address prefixLength

/-! ## What is accepted -/

/-- An address `inet_pton` accepts and a decimal prefix length of at most 32,
separated by the only slash. -/
def IsCIDR (cidr : Str) (address : UInt32) (prefixLength : Nat) : Prop :=
  ∃ ip prefixText, cidr = ip ++ '/' :: prefixText ∧ '/' ∉ ip ∧
    '/' ∉ prefixText ∧ inetPton ip = some address ∧ prefixText ≠ [] ∧
    (∀ c ∈ prefixText, c.isDigit = true) ∧
    digitsValue prefixText = prefixLength ∧ prefixLength ≤ 32

theorem parsePrefix_digits {digits : Str} (hne : digits ≠ [])
    (hdigit : ∀ c ∈ digits, c.isDigit = true) :
    parsePrefix digits =
      if digitsValue digits ≤ 32 then some (digitsValue digits : Int)
      else none := by
  rw [parsePrefix, if_neg hne, stoul, stoull_digits hne hdigit]
  by_cases hbig : digitsValue digits < 2 ^ 64
  · have hvalue : (UInt64.ofNat (digitsValue digits)).toNat =
        digitsValue digits := UInt64.toNat_ofNat_of_lt' hbig
    have hgt : UInt64.ofNat (digitsValue digits) > 32 ↔
        ¬ digitsValue digits ≤ 32 := by
      rw [gt_iff_lt, UInt64.lt_iff_toNat_lt, hvalue, not_le]
      rfl
    rw [if_pos hbig]
    simp only [Option.bind_eq_bind, Option.bind_some, hgt, hvalue, ite_not]
  · rw [if_neg hbig, if_neg (by omega)]
    rfl

theorem parseCIDR_split {ip : Str} (hip : '/' ∉ ip) (prefixText : Str) :
    parseCIDR (ip ++ '/' :: prefixText) =
      if ip ≠ [] ∧ prefixText ≠ [] ∧ prefixText.all Char.isDigit = true ∧
          digitsValue prefixText ≤ 32 then
        some (ip, (digitsValue prefixText : Int))
      else none := by
  have hslash := findChar_append hip prefixText
  have htake : (ip ++ '/' :: prefixText).take ip.length = ip := by simp
  have hdrop : (ip ++ '/' :: prefixText).drop (ip.length + 1) = prefixText := by
    simp
  have hends : ip.length = 0 ∨
      ip.length = (ip ++ '/' :: prefixText).length - 1 ↔
        ip = [] ∨ prefixText = [] := by
    simp only [List.length_append, List.length_cons,
      ← List.length_eq_zero_iff]
    omega
  simp only [parseCIDR, hslash, hdrop, htake, hends]
  by_cases hempty : ip = [] ∨ prefixText = []
  · rw [if_pos hempty, if_neg fun h => hempty.elim h.1 h.2.1]
  rw [not_or] at hempty
  rw [if_neg (not_or.mpr hempty)]
  cases hall : prefixText.all Char.isDigit with
  | true =>
      have hdigit := List.all_eq_true.mp hall
      have hnone : findChar '/' prefixText = none :=
        findChar_eq_none_iff.mpr fun hmem => absurd (hdigit _ hmem) (by decide)
      have hisdigit : prefixText.all isdigit = true := hall
      rw [hnone, parsePrefix_digits hempty.2 hdigit]
      simp [hisdigit, hempty]
  | false =>
      have hisdigit : prefixText.all isdigit = false := hall
      simp [hisdigit]

theorem parseIPv4_eq {ip : Str} (hnul : '\x00' ∉ ip) :
    parseIPv4 ip = (inetPton ip).getD 0 := by
  rw [parseIPv4, cStr_eq_self hnul]

theorem inetNtop_zero : inetNtop 0 = "0.0.0.0".toList := by decide

theorem parseIPv4_failed_iff {ip : Str} (hnul : '\x00' ∉ ip) :
    parseIPv4 ip = 0 ∧ ip ≠ "0.0.0.0".toList ↔ inetPton ip = none := by
  rw [parseIPv4_eq hnul]
  constructor
  · rintro ⟨hzero, hne⟩
    cases hread : inetPton ip with
    | none => rfl
    | some address =>
        rw [hread, Option.getD_some] at hzero
        subst hzero
        rw [← inetNtop_zero] at hne
        exact absurd (inetPton_eq_some_iff.mp hread) hne
  · intro hnone
    rw [hnone]
    refine ⟨rfl, ?_⟩
    rintro rfl
    rw [← inetNtop_zero, inetPton_inetNtop] at hnone
    cases hnone

theorem notMem_of_append {c : Char} {ip rest : Str}
    (h : c ∉ ip ++ '/' :: rest) : c ∉ ip :=
  fun hmem => h (List.mem_append_left _ hmem)

theorem calculate_of_isCIDR {cidr : Str} {address : UInt32}
    {prefixLength : Nat} (hnul : '\x00' ∉ cidr)
    (h : IsCIDR cidr address prefixLength) :
    calculate cidr = describe cidr address prefixLength := by
  obtain ⟨ip, prefixText, rfl, hip, _, hread, hne, hdigit, rfl, hle⟩ := h
  have hnulIp := notMem_of_append hnul
  have hipne : ip ≠ [] := by
    rintro rfl
    cases hread
  have haccepted : ¬ (parseIPv4 ip = 0 ∧ ip ≠ "0.0.0.0".toList) := by
    rw [parseIPv4_failed_iff hnulIp, hread]
    simp
  have hparsed : parseCIDR (ip ++ '/' :: prefixText) =
      some (ip, (digitsValue prefixText : Int)) := by
    rw [parseCIDR_split hip,
      if_pos ⟨hipne, hne, List.all_eq_true.mpr hdigit, hle⟩]
  rw [calculate, hparsed]
  dsimp only
  rw [if_neg haccepted, parseIPv4_eq hnulIp, hread, Option.getD_some]

theorem calculate_of_not_isCIDR {cidr : Str} (hnul : '\x00' ∉ cidr)
    (h : ∀ address prefixLength, ¬ IsCIDR cidr address prefixLength) :
    calculate cidr = some { input := cidr } := by
  rw [calculate]
  cases hslash : findChar '/' cidr with
  | none => simp [parseCIDR, hslash]
  | some slash =>
      obtain ⟨ip, prefixText, rfl, hip, _⟩ := exists_split_of_findChar hslash
      rw [parseCIDR_split hip]
      split
      · next heq =>
          rfl
      · next ip' prefixLength heq =>
          split at heq
          · next hgood =>
              obtain ⟨_, hne, hall, hle⟩ := hgood
              have hdigit := List.all_eq_true.mp hall
              obtain ⟨rfl, rfl⟩ := Prod.mk.inj (Option.some.inj heq)
              refine if_pos ((parseIPv4_failed_iff
                (notMem_of_append hnul)).mpr ?_)
              rw [Option.eq_none_iff_forall_ne_some]
              intro address hread
              exact h address _ ⟨ip, prefixText, rfl, hip,
                fun hmem => absurd (hdigit _ hmem) (by decide), hread, hne,
                hdigit, rfl, hle⟩
          · cases heq

/-- What a valid result was computed from.  `inet_pton` reads the text up to a
NUL only. -/
theorem of_calculate_valid {cidr : Str} {info : SubnetInfo}
    (h : calculate cidr = some info) (hvalid : info.valid = true) :
    ∃ ip prefixText address, cidr = ip ++ '/' :: prefixText ∧ '/' ∉ ip ∧
      prefixText ≠ [] ∧ (∀ c ∈ prefixText, c.isDigit = true) ∧
      digitsValue prefixText ≤ 32 ∧ inetPton (cStr ip) = some address ∧
      describe cidr address (digitsValue prefixText) = some info := by
  have hdefault : ∀ {input : Str},
      some { input := input } = some info → False := fun hinfo => by
    rw [← Option.some.inj hinfo] at hvalid
    cases hvalid
  rw [calculate] at h
  cases hslash : findChar '/' cidr with
  | none =>
      rw [parseCIDR, hslash] at h
      exact (hdefault h).elim
  | some slash =>
      obtain ⟨ip, prefixText, rfl, hip, _⟩ := exists_split_of_findChar hslash
      rw [parseCIDR_split hip] at h
      split_ifs at h with hgood
      · obtain ⟨_, hne, hall, hle⟩ := hgood
        have hdigit := List.all_eq_true.mp hall
        dsimp only at h
        split_ifs at h with hfailed
        · exact (hdefault h).elim
        · cases hread : inetPton (cStr ip) with
          | none =>
              refine absurd ⟨by rw [parseIPv4, hread]; rfl, ?_⟩ hfailed
              rintro rfl
              rw [show cStr "0.0.0.0".toList = inetNtop 0 by decide,
                inetPton_inetNtop] at hread
              cases hread
          | some address =>
              rw [parseIPv4, hread, Option.getD_some] at h
              exact ⟨ip, prefixText, address, rfl, hip, hne, hdigit, hle,
                hread, h⟩
      · exact (hdefault h).elim

end SlipNet.Network
