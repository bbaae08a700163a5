import SlipNet.Network.SubnetBlock

/-!
# Host discovery

`HostDiscovery::generateHosts` lists the hosts of a block with address and mask
arithmetic of its own.  The result is `none` if a shift is undefined.
-/

namespace SlipNet.Discovery

open SlipNet.Foundation
open SlipNet.Standard
open SlipNet.Network

/-! ## Addresses -/

def prefixToMask (prefixLength : Int) : Option UInt32 :=
  if prefixLength ≤ 0 then some 0
  else if prefixLength ≥ 32 then some 0xFFFFFFFF
  else shiftLeft32 0xFFFFFFFF (32 - prefixLength)

def readPart (part : Str) : Option UInt32 :=
  if part = [] then none
  else
    match stoi part with
    | none => none
    | some (octet, position) =>
        if position ≠ part.length then none
        else if octet < 0 ∨ octet > 255 then none
        else some (UInt32.ofNat octet.toNat)

def readParts : List Str → UInt32 → Nat → Option (UInt32 × Nat)
  | [], result, count => some (result, count)
  | part :: parts, result, count => do
      let octet ← readPart part
      readParts parts (result <<< 8 ||| octet) (count + 1)

def parseIPv4 (ip : Str) : Option UInt32 := do
  let (result, count) ← readParts (getlines '.' ip) 0 0
  if count ≠ 4 then none else some result

def ipv4ToString (value : UInt32) : Str :=
  decimal ((value >>> 24) &&& 0xFF).toNat ++ '.' ::
    (decimal ((value >>> 16) &&& 0xFF).toNat ++ '.' ::
      (decimal ((value >>> 8) &&& 0xFF).toNat ++ '.' ::
        decimal (value &&& 0xFF).toNat))

/-! ## Enumeration -/

def hostRange (network : UInt32) (prefixLength : Int) :
    Option (UInt32 × UInt32) :=
  if prefixLength ≤ 30 then do
    let hostCount ← shiftLeft32 1 (32 - prefixLength)
    return (network + 1, network + hostCount - 2)
  else if prefixLength = 31 then some (network, network + 1)
  else some (network, network)

theorem succ_of_lt {current last : UInt32} (h : current < last) :
    (current + 1).toNat = current.toNat + 1 := by
  have hlt := UInt32.lt_iff_toNat_lt.mp h
  have hbound := last.toNat_lt
  rw [UInt32.toNat_add, UInt32.toNat_one]
  omega

/-- The loop that builds the list.  The counter moves only while it is below
`lastHost`, so it never wraps around. -/
def hostLoop (current lastHost : UInt32) (hosts : List Str) : List Str :=
  if current ≤ lastHost then
    if current = lastHost then hosts ++ [ipv4ToString current]
    else hostLoop (current + 1) lastHost (hosts ++ [ipv4ToString current])
  else hosts
termination_by lastHost.toNat - current.toNat
decreasing_by
  next hle hne =>
    have hlt := UInt32.lt_of_le_of_ne hle hne
    rw [succ_of_lt hlt]
    have := UInt32.lt_iff_toNat_lt.mp hlt
    omega

def generateHosts (cidr : Str) : Option (List Str) :=
  match findChar '/' cidr with
  | none => some []
  | some slash =>
      let ip := cidr.take slash
      let prefixText := cidr.drop (slash + 1)
      match parseIPv4 ip with
      | none => some []
      | some address =>
          match stoi prefixText with
          | none => some []
          | some (prefixLength, position) =>
              if position ≠ prefixText.length then some []
              else if prefixLength < 0 ∨ prefixLength > 32 then some []
              else do
                let mask ← prefixToMask prefixLength
                let (firstHost, lastHost) ←
                  hostRange (address &&& mask) prefixLength
                return hostLoop firstHost lastHost []

/-! ## Reading and printing addresses -/

theorem octet_shift (value : UInt32) (shift : Nat) (h : shift < 32) :
    ((value >>> UInt32.ofNat shift) &&& 0xFF).toNat =
      value.toNat / 2 ^ shift % 256 := by
  have hshift : (UInt32.ofNat shift).toNat % 32 = shift := by
    rw [UInt32.toNat_ofNat']
    omega
  rw [UInt32.toNat_and, UInt32.toNat_shiftRight, hshift,
    Nat.shiftRight_eq_div_pow]
  exact Nat.and_two_pow_sub_one_eq_mod _ 8

theorem ipv4ToString_eq (value : UInt32) :
    ipv4ToString value = inetNtop value := by
  have h24 : ((value >>> 24) &&& 0xFF).toNat = value.toNat / 16777216 := by
    have hlt := value.toNat_lt
    have hoctet : ((value >>> 24) &&& 0xFF).toNat =
        value.toNat / 2 ^ 24 % 256 := octet_shift value 24 (by omega)
    omega
  have h16 : ((value >>> 16) &&& 0xFF).toNat = value.toNat / 65536 % 256 :=
    octet_shift value 16 (by omega)
  have h8 : ((value >>> 8) &&& 0xFF).toNat = value.toNat / 256 % 256 :=
    octet_shift value 8 (by omega)
  have h0 : (value &&& 0xFF).toNat = value.toNat % 256 :=
    Nat.and_two_pow_sub_one_eq_mod _ 8
  rw [ipv4ToString, h24, h16, h8, h0]
  simp [inetNtop, octets, List.intercalate]

theorem readPart_decimal {n : Nat} (h : n < 256) :
    readPart (decimal n) = some (UInt32.ofNat n) := by
  have hstoi : stoi (decimal n) = some ((n : Int), (decimal n).length) := by
    have hread := stoi_digits (decimal_ne_nil n)
      (fun _ hc => isDigit_of_mem_decimal hc)
      (by rw [digitsValue_decimal]; omega)
    rwa [digitsValue_decimal] at hread
  rw [readPart, if_neg (decimal_ne_nil n), hstoi]
  dsimp only
  rw [if_neg (not_not.mpr rfl), if_neg (by omega)]
  rfl

theorem shift_or_octet {value n : Nat} (hvalue : value < 2 ^ 24)
    (hn : n < 256) :
    UInt32.ofNat value <<< 8 ||| UInt32.ofNat n =
      UInt32.ofNat (value * 256 + n) := by
  apply UInt32.toNat_inj.mp
  have hsum := Nat.two_pow_add_eq_or_of_lt (show n < 2 ^ 8 by omega) value
  have hn32 : (UInt32.ofNat n).toNat = n := by
    rw [UInt32.toNat_ofNat']
    omega
  have hshift : (UInt32.ofNat value <<< 8).toNat = 2 ^ 8 * value := by
    rw [UInt32.toNat_shiftLeft, Nat.shiftLeft_eq, UInt32.toNat_ofNat']
    change value % 2 ^ 32 * 2 ^ 8 % 2 ^ 32 = _
    omega
  rw [UInt32.toNat_or, hshift, hn32, ← hsum, UInt32.toNat_ofNat']
  omega

theorem getlines_inetNtop (address : UInt32) :
    getlines '.' (inetNtop address) = (octets address).map decimal := by
  have hdot : ∀ n, '.' ∉ decimal n := fun n => notMem_decimal (by decide)
  simp only [inetNtop, octets, List.map_cons, List.map_nil,
    List.intercalate, List.intersperse, List.flatten_cons, List.flatten_nil,
    List.append_nil, List.singleton_append]
  rw [getlines_append_cons (hdot _), getlines_append_cons (hdot _),
    getlines_append_cons (hdot _), getlines_of_notMem (hdot _)
      (decimal_ne_nil _)]

theorem parseIPv4_inetNtop (address : UInt32) :
    parseIPv4 (inetNtop address) = some address := by
  have hlt := octets_lt address
  have hword := address.toNat_lt
  simp only [octets, List.mem_cons, List.not_mem_nil, or_false, forall_eq_or_imp,
    forall_eq] at hlt
  obtain ⟨h0, h1, h2, h3⟩ := hlt
  rw [parseIPv4, getlines_inetNtop]
  simp only [octets, List.map_cons, List.map_nil, readParts,
    readPart_decimal h0, readPart_decimal h1, readPart_decimal h2,
    readPart_decimal h3, Option.bind_eq_bind, Option.bind_some]
  rw [if_neg (by omega), show (0 : UInt32) = UInt32.ofNat 0 from rfl,
    shift_or_octet (by omega) h0, shift_or_octet (by omega) h1,
    shift_or_octet (by omega) h2, shift_or_octet (by omega) h3]
  refine congrArg some (UInt32.toNat_inj.mp ?_)
  rw [UInt32.toNat_ofNat']
  omega

theorem of_readPart {part : Str} {octet : UInt32}
    (h : readPart part = some octet) :
    ∃ value, stoi part = some (value, part.length) ∧
      0 ≤ value ∧ value ≤ 255 := by
  rw [readPart] at h
  split at h
  · cases h
  · split at h
    · cases h
    · next value position hstoi =>
        split_ifs at h with hwhole hrange
        rw [not_not] at hwhole
        subst hwhole
        exact ⟨value, hstoi, by omega, by omega⟩

theorem notMem_of_readPart {part : Str} {octet : UInt32}
    (h : readPart part = some octet) : '\x00' ∉ part := by
  obtain ⟨value, hstoi, _⟩ := of_readPart h
  intro hnul
  rcases of_stoi_whole hstoi hnul with h | h | h | h <;>
    exact absurd h (by decide)

theorem notMem_of_readParts {parts : List Str} {result : UInt32} {count : Nat}
    {read : UInt32 × Nat} (h : readParts parts result count = some read) :
    ∀ part ∈ parts, '\x00' ∉ part := by
  induction parts generalizing result count with
  | nil => simp
  | cons part parts ih =>
      obtain ⟨octet, hoctet, hrest⟩ := Option.bind_eq_some_iff.mp h
      exact List.forall_mem_cons.mpr ⟨notMem_of_readPart hoctet, ih hrest⟩

/-- Text with a NUL is no address here, whatever C functions make of it. -/
theorem parseIPv4_nul {ip : Str} (hnul : '\x00' ∈ ip) :
    parseIPv4 ip = none := by
  cases hread : readParts (getlines '.' ip) 0 0 with
  | none => rw [parseIPv4, hread]; rfl
  | some read =>
      obtain ⟨piece, hpiece, hmem⟩ := mem_of_mem_getlines hnul
        (by decide : '\x00' ≠ '.')
      exact absurd hmem (notMem_of_readParts hread piece hpiece)

/-! ## The list of hosts -/

def quads (first last : UInt32) : List Str :=
  (List.range' first.toNat (last.toNat + 1 - first.toNat)).map fun n =>
    inetNtop (UInt32.ofNat n)

theorem nodup_quads (first last : UInt32) : (quads first last).Nodup := by
  have hbound := last.toNat_lt
  refine List.Nodup.map_on ?_ List.nodup_range'
  intro a ha b hb hab
  rw [List.mem_range'_1] at ha hb
  have heq := congrArg UInt32.toNat (inetNtop_injective hab)
  rw [UInt32.toNat_ofNat', UInt32.toNat_ofNat'] at heq
  omega

theorem length_quads (first last : UInt32) :
    (quads first last).length = last.toNat + 1 - first.toNat := by
  simp [quads]

theorem hostLoop_eq (current lastHost : UInt32) (hosts : List Str) :
    hostLoop current lastHost hosts = hosts ++ quads current lastHost := by
  fun_induction hostLoop current lastHost hosts with
  | case1 hosts hle =>
      simp [ipv4ToString_eq, quads]
  | case2 current hosts hle hne ih =>
      have hlt := UInt32.lt_of_le_of_ne hle hne
      have hnat := UInt32.lt_iff_toNat_lt.mp hlt
      have hlength : lastHost.toNat + 1 - current.toNat =
          lastHost.toNat + 1 - (current.toNat + 1) + 1 := by omega
      rw [ih, ipv4ToString_eq, quads, quads, hlength, List.range'_succ,
        succ_of_lt hlt]
      simp
  | case3 current hosts hgt =>
      rw [UInt32.le_iff_toNat_le, not_le] at hgt
      simp [quads, Nat.sub_eq_zero_of_le hgt]

theorem prefixToMask_eq {prefixLength : Nat} (h : prefixLength ≤ 32) :
    prefixToMask prefixLength = netmaskOf prefixLength := by
  unfold prefixToMask netmaskOf
  by_cases hzero : prefixLength = 0
  · subst hzero
    rfl
  · by_cases hfull : prefixLength = 32
    · subst hfull
      rfl
    · rw [if_neg (by omega), if_neg (by omega), if_neg (by omega)]

end SlipNet.Discovery
