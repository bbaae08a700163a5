import SlipNet.Host.HostDiscovery
import SlipNet.Network.NetworkDiscovery
import SlipNet.Standard.Numerals
import SlipNet.Standard.Words

/-!
# The readers and printers of IPv4 text

Three components read an address from text, with `std::stoi`, with stream
extraction and with `inet_pton`, and three print one.  The printed texts are
the same and every reader reads them back.  On other texts the readers differ:
the first two let white space, signs and leading zeros pass, and each one
something of its own at the end of the text.
-/

namespace SlipNet.Discovery

open SlipNet.Foundation
open SlipNet.Standard
open SlipNet.Network

/-! ## The texts -/

/-- Four minimal decimal numbers below 256, separated by dots. -/
def IsDottedQuad (text : Str) : Prop :=
  ∃ a b c d, a < 256 ∧ b < 256 ∧ c < 256 ∧ d < 256 ∧
    text = decimal a ++ '.' :: (decimal b ++ '.' :: (decimal c ++ '.' ::
      decimal d))

/-- White space, a sign and leading zeros may precede the value. -/
def IsLooseOctet (text : Str) : Prop :=
  ∃ negative magnitude, IsNumeral text negative magnitude ∧
    (negative = true → magnitude = 0) ∧ magnitude ≤ 255

/-- Four loose octets separated by dots, with or without a dot at the end. -/
def IsLooseQuad (text : Str) : Prop :=
  ∃ p₁ p₂ p₃ p₄ ending, text =
      p₁ ++ '.' :: (p₂ ++ '.' :: (p₃ ++ '.' :: (p₄ ++ ending))) ∧
    IsLooseOctet p₁ ∧ IsLooseOctet p₂ ∧ IsLooseOctet p₃ ∧ IsLooseOctet p₄ ∧
    (ending = [] ∨ ending = ['.'])

/-- The word a stream makes of a sign and a magnitude. -/
def streamWord (negative : Bool) (magnitude : Nat) : UInt32 :=
  if negative then 0 - UInt32.ofNat magnitude else UInt32.ofNat magnitude

def IsStreamNumber (text : Str) (value : UInt32) : Prop :=
  ∃ negative magnitude, IsNumeral text negative magnitude ∧
    magnitude < 2 ^ 32 ∧ value = streamWord negative magnitude

/-- A text that starts with four stream numbers, with dots and white space
between them. -/
def IsStreamQuad (text : Str) (a b c d : UInt32) : Prop :=
  ∃ t₁ s₁ t₂ s₂ t₃ s₃ t₄ rest, text =
      t₁ ++ (s₁ ++ '.' :: (t₂ ++ (s₂ ++ '.' :: (t₃ ++ (s₃ ++ '.' ::
        (t₄ ++ rest)))))) ∧
    IsStreamNumber t₁ a ∧ IsStreamNumber t₂ b ∧ IsStreamNumber t₃ c ∧
    IsStreamNumber t₄ d ∧ IsBlank s₁ ∧ IsBlank s₂ ∧ IsBlank s₃ ∧
    NoDigitAhead rest

/-- A stream quad of octets that are not all zero. -/
def IsStreamAddress (text : Str) : Prop :=
  ∃ a b c d, IsStreamQuad text a b c d ∧ a ≤ 255 ∧ b ≤ 255 ∧ c ≤ 255 ∧
    d ≤ 255 ∧ ¬ (a = 0 ∧ b = 0 ∧ c = 0 ∧ d = 0)

/-! ## Octets in a word -/

theorem toNat_shiftLeft_octet {octet : UInt32} (h : octet ≤ 255)
    {shift : Nat} (hshift : shift ≤ 24) :
    (octet <<< UInt32.ofNat shift).toNat = 2 ^ shift * octet.toNat := by
  rw [UInt32.le_iff_toNat_le] at h
  have hcount : (UInt32.ofNat shift).toNat % 32 = shift := by
    rw [UInt32.toNat_ofNat']
    omega
  have hpow : 2 ^ shift ≤ 2 ^ 24 := Nat.pow_le_pow_right (by omega) hshift
  have hbound : 2 ^ shift * octet.toNat ≤ 2 ^ 24 * 255 :=
    Nat.mul_le_mul hpow h
  rw [UInt32.toNat_shiftLeft, hcount, Nat.shiftLeft_eq, Nat.mul_comm]
  exact Nat.mod_eq_of_lt (by omega)

theorem toNat_word {a b c d : UInt32} (ha : a ≤ 255) (hb : b ≤ 255)
    (hc : c ≤ 255) (hd : d ≤ 255) :
    (a <<< 24 ||| b <<< 16 ||| c <<< 8 ||| d).toNat =
      a.toNat * 16777216 + b.toNat * 65536 + c.toNat * 256 + d.toNat := by
  have h24 : (a <<< 24).toNat = 2 ^ 24 * a.toNat :=
    toNat_shiftLeft_octet ha (show 24 ≤ 24 by omega)
  have h16 : (b <<< 16).toNat = 2 ^ 16 * b.toNat :=
    toNat_shiftLeft_octet hb (show 16 ≤ 24 by omega)
  have h8 : (c <<< 8).toNat = 2 ^ 8 * c.toNat :=
    toNat_shiftLeft_octet hc (show 8 ≤ 24 by omega)
  rw [UInt32.le_iff_toNat_le] at hb hc hd
  change b.toNat ≤ 255 at hb
  change c.toNat ≤ 255 at hc
  change d.toNat ≤ 255 at hd
  have hsum16 := Nat.two_pow_add_eq_or_of_lt
    (show 2 ^ 16 * b.toNat < 2 ^ 24 by omega) a.toNat
  have hsum8 := Nat.two_pow_add_eq_or_of_lt
    (show 2 ^ 8 * c.toNat < 2 ^ 16 by omega) (2 ^ 8 * a.toNat + b.toNat)
  have hsum0 := Nat.two_pow_add_eq_or_of_lt (show d.toNat < 2 ^ 8 by omega)
    (2 ^ 16 * a.toNat + 2 ^ 8 * b.toNat + c.toNat)
  rw [UInt32.toNat_or, UInt32.toNat_or, UInt32.toNat_or, h24, h16, h8,
    ← hsum16, show 2 ^ 24 * a.toNat + 2 ^ 16 * b.toNat =
      2 ^ 16 * (2 ^ 8 * a.toNat + b.toNat) by omega, ← hsum8,
    show 2 ^ 16 * (2 ^ 8 * a.toNat + b.toNat) + 2 ^ 8 * c.toNat =
      2 ^ 8 * (2 ^ 16 * a.toNat + 2 ^ 8 * b.toNat + c.toNat) by omega,
    ← hsum0]
  omega

/-! ## What `parseIPv4` of host discovery accepts -/

theorem readPart_isSome_iff {part : Str} :
    (readPart part).isSome = true ↔ IsLooseOctet part := by
  constructor
  · intro h
    obtain ⟨octet, hoctet⟩ := Option.isSome_iff_exists.mp h
    obtain ⟨value, hstoi, hnonneg, hle⟩ := of_readPart hoctet
    obtain ⟨negative, magnitude, hnumeral, rfl, _⟩ := stoi_whole_iff.mp hstoi
    refine ⟨negative, magnitude, hnumeral, ?_, ?_⟩
    · rintro rfl
      simp only [if_true] at hnonneg
      omega
    · cases negative <;> simp only [Bool.false_eq_true, if_true,
        if_false] at hnonneg hle <;> omega
  · rintro ⟨negative, magnitude, hnumeral, hminus, hle⟩
    have hvalue : (if negative = true then -(magnitude : Int)
        else magnitude) = magnitude := by
      split_ifs with h
      · rw [hminus h]
        rfl
      · rfl
    have hstoi : stoi part = some ((magnitude : Int), part.length) :=
      stoi_whole_iff.mpr ⟨negative, magnitude, hnumeral, hvalue.symm,
        by constructor <;> omega⟩
    rw [readPart, if_neg hnumeral.ne_nil, hstoi]
    dsimp only
    rw [if_neg (not_not.mpr rfl), if_neg (by omega)]
    rfl

theorem readParts_isSome_iff {parts : List Str} {result : UInt32}
    {count : Nat} :
    (readParts parts result count).isSome = true ↔
      ∀ part ∈ parts, IsLooseOctet part := by
  induction parts generalizing result count with
  | nil => simp [readParts]
  | cons part parts ih =>
      rw [List.forall_mem_cons, ← readPart_isSome_iff, readParts]
      cases readPart part with
      | none => simp
      | some octet => simpa using ih

theorem count_of_readParts {parts : List Str} {result result' : UInt32}
    {count count' : Nat}
    (h : readParts parts result count = some (result', count')) :
    count' = count + parts.length := by
  induction parts generalizing result count with
  | nil =>
      obtain ⟨_, rfl⟩ := Prod.mk.inj (Option.some.inj h)
      rfl
  | cons part parts ih =>
      obtain ⟨octet, _, hrest⟩ := Option.bind_eq_some_iff.mp h
      rw [ih hrest, List.length_cons]
      omega

theorem parseIPv4_isSome_iff_parts {ip : Str} :
    (parseIPv4 ip).isSome = true ↔ (getlines '.' ip).length = 4 ∧
      ∀ part ∈ getlines '.' ip, IsLooseOctet part := by
  rw [← @readParts_isSome_iff (getlines '.' ip) 0 0, parseIPv4]
  cases hread : readParts (getlines '.' ip) 0 0 with
  | none => simp
  | some read =>
      have hcount := count_of_readParts hread
      rw [Nat.zero_add] at hcount
      simp [hcount]

theorem IsLooseOctet.notMem_dot {part : Str} (h : IsLooseOctet part) :
    '.' ∉ part := by
  obtain ⟨_, _, hnumeral, _⟩ := h
  exact hnumeral.notMem (by decide) (by decide) (by decide) (by decide)

theorem IsLooseOctet.ne_nil {part : Str} (h : IsLooseOctet part) :
    part ≠ [] := by
  obtain ⟨_, _, hnumeral, _⟩ := h
  exact hnumeral.ne_nil

theorem parseIPv4_isSome_iff {ip : Str} :
    (parseIPv4 ip).isSome = true ↔ IsLooseQuad ip := by
  rw [parseIPv4_isSome_iff_parts]
  constructor
  · rintro ⟨hlength, hparts⟩
    obtain ⟨p₁, p₂, p₃, p₄, hlines⟩ := List.length_eq_four.mp hlength
    rw [hlines] at hparts
    simp only [List.forall_mem_cons] at hparts
    obtain ⟨h₁, h₂, h₃, h₄, _⟩ := hparts
    obtain ⟨_, ⟨_, habsurd⟩ | ⟨rest₁, rfl, hrest₁⟩⟩ := of_getlines_cons hlines
    · cases habsurd
    obtain ⟨_, ⟨_, habsurd⟩ | ⟨rest₂, rfl, hrest₂⟩⟩ := of_getlines_cons hrest₁
    · cases habsurd
    obtain ⟨_, ⟨_, habsurd⟩ | ⟨rest₃, rfl, hrest₃⟩⟩ := of_getlines_cons hrest₂
    · cases habsurd
    obtain ⟨_, ⟨rfl, _⟩ | ⟨rest₄, rfl, hrest₄⟩⟩ := of_getlines_cons hrest₃
    · exact ⟨p₁, p₂, p₃, _, [], by simp, h₁, h₂, h₃, h₄, .inl rfl⟩
    · rw [getlines_eq_nil.mp hrest₄]
      exact ⟨p₁, p₂, p₃, p₄, ['.'], rfl, h₁, h₂, h₃, h₄, .inr rfl⟩
  · rintro ⟨p₁, p₂, p₃, p₄, ending, rfl, h₁, h₂, h₃, h₄, hending⟩
    have hlast : getlines '.' (p₄ ++ ending) = [p₄] := by
      rcases hending with rfl | rfl
      · rw [List.append_nil, getlines_of_notMem h₄.notMem_dot h₄.ne_nil]
      · rw [getlines_append_cons h₄.notMem_dot]
        rfl
    rw [getlines_append_cons h₁.notMem_dot, getlines_append_cons h₂.notMem_dot,
      getlines_append_cons h₃.notMem_dot, hlast]
    simp [h₁, h₂, h₃, h₄]

/-! ## What `ipToInteger` makes of a text -/

theorem extractUInt32_eq_some_iff {stream rest : Str} {value : UInt32} :
    extractUInt32 stream = some (value, rest) ↔
      ∃ text, stream = text ++ rest ∧ IsStreamNumber text value ∧
        NoDigitAhead rest := by
  constructor
  · intro h
    obtain ⟨scanned, hscan, h⟩ := Option.bind_eq_some_iff.mp h
    split at h
    · next hsmall =>
        obtain ⟨rfl, rfl⟩ := Prod.mk.inj (Option.some.inj h)
        obtain ⟨text, rest, rfl, hnumeral, hconsumed, hahead⟩ :=
          exists_isNumeral_of_scanInteger hscan
        rw [hconsumed, List.drop_left]
        exact ⟨text, rfl, ⟨_, _, hnumeral, hsmall, rfl⟩, hahead⟩
    · cases h
  · rintro ⟨text, rfl, ⟨negative, magnitude, hnumeral, hsmall, rfl⟩, hahead⟩
    rw [extractUInt32, scanInteger_of_isNumeral hnumeral hahead]
    simp only [Option.bind_eq_bind, Option.bind_some, if_pos hsmall,
      List.drop_left]
    rfl

theorem extractChar_eq_some_iff {stream rest : Str} {c : Char} :
    extractChar stream = some (c, rest) ↔
      ∃ blanks, stream = blanks ++ c :: rest ∧ IsBlank blanks ∧
        isspace c = false := by
  constructor
  · intro h
    rw [extractChar] at h
    split at h
    · cases h
    · next d others hdrop =>
        obtain ⟨rfl, rfl⟩ := Prod.mk.inj (Option.some.inj h)
        have hstop := List.head?_dropWhile_not isspace stream
        rw [hdrop] at hstop
        refine ⟨stream.takeWhile isspace, ?_,
          fun _ => List.mem_takeWhile_imp, hstop⟩
        rw [← hdrop, List.takeWhile_append_dropWhile]
  · rintro ⟨blanks, rfl, hblanks, hc⟩
    have hdrop : (blanks ++ c :: rest).dropWhile isspace = c :: rest :=
      dropWhile_run hblanks (by simpa using hc)
    rw [extractChar, hdrop]

theorem noDigitAhead_dot {blanks : Str} (h : IsBlank blanks) (rest : Str) :
    NoDigitAhead (blanks ++ '.' :: rest) := by
  cases blanks with
  | nil => simp only [List.nil_append, noDigitAhead_cons]; decide
  | cons c blanks =>
      rw [List.cons_append, noDigitAhead_cons]
      by_contra hdigit
      have hspace := isspace_of_isDigit (Bool.not_eq_false _ ▸ hdigit)
      rw [h c (by simp)] at hspace
      cases hspace

/-- The seven extractions of `ipToInteger`. -/
theorem IsStreamQuad.ipToInteger {ip : Str} {a b c d : UInt32}
    (h : IsStreamQuad ip a b c d) (ha : a ≤ 255) (hb : b ≤ 255)
    (hc : c ≤ 255) (hd : d ≤ 255) :
    ipToInteger ip = a <<< 24 ||| b <<< 16 ||| c <<< 8 ||| d := by
  obtain ⟨t₁, s₁, t₂, s₂, t₃, s₃, t₄, rest, rfl, h₁, h₂, h₃, h₄, hs₁, hs₂,
    hs₃, hrest⟩ := h
  have hdot : isspace '.' = false := by decide
  simp only [Network.ipToInteger,
    extractUInt32_eq_some_iff.mpr ⟨t₁, rfl, h₁, noDigitAhead_dot hs₁ _⟩,
    extractChar_eq_some_iff.mpr ⟨s₁, rfl, hs₁, hdot⟩,
    extractUInt32_eq_some_iff.mpr ⟨t₂, rfl, h₂, noDigitAhead_dot hs₂ _⟩,
    extractChar_eq_some_iff.mpr ⟨s₂, rfl, hs₂, hdot⟩,
    extractUInt32_eq_some_iff.mpr ⟨t₃, rfl, h₃, noDigitAhead_dot hs₃ _⟩,
    extractChar_eq_some_iff.mpr ⟨s₃, rfl, hs₃, hdot⟩,
    extractUInt32_eq_some_iff.mpr ⟨t₄, rfl, h₄, hrest⟩,
    Option.bind_eq_bind, Option.bind_some, Option.pure_def]
  rw [if_neg (by simp), if_neg]
  simp [UInt32.not_lt.mpr ha, UInt32.not_lt.mpr hb, UInt32.not_lt.mpr hc,
    UInt32.not_lt.mpr hd]

theorem isStreamAddress_of_ipToInteger {ip : Str}
    (h : Network.ipToInteger ip ≠ 0) : IsStreamAddress ip := by
  rw [Network.ipToInteger] at h
  dsimp only at h
  split at h
  · exact absurd rfl h
  · next a b c d dot1 dot2 dot3 hfields =>
      split_ifs at h with hdots hlarge
      · exact absurd rfl h
      · exact absurd rfl h
      · simp only [not_or, not_not, gt_iff_lt, UInt32.not_lt]
          at hdots hlarge
        obtain ⟨rfl, rfl, rfl⟩ := hdots
        obtain ⟨ha, hb, hc, hd⟩ := hlarge
        simp only [Option.bind_eq_bind, Option.bind_eq_some_iff,
          Prod.exists, Option.pure_def, Option.some.injEq,
          Prod.mk.injEq] at hfields
        obtain ⟨_, r₁, h₁, _, r₂, h₂, _, r₃, h₃, _, r₄, h₄, _, r₅, h₅, _, r₆,
          h₆, _, r₇, h₇, rfl, rfl, rfl, rfl, rfl, rfl, rfl⟩ := hfields
        obtain ⟨t₁, rfl, ht₁, _⟩ := extractUInt32_eq_some_iff.mp h₁
        obtain ⟨s₁, rfl, hs₁, _⟩ := extractChar_eq_some_iff.mp h₂
        obtain ⟨t₂, rfl, ht₂, _⟩ := extractUInt32_eq_some_iff.mp h₃
        obtain ⟨s₂, rfl, hs₂, _⟩ := extractChar_eq_some_iff.mp h₄
        obtain ⟨t₃, rfl, ht₃, _⟩ := extractUInt32_eq_some_iff.mp h₅
        obtain ⟨s₃, rfl, hs₃, _⟩ := extractChar_eq_some_iff.mp h₆
        obtain ⟨t₄, rfl, ht₄, hahead⟩ := extractUInt32_eq_some_iff.mp h₇
        refine ⟨_, _, _, _, ⟨t₁, s₁, t₂, s₂, t₃, s₃, t₄, r₇, rfl, ht₁, ht₂,
          ht₃, ht₄, hs₁, hs₂, hs₃, hahead⟩, ha, hb, hc, hd, ?_⟩
        rintro ⟨rfl, rfl, rfl, rfl⟩
        exact h (by decide)

theorem ipToInteger_ne_zero_iff {ip : Str} :
    Network.ipToInteger ip ≠ 0 ↔ IsStreamAddress ip := by
  constructor
  · exact isStreamAddress_of_ipToInteger
  · rintro ⟨a, b, c, d, hquad, ha, hb, hc, hd, hne⟩ hzero
    rw [hquad.ipToInteger ha hb hc hd] at hzero
    have hsum := toNat_word ha hb hc hd
    rw [hzero, UInt32.toNat_zero] at hsum
    refine hne ⟨?_, ?_, ?_, ?_⟩ <;>
      exact UInt32.toNat_inj.mp (by rw [UInt32.toNat_zero]; omega)

/-! ## The printed texts -/

theorem isStreamNumber_decimal {n : Nat} (h : n < 256) :
    IsStreamNumber (decimal n) (UInt32.ofNat n) :=
  ⟨false, n, isNumeral_decimal n, by omega, rfl⟩

theorem isStreamQuad_inetNtop (address : UInt32) :
    IsStreamQuad (inetNtop address)
      (.ofNat (address.toNat / 16777216)) (.ofNat (address.toNat / 65536 % 256))
      (.ofNat (address.toNat / 256 % 256)) (.ofNat (address.toNat % 256)) := by
  have hlt := address.toNat_lt
  refine ⟨_, [], _, [], _, [], _, [], ?_,
    isStreamNumber_decimal (by omega), isStreamNumber_decimal (by omega),
    isStreamNumber_decimal (by omega), isStreamNumber_decimal (by omega),
    by simp [IsBlank], by simp [IsBlank], by simp [IsBlank], by simp⟩
  simp [inetNtop, octets, List.intercalate]

theorem ofNat_octet_le {n : Nat} (h : n < 256) : UInt32.ofNat n ≤ 255 := by
  rw [UInt32.le_iff_toNat_le, UInt32.toNat_ofNat']
  change n % 2 ^ 32 ≤ 255
  omega

theorem ipToInteger_inetNtop (address : UInt32) :
    Network.ipToInteger (inetNtop address) = address := by
  have hlt := address.toNat_lt
  have ha := ofNat_octet_le (show address.toNat / 16777216 < 256 by omega)
  have hb := ofNat_octet_le
    (show address.toNat / 65536 % 256 < 256 by omega)
  have hc := ofNat_octet_le (show address.toNat / 256 % 256 < 256 by omega)
  have hd := ofNat_octet_le (show address.toNat % 256 < 256 by omega)
  rw [(isStreamQuad_inetNtop address).ipToInteger ha hb hc hd]
  apply UInt32.toNat_inj.mp
  rw [toNat_word ha hb hc hd]
  simp only [UInt32.toNat_ofNat']
  omega

theorem integerToIP_eq (value : UInt32) :
    integerToIP value = inetNtop value := by
  rw [← ipv4ToString_eq]
  simp [integerToIP, ipv4ToString]

theorem notMem_nul_inetNtop (address : UInt32) :
    '\x00' ∉ inetNtop address :=
  notMem_inetNtop (by decide) (by decide) address

theorem isDottedQuad_iff {text : Str} :
    IsDottedQuad text ↔ ∃ address, text = inetNtop address := by
  constructor
  · rintro ⟨a, b, c, d, ha, hb, hc, hd, rfl⟩
    refine ⟨ofOctets a b c d, ?_⟩
    rw [inetNtop, octets_ofOctets ha hb hc hd]
    simp [List.intercalate]
  · rintro ⟨address, rfl⟩
    have hlt := address.toNat_lt
    refine ⟨address.toNat / 16777216, address.toNat / 65536 % 256,
      address.toNat / 256 % 256, address.toNat % 256, by omega, by omega,
      by omega, by omega, ?_⟩
    simp [inetNtop, octets, List.intercalate]

theorem inetPton_cStr_inetNtop (address : UInt32) :
    inetPton (cStr (inetNtop address)) = some address := by
  rw [cStr_eq_self (notMem_nul_inetNtop address), inetPton_inetNtop]

theorem subnetParseIPv4_inetNtop (address : UInt32) :
    Network.parseIPv4 (inetNtop address) = address := by
  rw [Network.parseIPv4, inetPton_cStr_inetNtop, Option.getD_some]

theorem inetPton_cStr_eq_none_iff {text : Str} (hnul : '\x00' ∉ text) :
    inetPton (cStr text) = none ↔ ∀ address, text ≠ inetNtop address := by
  rw [cStr_eq_self hnul, Option.eq_none_iff_forall_ne_some]
  exact forall_congr' fun address => not_congr inetPton_eq_some_iff

/-- The three printers print one text, and the three readers read the address
back from it. -/
theorem integerToIP_readBack (value : UInt32) :
    integerToIP value = ipv4ToString value ∧
    ipv4ToString value = formatIPv4 value ∧
    Network.ipToInteger (integerToIP value) = value ∧
    parseIPv4 (integerToIP value) = some value ∧
    inetPton (cStr (integerToIP value)) = some value ∧
    Network.parseIPv4 (integerToIP value) = value := by
  rw [integerToIP_eq, ipv4ToString_eq]
  exact ⟨rfl, rfl, ipToInteger_inetNtop value, parseIPv4_inetNtop value,
    inetPton_cStr_inetNtop value, subnetParseIPv4_inetNtop value⟩

/-! ## The languages of the readers -/

/-- Host discovery and the subnet calculator accept the text with the same
value, and network discovery returns that value, or zero where they reject. -/
structure ReadersAgree (text : Str) : Prop where
  accepted : ∀ value, parseIPv4 text = some value ↔
    inetPton (cStr text) = some value
  calculated : ∀ value, inetPton (cStr text) = some value →
    Network.parseIPv4 text = value
  discovered : Network.ipToInteger text = (inetPton (cStr text)).getD 0

theorem readersAgree_inetNtop (address : UInt32) :
    ReadersAgree (inetNtop address) := by
  constructor
  · intro value
    rw [parseIPv4_inetNtop, inetPton_cStr_inetNtop]
  · intro value hvalue
    rw [inetPton_cStr_inetNtop] at hvalue
    exact (subnetParseIPv4_inetNtop address).trans (Option.some.inj hvalue)
  · rw [inetPton_cStr_inetNtop, ipToInteger_inetNtop, Option.getD_some]

/-- The readers agree on the dotted quads, and on the texts that host discovery
rejects and network discovery reads as zero. -/
theorem readersAgree_iff {text : Str} (hnul : '\x00' ∉ text) :
    ReadersAgree text ↔
      IsDottedQuad text ∨ ¬ IsLooseQuad text ∧ ¬ IsStreamAddress text := by
  rw [isDottedQuad_iff]
  constructor
  · intro hagree
    by_cases hquad : ∃ address, text = inetNtop address
    · exact .inl hquad
    · have hrejected : inetPton (cStr text) = none :=
        (inetPton_cStr_eq_none_iff hnul).mpr (not_exists.mp hquad)
      refine .inr ⟨fun hloose => ?_, fun hstream => ?_⟩
      · obtain ⟨value, hvalue⟩ :=
          Option.isSome_iff_exists.mp (parseIPv4_isSome_iff.mpr hloose)
        have haccepted := (hagree.accepted value).mp hvalue
        rw [hrejected] at haccepted
        cases haccepted
      · apply ipToInteger_ne_zero_iff.mpr hstream
        rw [hagree.discovered, hrejected, Option.getD_none]
  · rintro (⟨address, rfl⟩ | ⟨hloose, hstream⟩)
    · exact readersAgree_inetNtop address
    · have hhost : parseIPv4 text = none := by
        rw [← Option.not_isSome_iff_eq_none]
        exact fun h => hloose (parseIPv4_isSome_iff.mp h)
      have hinteger : Network.ipToInteger text = 0 := by
        by_contra h
        exact hstream (ipToInteger_ne_zero_iff.mp h)
      have hpton : inetPton (cStr text) = none := by
        rw [inetPton_cStr_eq_none_iff hnul]
        rintro address rfl
        rw [parseIPv4_inetNtop] at hhost
        cases hhost
      constructor
      · intro value
        rw [hhost, hpton]
      · intro value hvalue
        rw [hpton] at hvalue
        cases hvalue
      · rw [hpton, hinteger, Option.getD_none]

theorem readersAgree_privateHost :
    '\x00' ∉ "192.168.1.10".toList ∧ ReadersAgree "192.168.1.10".toList :=
  ⟨by decide, (readersAgree_iff (by decide)).mpr
    (.inl ⟨192, 168, 1, 10, by decide⟩)⟩

/-- A leading zero is read over by two of the readers. -/
theorem not_readersAgree_leadingZero :
    parseIPv4 "192.168.1.010".toList = some 0xC0A8010A ∧
      Network.ipToInteger "192.168.1.010".toList = 0xC0A8010A ∧
      inetPton (cStr "192.168.1.010".toList) = none ∧
      ¬ ReadersAgree "192.168.1.010".toList := by
  have hhost : parseIPv4 "192.168.1.010".toList = some 0xC0A8010A := by decide
  have hpton : inetPton (cStr "192.168.1.010".toList) = none := by decide
  refine ⟨hhost, by decide, hpton, fun hagree => ?_⟩
  have haccepted := (hagree.accepted _).mp hhost
  rw [hpton] at haccepted
  cases haccepted

end SlipNet.Discovery
