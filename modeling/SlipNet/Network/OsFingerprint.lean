import SlipNet.Platform.Ping
import SlipNet.Standard.Searching

/-!
# os|:fingerprint

Both platforms search what `ping` prints for the TTL of the reply, and
`OSFingerprinter::fingerprint` takes it for the least initial TTL that is not
below it.  Every hop lowers the TTL by one, so the guess is right as long as
the path is too short to reach the next lower initial value; a TTL that is an
initial value counts as certain, though it may have come down to it.
-/

namespace SlipNet.Platform.Windows

open SlipNet.Standard
open SlipNet.Platform

/-! ## The Windows probe -/

/-- A match of `(?:TTL|ttl)\s*=\s*(\d+)` at the start of the text. -/
def matchTtl (text : Str) : Option Str :=
  if startsWith text "TTL".toList || startsWith text "ttl".toList then
    match (text.drop 3).dropWhile isspace with
    | '=' :: rest =>
        let digits := (rest.dropWhile isspace).takeWhile isdigit
        if digits = [] then none else some digits
    | _ => none
  else none

def searchTtl : Str → Option Str := firstMatch matchTtl

def fingerprintCommand (target : Str) : Str :=
  "ping -n 1 -w 1500 ".toList ++ target ++ " 2>nul".toList

def readTtl (output : Str) : OSFingerprintPlatformResult :=
  match searchTtl output with
  | none => {}
  | some text =>
      match stoi text with
      | none => {}
      | some (ttl, _) =>
          if ttl ≤ 0 ∨ ttl > 255 then {}
          else { reachable := true, ttl := ttl }

/-- `popen` gives what is read from the pipe of a command and the exit code
that `_pclose` returns; `none` is a null pointer. -/
def fingerprintHost (popen : Str → Option (Str × Int)) (target : Str) :
    OSFingerprintPlatformResult :=
  if target = [] then {}
  else
    match popen (cStr (fingerprintCommand target)) with
    | none => {}
    | some (output, exitCode) => if exitCode ≠ 0 then {} else readTtl output

end SlipNet.Platform.Windows

namespace SlipNet.Network

open SlipNet.Foundation
open SlipNet.Standard
open SlipNet.Platform

/-! ## The heuristic -/

structure OSFingerprint where
  detected : Bool := false
  target : Str := []
  operatingSystem : Str := []
  confidence : Str := []
  ttl : Int := 0
  deriving DecidableEq, Repr

/-- `probe` is what `fingerprintHost` returns for the target. -/
def OSFingerprinter.fingerprint (probe : OSFingerprintPlatformResult)
    (target : Str) : OSFingerprint :=
  let result : OSFingerprint := { target := target }
  if !probe.reachable then result
  else if probe.ttl ≤ 0 then result
  else
    let result := { result with ttl := probe.ttl, detected := true }
    if probe.ttl ≤ 64 then
      { result with
        operatingSystem := "Linux / Unix-like".toList
        confidence := (if probe.ttl = 64 then "HIGH" else "MEDIUM").toList }
    else if probe.ttl ≤ 128 then
      { result with
        operatingSystem := "Windows".toList
        confidence := (if probe.ttl = 128 then "HIGH" else "MEDIUM").toList }
    else if probe.ttl ≤ 255 then
      { result with
        operatingSystem := "Network appliance / embedded".toList
        confidence := (if probe.ttl = 255 then "HIGH" else "LOW").toList }
    else
      { result with
        operatingSystem := "Unknown".toList
        confidence := "LOW".toList }

/-! ## What is on the wire -/

inductive InitialTtl
  | unixLike
  | windows
  | appliance
  deriving DecidableEq, Repr

namespace InitialTtl

def value : InitialTtl → Nat
  | .unixLike => 64
  | .windows => 128
  | .appliance => 255

def below : InitialTtl → Nat
  | .unixLike => 0
  | .windows => 64
  | .appliance => 128

def operatingSystem : InitialTtl → Str
  | .unixLike => "Linux / Unix-like".toList
  | .windows => "Windows".toList
  | .appliance => "Network appliance / embedded".toList

end InitialTtl

/-- What `ping` prints when a reply came: before the field with its TTL there
is nothing that either search would take for one. -/
structure PingReply where
  before : Str
  label : Str
  ttl : Nat
  after : Str
  label_eq : label = "ttl".toList ∨ label = "TTL".toList
  first_linux : searchTtl before = none
  first_windows : Windows.searchTtl before = none
  ends : ∀ c ∈ after.head?, c.isDigit = false

def PingReply.field (reply : PingReply) : Str :=
  reply.label ++ '=' :: (decimal reply.ttl ++ reply.after)

def PingReply.text (reply : PingReply) : Str := reply.before ++ reply.field

/-- The answer for a host that started with an initial TTL, so many hops
away. -/
structure Classifies (fingerprint : OSFingerprint) (initial : InitialTtl)
    (hops : Nat) : Prop where
  detected : fingerprint.detected = true
  ttl : fingerprint.ttl + hops = initial.value
  right_iff : fingerprint.operatingSystem = initial.operatingSystem ↔
    hops < initial.value - initial.below
  high_iff : fingerprint.confidence = "HIGH".toList ↔
    ∃ other : InitialTtl, hops + other.value = initial.value

/-! ## Hops -/

namespace InitialTtl

variable {taken initial : InitialTtl} {ttl : Nat}

/-- Initial values are far enough apart for each TTL to belong to one. -/
theorem eq_iff_below_lt (hbelow : taken.below < ttl) (hle : ttl ≤ taken.value)
    (hinitial : ttl ≤ initial.value) :
    taken = initial ↔ initial.below < ttl := by
  constructor
  · rintro rfl
    exact hbelow
  · intro h
    cases taken <;> cases initial <;>
      simp only [below, value, reduceCtorEq] at * <;> omega

theorem exists_taken (hpos : 0 < ttl) (hinitial : ttl ≤ initial.value) :
    ∃ taken : InitialTtl, taken.below < ttl ∧ ttl ≤ taken.value := by
  have hle : ttl ≤ 255 := by
    cases initial <;> simp only [value] at hinitial <;> omega
  by_cases h64 : ttl ≤ 64
  · exact ⟨.unixLike, hpos, h64⟩
  by_cases h128 : ttl ≤ 128
  · exact ⟨.windows, Nat.lt_of_not_le h64, h128⟩
  · exact ⟨.appliance, Nat.lt_of_not_le h128, hle⟩

theorem operatingSystem_injective : Function.Injective operatingSystem := by
  intro taken initial h
  cases taken <;> cases initial <;> first | rfl | exact absurd h (by decide)

theorem eq_value_iff (hbelow : taken.below < ttl) (hle : ttl ≤ taken.value) :
    ttl = taken.value ↔ ∃ other : InitialTtl, ttl = other.value := by
  constructor
  · exact fun h => ⟨taken, h⟩
  · rintro ⟨other, rfl⟩
    have hother : taken = other := by
      refine (eq_iff_below_lt hbelow hle le_rfl).mpr ?_
      cases other <;> decide
    rw [hother]

end InitialTtl

theorem fingerprint_of_taken {taken : InitialTtl} {ttl : Nat}
    (hbelow : taken.below < ttl) (hle : ttl ≤ taken.value) (target : Str) :
    let result := OSFingerprinter.fingerprint
      { reachable := true, ttl := ttl } target
    result.detected = true ∧ result.ttl = ttl ∧
      result.operatingSystem = taken.operatingSystem ∧
      (result.confidence = "HIGH".toList ↔ ttl = taken.value) := by
  have hhigh : ∀ {value : Nat} {other : String}, other ≠ "HIGH" →
      ((if (ttl : Int) = value then "HIGH" else other).toList =
        "HIGH".toList ↔ ttl = value) := by
    intro value other hother
    rw [String.toList_inj]
    split_ifs with h
    · exact iff_of_true rfl (Int.ofNat_inj.mp h)
    · exact iff_of_false hother fun heq => h (congrArg _ heq)
  unfold OSFingerprinter.fingerprint
  dsimp only
  cases taken <;> simp only [InitialTtl.below, InitialTtl.value] at hbelow hle
  · rw [if_neg (by simp), if_neg (by omega), if_pos (by omega)]
    exact ⟨rfl, rfl, rfl, hhigh (by decide)⟩
  · rw [if_neg (by simp), if_neg (by omega), if_neg (by omega),
      if_pos (by omega)]
    exact ⟨rfl, rfl, rfl, hhigh (by decide)⟩
  · rw [if_neg (by simp), if_neg (by omega), if_neg (by omega),
      if_neg (by omega), if_pos (by omega)]
    exact ⟨rfl, rfl, rfl, hhigh (by decide)⟩

theorem classifies_fingerprint {initial : InitialTtl} {ttl hops : Nat}
    (hpos : 0 < ttl) (hhops : ttl + hops = initial.value) (target : Str) :
    Classifies (OSFingerprinter.fingerprint
      { reachable := true, ttl := ttl } target) initial hops := by
  have hinitial : ttl ≤ initial.value := Nat.le.intro hhops
  obtain ⟨taken, hbelow, hle⟩ := InitialTtl.exists_taken hpos hinitial
  obtain ⟨hdetected, httl, hsystem, hhigh⟩ :=
    fingerprint_of_taken hbelow hle target
  refine ⟨hdetected, by rw [httl]; exact_mod_cast hhops, ?_, ?_⟩
  · rw [hsystem, InitialTtl.operatingSystem_injective.eq_iff,
      InitialTtl.eq_iff_below_lt hbelow hle hinitial]
    omega
  · rw [hhigh, InitialTtl.eq_value_iff hbelow hle]
    exact exists_congr fun other => by omega

/-! ## Finding the TTL -/

theorem searchTtl_eq_firstMatch (text : Str) :
    searchTtl text = firstMatch matchTtl text := by
  induction text with
  | nil => rfl
  | cons c rest ih => rw [searchTtl, firstMatch, ih]

def StartsField (field : Str) : Prop :=
  ∃ label rest, (label = "ttl".toList ∨ label = "TTL".toList) ∧
    field = label ++ '=' :: rest

theorem head_field {field : Str} (h : StartsField field) :
    ∃ c rest, field = c :: rest ∧ isdigit c = false ∧
      isspace c = false ∧ c ≠ '=' ∧ c ∉ "=|:".toList := by
  obtain ⟨_, rest, rfl | rfl, rfl⟩ := h
  · exact ⟨'t', _, rfl, by decide⟩
  · exact ⟨'T', _, rfl, by decide⟩

theorem startsWith_append_field {keyword field : Str}
    (hkeyword : keyword = "ttl".toList ∨ keyword = "TTL".toList)
    (hfield : StartsField field) {text : Str} (hne : text ≠ []) :
    startsWith (text ++ field) keyword = startsWith text keyword := by
  obtain ⟨_, rest, hlabel, rfl⟩ := hfield
  rcases hkeyword with rfl | rfl <;> rcases hlabel with rfl | rfl <;>
    match text, hne with
    | [a], _ => simp [startsWith, List.isPrefixOf]
    | [a, b], _ => simp [startsWith, List.isPrefixOf]
    | a :: b :: c :: more, _ => simp [startsWith, List.isPrefixOf]

theorem drop_append_field {text : Str} (hlabel : (startsWith text
    "ttl".toList || startsWith text "TTL".toList) = true) (field : Str) :
    (text ++ field).drop 3 = text.drop 3 ++ field := by
  refine List.drop_append_of_le_length ?_
  simp only [Bool.or_eq_true, startsWith, List.isPrefixOf_iff_prefix] at hlabel
  rcases hlabel with hlabel | hlabel <;> exact hlabel.length_le

theorem matchTtl_append_field {field : Str} (hfield : StartsField field)
    {text : Str} (hne : text ≠ []) (h : matchTtl text = none) :
    matchTtl (text ++ field) = none := by
  obtain ⟨c, rest, hcons, hdigit, -, -, hseparator⟩ := head_field hfield
  unfold matchTtl at h ⊢
  rw [startsWith_append_field (.inl rfl) hfield hne,
    startsWith_append_field (.inr rfl) hfield hne]
  split_ifs at h ⊢ with hlabel
  · rw [drop_append_field hlabel, hcons]
    cases hbehind : text.drop 3 with
    | nil => exact if_pos hseparator
    | cons d more =>
        rw [hbehind] at h
        rw [List.cons_append]
        dsimp only at h ⊢
        by_cases hd : d ∉ "=|:".toList
        · exact if_pos hd
        · have hdigits : more.takeWhile isdigit = [] := by
            by_contra hdigits
            rw [if_neg hd, if_neg hdigits] at h
            cases h
          rw [if_neg hd, if_pos (takeWhile_append_eq_nil hdigit hdigits)]
  · rfl

theorem Windows.matchTtl_append_field {field : Str}
    (hfield : StartsField field) {text : Str} (hne : text ≠ [])
    (h : Windows.matchTtl text = none) :
    Windows.matchTtl (text ++ field) = none := by
  obtain ⟨c, rest, hcons, hdigit, hspace, hequals, -⟩ := head_field hfield
  unfold Windows.matchTtl at h ⊢
  rw [startsWith_append_field (.inl rfl) hfield hne,
    startsWith_append_field (.inr rfl) hfield hne]
  split_ifs at h ⊢ with hlabel
  · rw [drop_append_field (by rwa [Bool.or_comm]), hcons,
      dropWhile_append_of_head hspace]
    cases hbehind : (text.drop 3).dropWhile isspace with
    | nil =>
        rw [List.nil_append]
        split
        · next heq => exact absurd (List.cons.inj heq).1 hequals
        · rfl
    | cons d more =>
        rw [hbehind] at h
        rw [List.cons_append]
        by_cases hd : d = '='
        · subst hd
          have hdigits : (more.dropWhile isspace).takeWhile isdigit = [] := by
            by_contra hdigits
            change (if (more.dropWhile isspace).takeWhile isdigit = [] then
              none else _) = none at h
            rw [if_neg hdigits] at h
            cases h
          change (if ((more ++ c :: rest).dropWhile isspace).takeWhile
            isdigit = [] then none else _) = none
          rw [dropWhile_append_of_head hspace]
          exact if_pos (takeWhile_append_eq_nil hdigit hdigits)
        · split
          · next heq => exact absurd (List.cons.inj heq).1 hd
          · rfl
  · rfl

theorem takeWhile_numeral {n : Nat} {after : Str}
    (hends : ∀ c ∈ after.head?, c.isDigit = false) :
    (decimal n ++ after).takeWhile isdigit = decimal n := by
  have hdigit : ∀ c ∈ decimal n, isdigit c = true :=
    fun c hc => isDigit_of_mem_decimal hc
  rw [List.takeWhile_append_of_pos hdigit]
  cases after with
  | nil => exact List.append_nil _
  | cons c after =>
      have hc : isdigit c = false := hends c rfl
      rw [List.takeWhile_cons_of_neg (by simp [hc]), List.append_nil]

namespace PingReply

variable (reply : PingReply)

theorem startsField_field : StartsField reply.field :=
  ⟨reply.label, _, reply.label_eq, rfl⟩

theorem matchTtl_field : matchTtl reply.field = some (decimal reply.ttl) := by
  have hdigits : (decimal reply.ttl ++ reply.after).takeWhile isdigit =
    decimal reply.ttl := takeWhile_numeral reply.ends
  obtain hlabel | hlabel := reply.label_eq <;>
    simp [matchTtl, field, hlabel, startsWith, List.isPrefixOf, hdigits]

theorem windows_matchTtl_field :
    Windows.matchTtl reply.field = some (decimal reply.ttl) := by
  have hdigits : (decimal reply.ttl ++ reply.after).takeWhile isdigit =
    decimal reply.ttl := takeWhile_numeral reply.ends
  have hspace : (decimal reply.ttl ++ reply.after).dropWhile isspace =
      decimal reply.ttl ++ reply.after := by
    cases hnumeral : decimal reply.ttl with
    | nil => exact absurd hnumeral (decimal_ne_nil _)
    | cons c rest =>
        have hc : c.isDigit = true :=
          isDigit_of_mem_decimal (hnumeral ▸ List.mem_cons_self)
        exact List.dropWhile_cons_of_neg (by simp [isspace_of_isDigit hc])
  obtain hlabel | hlabel := reply.label_eq <;>
    simp [Windows.matchTtl, field, hlabel, startsWith, List.isPrefixOf,
      hdigits, hspace, isspace]

theorem readTtl_text (hsmall : reply.ttl ≤ 255) (hpos : 0 < reply.ttl) :
    readTtl reply.text = { reachable := true, ttl := reply.ttl } ∧
      Windows.readTtl reply.text = { reachable := true, ttl := reply.ttl } := by
  have hfield := reply.startsField_field
  obtain ⟨c, rest, hcons, -⟩ := head_field hfield
  have hstoi : stoi (decimal reply.ttl) =
      some ((reply.ttl : Int), (decimal reply.ttl).length) := by
    have hvalue : digitsValue (decimal reply.ttl) = reply.ttl :=
      digitsValue_decimal _
    rw [stoi_digits (decimal_ne_nil _) (fun _ hc => isDigit_of_mem_decimal hc)
      (by omega), hvalue]
  have hlinux : searchTtl reply.text = some (decimal reply.ttl) := by
    rw [searchTtl_eq_firstMatch, text, firstMatch_append
      (fun _ => matchTtl_append_field hfield)
      ((searchTtl_eq_firstMatch _).symm.trans reply.first_linux), hcons,
      firstMatch, ← hcons, reply.matchTtl_field, Option.some_or]
  have hwindows : Windows.searchTtl reply.text = some (decimal reply.ttl) := by
    rw [Windows.searchTtl, text, firstMatch_append
      (fun _ => Windows.matchTtl_append_field hfield) reply.first_windows,
      hcons, firstMatch, ← hcons, reply.windows_matchTtl_field,
      Option.some_or]
  constructor
  · rw [readTtl, hlinux]
    dsimp only
    rw [hstoi]
    exact if_neg (by omega)
  · rw [Windows.readTtl, hwindows]
    dsimp only
    rw [hstoi]
    exact if_neg (by omega)

end PingReply

/-! ## The answer -/

/-- On either platform the guess about a host is right as long as its replies
do not come down to the next lower initial TTL, and it counts as certain when
they came down to an initial TTL, its own or another. -/
theorem fingerprint_hops (reply : PingReply) {initial : InitialTtl}
    {hops : Nat} (hhops : hops < initial.value)
    (httl : reply.ttl + hops = initial.value) {target : Str}
    (htarget : target ≠ []) {machine : Machine}
    (hlinux : machine.popen (cStr (fingerprintCommand target)) =
      some reply.text)
    {popen : Str → Option (Str × Int)}
    (hwindows : popen (cStr (Windows.fingerprintCommand target)) =
      some (reply.text, 0)) :
    Classifies (OSFingerprinter.fingerprint
        (fingerprintHost machine target).1 target) initial hops ∧
      Classifies (OSFingerprinter.fingerprint
        (Windows.fingerprintHost popen target) target) initial hops := by
  have hpos : 0 < reply.ttl := by omega
  have hsmall : reply.ttl ≤ 255 := by
    cases initial <;> simp only [InitialTtl.value] at httl <;> omega
  obtain ⟨hread, hreadWindows⟩ := reply.readTtl_text hsmall hpos
  have hprobe : (fingerprintHost machine target).1 =
      { reachable := true, ttl := reply.ttl } := by
    unfold fingerprintHost
    dsimp only
    rw [hlinux]
    exact hread
  have hprobeWindows : Windows.fingerprintHost popen target =
      { reachable := true, ttl := reply.ttl } := by
    rw [Windows.fingerprintHost, if_neg htarget, hwindows]
    exact hreadWindows
  rw [hprobe, hprobeWindows]
  exact ⟨classifies_fingerprint hpos httl target,
    classifies_fingerprint hpos httl target⟩

/-- A Windows host behind 64 hops, certainly taken for another system. -/
theorem fingerprint_hops_farWindows :
    ∃ (machine : Machine) (popen : Str → Option (Str × Int)),
      Classifies (OSFingerprinter.fingerprint
          (fingerprintHost machine "10.0.0.7".toList).1 "10.0.0.7".toList)
        .windows 64 ∧
      Classifies (OSFingerprinter.fingerprint
          (Windows.fingerprintHost popen "10.0.0.7".toList)
          "10.0.0.7".toList)
        .windows 64 ∧
      ¬ 64 < InitialTtl.windows.value - InitialTtl.windows.below ∧
      ∃ other : InitialTtl, 64 + other.value = InitialTtl.windows.value := by
  let reply : PingReply :=
    ⟨"64 bytes from 10.0.0.7: icmp_seq=1 ".toList, "ttl".toList, 64,
      " time=9.1 ms".toList, .inl rfl, by decide, by decide,
      by rintro _ ⟨⟩; rfl⟩
  obtain ⟨hlinux, hwindows⟩ := @fingerprint_hops reply .windows 64
    (by decide) rfl "10.0.0.7".toList (by decide)
    ⟨fun _ => (0, .zero), fun _ => some reply.text⟩ rfl
    (fun _ => some (reply.text, 0)) rfl
  exact ⟨_, _, hlinux, hwindows, by decide, .unixLike, rfl⟩

end SlipNet.Network
