import SlipNet.Network.Inet
import SlipNet.Standard.Attributes

/-!
# The route readers of Linux

`getLocalTopologyInfo` and `getDefaultRoute` read what the `ip` tool prints.
Each value is searched for in the whole output and ends at the next blank, a
line break or not, so a value at the end of a line runs on into the next one,
and two values can come from different lines.
-/

namespace SlipNet.Platform

open SlipNet.Standard
open SlipNet.Network

/-! ## Reading a pipe -/

/-- What successive calls of `fgets` store in a buffer with room for `size`
bytes; there is `room` left in the current one. -/
def fgetsFrom (size room : Nat) : Str → List Str
  | [] => []
  | c :: rest =>
      if c = '\n' ∨ room ≤ 1 then [c] :: fgetsFrom size size rest
      else
        match fgetsFrom size (room - 1) rest with
        | [] => [[c]]
        | buffer :: buffers => (c :: buffer) :: buffers

/-- The loop `output += buffer`, which appends a C string. -/
def readPipe (text : Str) : Str :=
  ((fgetsFrom 511 511 text).map cStr).flatten

/-! ## The route of the topology map -/

structure LocalTopologyInfo where
  interfaceName : Str := []
  localAddress : Str := []
  gatewayAddress : Str := []
  deriving DecidableEq, Repr

/-- `output.find(' ', start)` -/
def findBlank (output : Str) (start : Nat) : Option Nat :=
  (findChar ' ' (output.drop start)).map (start + ·)

/-- `output.substr(start, stop - start)` -/
def cut (output : Str) (start stop : Nat) : Str :=
  (output.drop start).take (stop - start)

/-- The value of one member: it stays empty if the key is missing, and if no
blank follows. -/
def readMember (token output : Str) : Str :=
  match find token output with
  | none => []
  | some position =>
      let start := position + 5
      match findBlank output start with
      | none => []
      | some stop => cut output start stop

/-- `pipe` is what `ip route get 1.1.1.1` prints. -/
def getLocalTopologyInfo (pipe : Option Str) : LocalTopologyInfo :=
  match pipe with
  | none => {}
  | some text =>
      let output := readPipe text
      { gatewayAddress := readMember " via ".toList output
        interfaceName := readMember " dev ".toList output
        localAddress := readMember " src ".toList output }

/-! ## The default route -/

structure RouteInfo where
  interfaceName : Str := []
  localIP : Str := []
  gateway : Str := []
  valid : Bool := false
  deriving DecidableEq, Repr

/-- A socket address; the address is read if the family is IPv4. -/
structure Sockaddr where
  sa_family : Nat
  sin_addr : UInt32
  deriving DecidableEq, Repr

/-- An entry of `getifaddrs`. -/
structure Linux.Ifaddrs where
  ifa_name : Option Str
  ifa_addr : Option Sockaddr
  ifa_netmask : Option Sockaddr
  ifa_flags : UInt32
  deriving DecidableEq, Repr

def AF_INET : Nat := 2

def addressToString (address : Sockaddr) : Str :=
  if address.sa_family ≠ AF_INET then [] else inetNtop address.sin_addr

def localAddressOf (interfaceName : Str) : List Linux.Ifaddrs → Str
  | [] => []
  | current :: addresses =>
      match current.ifa_name, current.ifa_addr with
      | some name, some address =>
          if interfaceName ≠ name then localAddressOf interfaceName addresses
          else if address.sa_family ≠ AF_INET then
            localAddressOf interfaceName addresses
          else addressToString address
      | _, _ => localAddressOf interfaceName addresses

structure Slice where
  start : Nat
  stop : Nat
  deriving DecidableEq, Repr

/-- Where the value of one member stands; without a blank it goes on to the
end. -/
def sliceOf (token output : Str) : Option Slice :=
  (find token output).map fun position =>
    let start := position + token.length
    { start := start
      stop := (findBlank output start).getD output.length }

def readRest (token output : Str) : Str :=
  match sliceOf token output with
  | none => []
  | some slice => cut output slice.start slice.stop

/-- `pipe` is what `ip route show default` prints, and `getifaddrs` the list
that it stores, if it succeeds. -/
def getDefaultRoute (pipe : Option Str)
    (getifaddrs : Option (List Linux.Ifaddrs)) : RouteInfo :=
  match pipe with
  | none => {}
  | some text =>
      let output := readPipe text
      if output = [] then {}
      else
        let interfaceName := readRest " dev ".toList output
        let localIP :=
          if interfaceName = [] then []
          else
            match getifaddrs with
            | none => []
            | some addresses => localAddressOf interfaceName addresses
        { gateway := readRest "default via ".toList output
          interfaceName := interfaceName
          localIP := localIP
          valid := interfaceName ≠ [] && localIP ≠ [] }

/-! ## What the readers should find -/

/-- A text that the `ip` tool prints: lines of words with blanks between them,
each ended by a line break. -/
structure IpOutput where
  lines : List Str
  isLine : ∀ line ∈ lines, IsLine line
  nul_notMem : ∀ line ∈ lines, '\x00' ∉ line

def linesText (lines : List Str) : Str := lines.flatMap (· ++ ['\n'])

def IpOutput.text (output : IpOutput) : Str := linesText output.lines

/-- The value behind the key on the route line, which is the first one. -/
def IpOutput.routeWord (output : IpOutput) (key : Str) : Option Str :=
  output.lines.head?.bind fun line => wordAfter key (attributes line)

def IpOutput.routeInfo (output : IpOutput) : LocalTopologyInfo where
  gatewayAddress := (output.routeWord "via".toList).getD []
  interfaceName := (output.routeWord "dev".toList).getD []
  localAddress := (output.routeWord "src".toList).getD []

/-- The values are those of the route line, and have no white space. -/
structure LocalTopologyInfo.ReadFrom (info : LocalTopologyInfo)
    (output : IpOutput) : Prop where
  whole : info = output.routeInfo
  solid : ∀ value ∈ [info.gatewayAddress, info.interfaceName,
    info.localAddress], ∀ c ∈ value, isspace c = false

/-- Directly behind the first token stands a word, and behind it a blank. -/
def HasWord (token line : Str) : Prop :=
  ∃ word tail, behind token line = some (word ++ ' ' :: tail) ∧ IsToken word

/-- The reader of a member ends its value at the right blank; or the route line
has no value for it, and the reader ends up with the empty text. -/
inductive MemberRead (output : IpOutput) (key : Str) : Prop
  | named (line : Str) : output.lines.head? = some line →
      HasWord (between key) line → MemberRead output key
  | silent : output.routeWord key = none →
      (∀ rest, behind (between key) output.text = some rest →
        ' ' ∉ rest ∨ rest.head? = some ' ') → MemberRead output key

theorem isToken_of_routeWord {output : IpOutput} {key word : Str}
    (h : output.routeWord key = some word) : IsToken word := by
  obtain ⟨line, _, hword⟩ := Option.bind_eq_some_iff.mp h
  exact isToken_of_wordAfter hword

/-! ## The output as it is read -/

theorem flatten_fgetsFrom (size room : Nat) (text : Str) :
    (fgetsFrom size room text).flatten = text := by
  induction text generalizing room with
  | nil => rfl
  | cons c rest ih =>
      rw [fgetsFrom]
      split
      · rw [List.flatten_cons, ih, List.singleton_append]
      · have hrest := ih (room - 1)
        split
        · next hnone =>
            rw [hnone] at hrest
            rw [← hrest]
            rfl
        · next buffer buffers hsome =>
            rw [hsome] at hrest
            rw [← hrest]
            rfl

theorem readPipe_eq_self {text : Str} (h : '\x00' ∉ text) :
    readPipe text = text := by
  have hbuffers : ∀ buffer ∈ fgetsFrom 511 511 text,
      cStr buffer = buffer := by
    intro buffer hbuffer
    refine cStr_eq_self fun hmem => h ?_
    rw [← flatten_fgetsFrom 511 511 text]
    exact List.mem_flatten.mpr ⟨buffer, hbuffer, hmem⟩
  rw [readPipe, List.map_congr_left hbuffers, List.map_id',
    flatten_fgetsFrom]

theorem readPipe_text (output : IpOutput) :
    readPipe output.text = output.text := by
  refine readPipe_eq_self fun hmem => ?_
  obtain ⟨line, hline, hnul⟩ := List.mem_flatMap.mp hmem
  rcases List.mem_append.mp hnul with hnul | hnul
  · exact output.nul_notMem line hline hnul
  · exact absurd (List.mem_singleton.mp hnul) (by decide)

/-! ## The members of the topology map -/

/-- The text up to the first blank, if there is one. -/
def closedWord (rest : Str) : Str :=
  if ' ' ∈ rest then rest.takeWhile (· ≠ ' ') else []

theorem closedWord_append {word : Str} (h : ' ' ∉ word) (rest : Str) :
    closedWord (word ++ ' ' :: rest) = word := by
  rw [closedWord, if_pos (by simp), takeWhile_append_cons h]

theorem readMember_eq {token : Str} (hlength : token.length = 5)
    (output : Str) :
    readMember token output = (behind token output).elim [] closedWord := by
  unfold readMember behind
  cases find token output with
  | none => rfl
  | some position =>
      simp only [Option.map_some, Option.elim_some, hlength, findBlank, cut]
      generalize output.drop (position + 5) = rest
      cases hblank : findChar ' ' rest with
      | none =>
          rw [closedWord, if_neg (findChar_eq_none_iff.mp hblank)]
          rfl
      | some width =>
          obtain ⟨before, after, rfl, hbefore, rfl⟩ :=
            exists_split_of_findChar hblank
          simp [closedWord_append hbefore]

theorem closedWord_eq_nil_iff {rest : Str} :
    closedWord rest = [] ↔ ' ' ∉ rest ∨ rest.head? = some ' ' := by
  by_cases hblank : ' ' ∈ rest
  · obtain ⟨before, after, rfl, hbefore⟩ := List.eq_append_cons_of_mem hblank
    rw [closedWord_append hbefore]
    cases before with
    | nil => simp
    | cons c before =>
        have hne : c ≠ ' ' := fun hsame => hbefore (by simp [hsame])
        simp [hne]
  · simp [closedWord, hblank]

theorem readMember_eq_nil_iff {token output : Str}
    (hlength : token.length = 5) :
    readMember token output = [] ↔ ∀ rest, behind token output = some rest →
      ' ' ∉ rest ∨ rest.head? = some ' ' := by
  rw [readMember_eq hlength]
  cases behind token output with
  | none => simp
  | some rest => simp [closedWord_eq_nil_iff]

theorem exists_of_closedWord {rest word more : Str} (hword : IsToken word)
    (h : closedWord (rest ++ '\n' :: more) = word) :
    ∃ tail, rest = word ++ ' ' :: tail := by
  by_cases hblank : ' ' ∈ rest
  · obtain ⟨before, tail, rfl, hbefore⟩ := List.eq_append_cons_of_mem hblank
    rw [List.append_assoc, List.cons_append, closedWord_append hbefore] at h
    exact ⟨tail, by rw [h]⟩
  · exfalso
    by_cases hmore : ' ' ∈ more
    · obtain ⟨before, after, rfl, hbefore⟩ := List.eq_append_cons_of_mem hmore
      have hrest : ' ' ∉ rest ++ '\n' :: before := by
        simp [hblank, hbefore]
      have hsplit : rest ++ '\n' :: (before ++ ' ' :: after) =
          (rest ++ '\n' :: before) ++ ' ' :: after := by simp
      rw [hsplit, closedWord_append hrest] at h
      have hsolid := hword.solid '\n' (by simp [← h])
      exact absurd hsolid (by decide)
    · refine hword.ne_nil ?_
      rw [← h, closedWord, if_neg (by simp [hblank, hmore])]

section Members

variable {output : IpOutput} {key : Str}

theorem routeWord_eq (hkey : IsToken key) :
    output.routeWord key = output.lines.head?.bind fun line =>
      (behind (between key) line).bind fun rest => (words rest).head? := by
  rw [IpOutput.routeWord]
  cases hlines : output.lines with
  | nil => rfl
  | cons line lines =>
      have hline := output.isLine line (by simp [hlines])
      simp [wordAfter_attributes hkey hline]

theorem behind_text (hkey : IsToken key) {line : Str} {lines : List Str}
    (h : output.lines = line :: lines) :
    behind (between key) output.text =
      ((behind (between key) line).map (· ++ '\n' :: linesText lines)).or
        (behind (between key) (linesText lines)) := by
  have hnot : '\n' ∉ between key := by
    have hkey : '\n' ∉ key := fun hmem =>
      absurd (hkey.solid '\n' hmem) (by decide)
    simp [between, hkey]
  have htext : output.text = line ++ '\n' :: linesText lines := by
    simp [IpOutput.text, h, linesText]
  rw [htext, behind_append_cons hnot (List.cons_ne_nil _ _)]

theorem routeWord_of_hasWord (hkey : IsToken key) {line word tail : Str}
    (hhead : output.lines.head? = some line)
    (hbehind : behind (between key) line = some (word ++ ' ' :: tail))
    (hword : IsToken word) : output.routeWord key = some word := by
  rw [routeWord_eq hkey, hhead, Option.bind_some, hbehind, Option.bind_some,
    words_append_cons isspace_blank, words_of_isToken hword]
  rfl

theorem readMember_of_hasWord {line : Str} (hkey : IsToken key)
    (hlength : (between key).length = 5)
    (hhead : output.lines.head? = some line)
    (hword : HasWord (between key) line) :
    readMember (between key) output.text =
      (output.routeWord key).getD [] := by
  obtain ⟨word, tail, hbehind, hword⟩ := hword
  obtain ⟨lines, hlines⟩ := List.head?_eq_some_iff.mp hhead
  have hblank : ' ' ∉ word := fun hmem =>
    absurd (hword.solid ' ' hmem) (by decide)
  rw [readMember_eq hlength, behind_text hkey hlines, hbehind,
    routeWord_of_hasWord hkey hhead hbehind hword, Option.map_some,
    Option.some_or, Option.elim_some, Option.getD_some, List.append_assoc,
    List.cons_append, closedWord_append hblank]

theorem hasWord_of_readMember {word : Str} (hkey : IsToken key)
    (hlength : (between key).length = 5)
    (hword : output.routeWord key = some word)
    (hread : readMember (between key) output.text = word) :
    ∃ line, output.lines.head? = some line ∧
      HasWord (between key) line := by
  have htoken := isToken_of_routeWord hword
  rw [routeWord_eq hkey] at hword
  obtain ⟨line, hhead, hword⟩ := Option.bind_eq_some_iff.mp hword
  obtain ⟨rest, hbehind, _⟩ := Option.bind_eq_some_iff.mp hword
  obtain ⟨lines, hlines⟩ := List.head?_eq_some_iff.mp hhead
  rw [readMember_eq hlength, behind_text hkey hlines, hbehind,
    Option.map_some, Option.some_or, Option.elim_some] at hread
  obtain ⟨tail, rfl⟩ := exists_of_closedWord htoken hread
  exact ⟨line, hhead, word, tail, hbehind, htoken⟩

theorem readMember_eq_routeWord_iff (hkey : IsToken key)
    (hlength : (between key).length = 5) :
    readMember (between key) output.text =
        (output.routeWord key).getD [] ↔ MemberRead output key := by
  constructor
  · intro hread
    cases hword : output.routeWord key with
    | none =>
        rw [hword, Option.getD_none] at hread
        exact .silent hword ((readMember_eq_nil_iff hlength).mp hread)
    | some word =>
        rw [hword, Option.getD_some] at hread
        obtain ⟨line, hhead, hline⟩ :=
          hasWord_of_readMember hkey hlength hword hread
        exact .named line hhead hline
  · rintro (⟨line, hhead, hline⟩ | ⟨hword, hrest⟩)
    · exact readMember_of_hasWord hkey hlength hhead hline
    · rw [hword, Option.getD_none]
      exact (readMember_eq_nil_iff hlength).mpr hrest

end Members

theorem getLocalTopologyInfo_text (output : IpOutput) :
    getLocalTopologyInfo (some output.text) =
      { gatewayAddress := readMember (between "via".toList) output.text
        interfaceName := readMember (between "dev".toList) output.text
        localAddress := readMember (between "src".toList) output.text } := by
  rw [getLocalTopologyInfo, readPipe_text]
  rfl

theorem solid_routeWord (output : IpOutput) (key : Str) :
    ∀ c ∈ (output.routeWord key).getD [], isspace c = false := by
  cases hword : output.routeWord key with
  | none => simp
  | some word => exact (isToken_of_routeWord hword).solid

theorem readFrom_iff {info : LocalTopologyInfo} {output : IpOutput} :
    info.ReadFrom output ↔ info = output.routeInfo := by
  refine ⟨LocalTopologyInfo.ReadFrom.whole, fun hwhole => ⟨hwhole, ?_⟩⟩
  subst hwhole
  simp only [List.forall_mem_cons, List.not_mem_nil, false_implies,
    implies_true, and_true]
  exact ⟨solid_routeWord output _, solid_routeWord output _,
    solid_routeWord output _⟩

theorem getLocalTopologyInfo_readFrom_iff (output : IpOutput) :
    (getLocalTopologyInfo (some output.text)).ReadFrom output ↔
      ∀ key ∈ ["via".toList, "dev".toList, "src".toList],
        MemberRead output key := by
  have hmember : ∀ key ∈ ["via".toList, "dev".toList, "src".toList],
      (readMember (between key) output.text =
        (output.routeWord key).getD [] ↔ MemberRead output key) := by
    intro key hmem
    have hkey : IsToken key ∧ (between key).length = 5 := by
      simp only [List.mem_cons, List.not_mem_nil, or_false] at hmem
      rcases hmem with rfl | rfl | rfl <;>
        exact ⟨⟨by decide, forall_mem_of_all (by decide)⟩, by decide⟩
    exact readMember_eq_routeWord_iff hkey.1 hkey.2
  rw [readFrom_iff, getLocalTopologyInfo_text, IpOutput.routeInfo,
    LocalTopologyInfo.mk.injEq, ← forall₂_congr hmember]
  simp only [List.forall_mem_cons, List.not_mem_nil, false_implies,
    implies_true, and_true]
  constructor
  · rintro ⟨hdev, hsrc, hvia⟩
    exact ⟨hvia, hdev, hsrc⟩
  · rintro ⟨hvia, hdev, hsrc⟩
    exact ⟨hdev, hsrc, hvia⟩

end SlipNet.Platform
