import SlipNet.Platform.RouteReaders

/-!
# The line of the default route

The gateway and the interface of the default route are searched for separately,
each in the whole output.  They are of one route exactly if that route has the
first of each, and a blank behind it.
-/

namespace SlipNet.Platform

open SlipNet.Standard
open SlipNet.Network

def IsDefault (line : Str) : Prop :=
  (words line).head? = some "default".toList

instance : DecidablePred IsDefault := fun _ =>
  inferInstanceAs (Decidable (_ = _))

/-- The value is a word that the reader cuts out of the line that the other
lines stand before; it is empty if the reader has nothing to cut out. -/
def TakenFrom (output : IpOutput) (before : List Str)
    (line token value : Str) : Prop :=
  match sliceOf token output.text with
  | none => value = []
  | some slice =>
      value = cut output.text slice.start slice.stop ∧ IsToken value ∧
        (linesText before).length ≤ slice.start ∧
        slice.stop ≤ (linesText before).length + line.length

/-- The gateway and the interface are taken from one line, that of a default
route, if there is anything to take. -/
inductive RouteInfo.TakenTogether (route : RouteInfo) (output : IpOutput) :
    Prop
  | nothing : sliceOf "default via ".toList output.text = none →
      sliceOf " dev ".toList output.text = none →
      route.gateway = [] → route.interfaceName = [] →
      TakenTogether route output
  | line (before after : List Str) (line : Str) :
      output.lines = before ++ line :: after → IsDefault line →
      TakenFrom output before line "default via ".toList route.gateway →
      TakenFrom output before line " dev ".toList route.interfaceName →
      TakenTogether route output

/-- If any line holds the token, then this one is the first, and has a whole
word behind it. -/
structure FirstFoundIn (token : Str) (before : List Str) (line : Str)
    (after : List Str) : Prop where
  earlier : ∀ other ∈ before, find token other = none
  here : HasWord token line ∨
    find token line = none ∧ ∀ other ∈ after, find token other = none

/-- No line holds one of the tokens, or a default route is the first to hold
each of them. -/
inductive DefaultRead (output : IpOutput) : Prop
  | silent : (∀ line ∈ output.lines, find "default via ".toList line = none) →
      (∀ line ∈ output.lines, find " dev ".toList line = none) →
      DefaultRead output
  | named (before after : List Str) (line : Str) :
      output.lines = before ++ line :: after → IsDefault line →
      FirstFoundIn "default via ".toList before line after →
      FirstFoundIn " dev ".toList before line after → DefaultRead output

/-! ## The stretch up to the next blank -/

def stretch (rest : Str) : Str := rest.takeWhile (· ≠ ' ')

def sliceAt (start : Nat) (output : Str) : Slice where
  start := start
  stop := start + (stretch (output.drop start)).length

def Slice.shift (width : Nat) (slice : Slice) : Slice where
  start := width + slice.start
  stop := width + slice.stop

theorem stretch_append {word : Str} (h : ' ' ∉ word) (rest : Str) :
    stretch (word ++ ' ' :: rest) = word :=
  takeWhile_append_cons h rest

theorem stretch_of_notMem {rest : Str} (h : ' ' ∉ rest) :
    stretch rest = rest :=
  takeWhile_of_notMem h

theorem stop_eq {output : Str} {start : Nat} (h : start ≤ output.length) :
    (findBlank output start).getD output.length =
      (sliceAt start output).stop := by
  have hlength : output.length = start + (output.drop start).length := by
    rw [List.length_drop]
    omega
  rw [findBlank, sliceAt, hlength]
  generalize output.drop start = rest
  cases hblank : findChar ' ' rest with
  | none =>
      rw [stretch_of_notMem (findChar_eq_none_iff.mp hblank)]
      rfl
  | some width =>
      obtain ⟨before, after, rfl, hbefore, rfl⟩ :=
        exists_split_of_findChar hblank
      rw [stretch_append hbefore]
      rfl

theorem sliceOf_eq (token output : Str) :
    sliceOf token output = (find token output).map fun position =>
      sliceAt (position + token.length) output := by
  rw [sliceOf]
  cases hfind : find token output with
  | none => rfl
  | some position =>
      simp only [Option.map_some, stop_eq (find_le hfind)]
      rfl

theorem cut_sliceAt (start : Nat) (output : Str) :
    cut output (sliceAt start output).start (sliceAt start output).stop =
      stretch (output.drop start) := by
  rw [cut, sliceAt, Nat.add_sub_cancel_left]
  exact (List.prefix_iff_eq_take.mp (List.takeWhile_prefix _)).symm

theorem sliceAt_append (before rest : Str) (start : Nat) :
    sliceAt (before.length + start) (before ++ rest) =
      (sliceAt start rest).shift before.length := by
  rw [sliceAt, sliceAt, Slice.shift, List.drop_length_add_append,
    Nat.add_assoc]

/-! ## The first line with the token -/

theorem linesText_append (before : List Str) (line : Str)
    (after : List Str) :
    linesText (before ++ line :: after) =
      linesText before ++ (line ++ '\n' :: linesText after) := by
  simp [linesText]

theorem linesText_cons_append (line : Str) (lines : List Str) (rest : Str) :
    linesText (line :: lines) ++ rest =
      line ++ '\n' :: (linesText lines ++ rest) := by
  simp [linesText]

theorem length_linesText_cons (line : Str) (lines : List Str) :
    (linesText (line :: lines)).length =
      (linesText lines).length + (line.length + 1) := by
  simp [linesText, Nat.add_comm, Nat.add_left_comm]

section Lines

variable {token : Str} (hnot : '\n' ∉ token) (hne : token ≠ [])
include hnot hne

theorem find_linesText_append {before : List Str}
    (h : ∀ other ∈ before, find token other = none) (rest : Str) :
    find token (linesText before ++ rest) =
      (find token rest).map (· + (linesText before).length) := by
  induction before with
  | nil => simp [linesText]
  | cons other before ih =>
      obtain ⟨hother, hbefore⟩ := List.forall_mem_cons.mp h
      rw [linesText_cons_append, find_append_cons hnot hne, hother,
        Option.none_or, ih hbefore, Option.map_map, length_linesText_cons]
      exact congrArg (Option.map · _) (funext fun position =>
        Nat.add_assoc ..)

theorem find_linesText_of_exists {before : List Str}
    (h : ∃ other ∈ before, find token other ≠ none) (rest : Str) :
    ∃ position, find token (linesText before ++ rest) = some position ∧
      position + token.length < (linesText before).length := by
  induction before with
  | nil => simp at h
  | cons other before ih =>
      rw [linesText_cons_append, find_append_cons hnot hne,
        length_linesText_cons]
      cases hother : find token other with
      | some position =>
          have hle := find_le hother
          exact ⟨position, rfl, by omega⟩
      | none =>
          have hbefore : ∃ other ∈ before, find token other ≠ none := by
            simpa [hother] using h
          obtain ⟨position, hposition, hlt⟩ := ih hbefore
          rw [Option.none_or, hposition]
          exact ⟨position + (other.length + 1), rfl, by omega⟩

theorem find_linesText_eq_none_iff {lines : List Str} :
    find token (linesText lines) = none ↔
      ∀ line ∈ lines, find token line = none := by
  constructor
  · intro hnone
    by_contra hsome
    simp only [not_forall, exists_prop] at hsome
    obtain ⟨position, hposition, _⟩ :=
      find_linesText_of_exists hnot hne hsome []
    rw [List.append_nil, hnone] at hposition
    cases hposition
  · intro hlines
    have hfind := find_linesText_append hnot hne hlines []
    have hempty : find token [] = none := if_neg hne
    rwa [List.append_nil, hempty] at hfind

theorem sliceOf_linesText_append {before : List Str}
    (h : ∀ other ∈ before, find token other = none) (rest : Str) :
    sliceOf token (linesText before ++ rest) =
      (sliceOf token rest).map (Slice.shift (linesText before).length) := by
  rw [sliceOf_eq, sliceOf_eq, find_linesText_append hnot hne h,
    Option.map_map, Option.map_map]
  refine congrArg (Option.map · _) (funext fun position => ?_)
  rw [Function.comp_apply, Function.comp_apply, ← sliceAt_append]
  congr 1
  omega

end Lines

/-! ## Taking both values from one line -/

theorem stretch_iff_hasWord {token line rest : Str}
    (hbehind : behind token line = some rest) (more : Str) :
    IsToken (stretch (rest ++ '\n' :: more)) ∧
        (stretch (rest ++ '\n' :: more)).length ≤ rest.length ↔
      HasWord token line := by
  constructor
  · rintro ⟨hword, hle⟩
    by_cases hblank : ' ' ∈ rest
    · obtain ⟨word, tail, rfl, hnot⟩ := List.eq_append_cons_of_mem hblank
      rw [List.append_assoc, List.cons_append, stretch_append hnot] at hword
      exact ⟨word, tail, hbehind, hword⟩
    · exfalso
      have hall : ∀ c ∈ rest, decide (c ≠ ' ') = true := by
        intro c hc
        have hne : c ≠ ' ' := fun hsame => hblank (hsame ▸ hc)
        simpa using hne
      rw [stretch, List.takeWhile_append_of_pos hall, List.length_append] at hle
      simp at hle
  · rintro ⟨word, tail, hsome, hword⟩
    have hnot : ' ' ∉ word := fun hmem =>
      absurd (hword.solid ' ' hmem) (by decide)
    obtain rfl : rest = word ++ ' ' :: tail :=
      Option.some.inj (hbehind.symm.trans hsome)
    rw [List.append_assoc, List.cons_append, stretch_append hnot]
    exact ⟨hword, by simp⟩

section Taken

variable {token : Str} {output : IpOutput} {before after : List Str}
  {line : Str}

theorem takenFrom_of_none (h : sliceOf token output.text = none) :
    TakenFrom output before line token (readRest token output.text) := by
  rw [TakenFrom, readRest, h]

theorem takenFrom_iff_of_some {slice : Slice}
    (h : sliceOf token output.text = some slice) :
    TakenFrom output before line token (readRest token output.text) ↔
      IsToken (cut output.text slice.start slice.stop) ∧
        (linesText before).length ≤ slice.start ∧
        slice.stop ≤ (linesText before).length + line.length := by
  rw [TakenFrom, readRest, h]
  exact and_iff_right rfl

theorem cut_shift (width : Str) (rest : Str) (slice : Slice) :
    cut (width ++ rest) (slice.shift width.length).start
        (slice.shift width.length).stop =
      cut rest slice.start slice.stop := by
  rw [cut, cut, Slice.shift, List.drop_length_add_append,
    Nat.add_sub_add_left]

variable (hlines : output.lines = before ++ line :: after)
  (hnot : '\n' ∉ token) (hne : token ≠ [])
include hlines hnot hne

theorem takenFrom_iff_of_here {position : Nat}
    (hearlier : ∀ other ∈ before, find token other = none)
    (hhere : find token line = some position) :
    TakenFrom output before line token (readRest token output.text) ↔
      HasWord token line := by
  have htext : output.text =
      linesText before ++ (line ++ '\n' :: linesText after) := by
    rw [IpOutput.text, hlines, linesText_append]
  have hle := find_le hhere
  have hslice : sliceOf token (line ++ '\n' :: linesText after) =
      some (sliceAt (position + token.length)
        (line ++ '\n' :: linesText after)) := by
    rw [sliceOf_eq, find_append_cons hnot hne, hhere]
    rfl
  have hshift := sliceOf_linesText_append hnot hne hearlier
    (line ++ '\n' :: linesText after)
  rw [hslice, Option.map_some, ← htext] at hshift
  have hbehind : behind token line =
      some (line.drop (position + token.length)) := by
    rw [behind, hhere]
    rfl
  have hdrop : (line ++ '\n' :: linesText after).drop
      (position + token.length) =
        line.drop (position + token.length) ++ '\n' :: linesText after :=
    List.drop_append_of_le_length hle
  rw [takenFrom_iff_of_some hshift, htext, cut_shift, cut_sliceAt, hdrop,
    ← stretch_iff_hasWord hbehind]
  simp only [Slice.shift, sliceAt, hdrop, List.length_drop]
  refine and_congr_right fun _ => ?_
  omega

theorem takenFrom_iff_of_missing
    (hearlier : ∀ other ∈ before, find token other = none)
    (hhere : find token line = none) :
    TakenFrom output before line token (readRest token output.text) ↔
      ∀ other ∈ after, find token other = none := by
  rw [← find_linesText_eq_none_iff hnot hne]
  have hfind : find token output.text =
      (find token (linesText after)).map
        (· + ((linesText before).length + (line.length + 1))) := by
    rw [IpOutput.text, hlines, linesText_append,
      find_linesText_append hnot hne hearlier, find_append_cons hnot hne,
      hhere, Option.none_or, Option.map_map]
    refine congrArg (Option.map · _) (funext fun position => ?_)
    simp only [Function.comp_apply]
    omega
  cases hafter : find token (linesText after) with
  | none =>
      rw [hafter, Option.map_none] at hfind
      have hslice : sliceOf token output.text = none := by
        rw [sliceOf, hfind, Option.map_none]
      exact iff_of_true (takenFrom_of_none hslice) rfl
  | some position =>
      rw [hafter, Option.map_some] at hfind
      have hslice := sliceOf_eq token output.text
      rw [hfind, Option.map_some] at hslice
      rw [takenFrom_iff_of_some hslice]
      refine iff_of_false ?_ (by simp)
      rintro ⟨_, _, hstop⟩
      simp only [sliceAt] at hstop
      omega

theorem not_takenFrom_of_earlier
    (hearlier : ∃ other ∈ before, find token other ≠ none) :
    ¬ TakenFrom output before line token (readRest token output.text) := by
  obtain ⟨position, hfind, hlt⟩ := find_linesText_of_exists hnot hne hearlier
    (line ++ '\n' :: linesText after)
  rw [← linesText_append, ← hlines] at hfind
  have hslice := sliceOf_eq token output.text
  rw [IpOutput.text, hfind, Option.map_some] at hslice
  rw [takenFrom_iff_of_some hslice]
  rintro ⟨_, hstart, _⟩
  simp only [sliceAt] at hstart
  omega

/-- The value is a word of this line exactly if the line is the first with the
token, and the word ends in it. -/
theorem takenFrom_iff :
    TakenFrom output before line token (readRest token output.text) ↔
      FirstFoundIn token before line after := by
  by_cases hearlier : ∀ other ∈ before, find token other = none
  · cases hhere : find token line with
    | some position =>
        rw [takenFrom_iff_of_here hlines hnot hne hearlier hhere]
        refine ⟨fun hword => ⟨hearlier, .inl hword⟩, fun hfound => ?_⟩
        exact hfound.here.resolve_right fun hmissing => by
          simp [hhere] at hmissing
    | none =>
        rw [takenFrom_iff_of_missing hlines hnot hne hearlier hhere]
        refine ⟨fun hafter => ⟨hearlier, .inr ⟨hhere, hafter⟩⟩,
          fun hfound => ?_⟩
        rcases hfound.here with ⟨word, tail, hbehind, _⟩ | hmissing
        · rw [behind_eq_none_iff.mpr hhere] at hbehind
          cases hbehind
        · exact hmissing.2
  · have hsome : ∃ other ∈ before, find token other ≠ none := by
      simpa using hearlier
    exact iff_of_false (not_takenFrom_of_earlier hlines hnot hne hsome)
      fun hfound => hearlier hfound.earlier

end Taken

/-! ## Both readers -/

theorem getDefaultRoute_text (output : IpOutput)
    (getifaddrs : Option (List Linux.Ifaddrs)) :
    let route := getDefaultRoute (some output.text) getifaddrs
    route.gateway = readRest "default via ".toList output.text ∧
      route.interfaceName = readRest " dev ".toList output.text := by
  rw [getDefaultRoute, readPipe_text]
  split
  · next hempty =>
      rw [hempty]
      exact ⟨rfl, rfl⟩
  · exact ⟨rfl, rfl⟩

theorem sliceOf_eq_none_iff {token : Str} (hnot : '\n' ∉ token)
    (hne : token ≠ []) (output : IpOutput) :
    sliceOf token output.text = none ↔
      ∀ line ∈ output.lines, find token line = none := by
  rw [sliceOf, Option.map_eq_none_iff, IpOutput.text,
    find_linesText_eq_none_iff hnot hne]

theorem getDefaultRoute_takenTogether_iff (output : IpOutput)
    (getifaddrs : Option (List Linux.Ifaddrs)) :
    (getDefaultRoute (some output.text) getifaddrs).TakenTogether output ↔
      DefaultRead output := by
  obtain ⟨hgateway, hinterface⟩ := getDefaultRoute_text output getifaddrs
  constructor
  · rintro (⟨hvia, hdev, _, _⟩ |
      ⟨before, after, line, hlines, hline, hvia, hdev⟩)
    · exact .silent
        ((sliceOf_eq_none_iff (by decide) (by decide) output).mp hvia)
        ((sliceOf_eq_none_iff (by decide) (by decide) output).mp hdev)
    · rw [hgateway] at hvia
      rw [hinterface] at hdev
      exact .named before after line hlines hline
        ((takenFrom_iff hlines (by decide) (by decide)).mp hvia)
        ((takenFrom_iff hlines (by decide) (by decide)).mp hdev)
  · rintro (⟨hvia, hdev⟩ | ⟨before, after, line, hlines, hline, hvia, hdev⟩)
    · have hvia :=
        (sliceOf_eq_none_iff (by decide) (by decide) output).mpr hvia
      have hdev :=
        (sliceOf_eq_none_iff (by decide) (by decide) output).mpr hdev
      refine .nothing hvia hdev ?_ ?_
      · rw [hgateway, readRest, hvia]
      · rw [hinterface, readRest, hdev]
    · refine .line before after line hlines hline ?_ ?_
      · rw [hgateway]
        exact (takenFrom_iff hlines (by decide) (by decide)).mpr hvia
      · rw [hinterface]
        exact (takenFrom_iff hlines (by decide) (by decide)).mpr hdev

/-- What the two readers are for, and exactly when they do it. -/
theorem routeReaders_iff (topology routes : IpOutput)
    (getifaddrs : Option (List Linux.Ifaddrs)) :
    ((getLocalTopologyInfo (some topology.text)).ReadFrom topology ↔
        ∀ key ∈ ["via".toList, "dev".toList, "src".toList],
          MemberRead topology key) ∧
      ((getDefaultRoute (some routes.text) getifaddrs).TakenTogether routes ↔
        DefaultRead routes) :=
  ⟨getLocalTopologyInfo_readFrom_iff topology,
    getDefaultRoute_takenTogether_iff routes getifaddrs⟩

/-- The route line ends with the local address. -/
def endsWithSource : IpOutput where
  lines := ["1.1.1.1 via 10.0.0.1 dev eth0 src 10.0.0.5".toList,
    "    cache ".toList]
  isLine := List.forall_mem_cons.mpr ⟨forall_mem_of_all (by decide),
    List.forall_mem_singleton.mpr (forall_mem_of_all (by decide))⟩
  nul_notMem := by decide

/-- The first default route has no gateway. -/
def twoDefaults : IpOutput where
  lines := ["default dev tun0 scope link ".toList,
    "default via 10.0.0.1 dev eth0 ".toList]
  isLine := List.forall_mem_cons.mpr ⟨forall_mem_of_all (by decide),
    List.forall_mem_singleton.mpr (forall_mem_of_all (by decide))⟩
  nul_notMem := by decide

theorem not_defaultRead_twoDefaults : ¬ DefaultRead twoDefaults := by
  rintro (⟨hvia, _⟩ | ⟨before, after, line, hlines, _, hvia, hdev⟩)
  · exact absurd (hvia "default via 10.0.0.1 dev eth0 ".toList
      (by simp [twoDefaults])) (by decide)
  · cases before with
    | nil =>
        obtain ⟨rfl, rfl⟩ := List.cons.inj hlines
        rcases hvia.here with ⟨word, tail, hbehind, _⟩ | ⟨_, hafter⟩
        · exact absurd hbehind (by
            rw [behind_eq_none_iff.mpr (by decide)]
            simp)
        · exact absurd (hafter _ List.mem_cons_self) (by decide)
    | cons first before =>
        obtain ⟨rfl, _⟩ := List.cons.inj hlines
        exact absurd (hdev.earlier _ List.mem_cons_self) (by decide)

/-- A local address with a line break in it, and a gateway that is not on the
interface that comes with it. -/
theorem not_routeReaders :
    let info := getLocalTopologyInfo (some endsWithSource.text)
    let route := getDefaultRoute (some twoDefaults.text) none
    info.localAddress = "10.0.0.5\n".toList ∧
      ¬ info.ReadFrom endsWithSource ∧
      route.gateway = "10.0.0.1".toList ∧
      route.interfaceName = "tun0".toList ∧
      ¬ route.TakenTogether twoDefaults := by
  intro info route
  have hlocal : info.localAddress = "10.0.0.5\n".toList := by decide
  refine ⟨hlocal, fun hread => ?_, by decide, by decide, fun htaken => ?_⟩
  · have hsolid := hread.solid info.localAddress (by simp) '\n'
      (by simp [hlocal])
    exact absurd hsolid (by decide)
  · exact not_defaultRead_twoDefaults
      ((getDefaultRoute_takenTogether_iff twoDefaults none).mp htaken)

end SlipNet.Platform
