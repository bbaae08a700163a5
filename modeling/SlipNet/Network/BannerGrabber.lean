import SlipNet.Standard.Strings
import Mathlib.Tactic

/-!
# Grabbing banners

`BannerGrabber::clean` drops control characters, writes line breaks as
separators and stops once 512 bytes are written.  It looks at the length only
where it writes a byte that it received, so a separator can carry the text past
the bound, and it takes the byte 127 for a printing one.
-/

namespace SlipNet.Network

open SlipNet.Standard

/-! ## The grabber -/

structure BannerResult where
  connected : Bool := false
  host : Str := []
  port : Int := 0
  protocol : Str := []
  banner : Str := []
  deriving DecidableEq, Repr

def separator : Str := " | ".toList

def breakLine (result : Str) : Str :=
  if result ≠ [] ∧ result.getLast? ≠ some ' ' then result ++ separator
  else result

def cleanFrom (result : Str) : Str → Str
  | [] => result
  | c :: rest =>
      if c = '\r' then cleanFrom result rest
      else if c = '\n' then cleanFrom (breakLine result) rest
      else if c.toNat < 32 then cleanFrom result rest
      else if (result ++ [c]).length ≥ 512 then result ++ [c]
      else cleanFrom (result ++ [c]) rest

def clean (value : Str) : Str := cleanFrom [] value

def protocolOf (port : Int) : Str :=
  if port = 80 ∨ port = 8080 ∨ port = 8000 ∨ port = 8888 then "HTTP".toList
  else if port = 21 then "FTP".toList
  else if port = 22 then "SSH".toList
  else if port = 25 then "SMTP".toList
  else if port = 110 ∨ port = 995 then "POP3".toList
  else if port = 143 ∨ port = 993 then "IMAP".toList
  else if port = 53 then "DNS".toList
  else if port = 443 ∨ port = 8443 then "HTTPS".toList
  else "TCP".toList

def headRequest (host : Str) : Str :=
  ("HEAD / HTTP/1.0\r\n" ++ "Host: ").toList ++ host ++
    ("\r\n" ++ "Connection: close\r\n" ++ "\r\n").toList

/-! ## The text without the bound -/

def write (result : Str) (c : Char) : Str :=
  if c = '\n' then breakLine result
  else if c.toNat < 32 then result
  else result ++ [c]

/-- What is written for a text if nothing stops it. -/
def laidOut (value : Str) : Str := value.foldl write []

theorem write_printed {c : Char} (h : 32 ≤ c.toNat) (result : Str) :
    write result c = result ++ [c] := by
  have hbreak : c ≠ '\n' := by
    rintro rfl
    exact absurd h (by decide)
  rw [write, if_neg hbreak, if_neg (not_lt.mpr h)]

theorem length_le_write (result : Str) (c : Char) :
    result.length ≤ (write result c).length := by
  unfold write breakLine
  split_ifs <;> simp

theorem length_le_foldl (result value : Str) :
    result.length ≤ (value.foldl write result).length := by
  induction value generalizing result with
  | nil => exact le_rfl
  | cons c value ih => exact (length_le_write result c).trans (ih _)

theorem length_laidOut_le (before after : Str) :
    (laidOut before).length ≤ (laidOut (before ++ after)).length := by
  rw [laidOut, laidOut, List.foldl_append]
  exact length_le_foldl _ _

theorem laidOut_append_singleton (value : Str) (c : Char) :
    laidOut (value ++ [c]) = write (laidOut value) c := by
  simp [laidOut]

theorem split_cases {before after bound rest : Str} {c d : Char}
    (h : bound ++ c :: rest = before ++ d :: after) :
    (∃ middle, bound = before ++ [d] ++ middle) ∨
      (before = bound ∧ c = d) ∨
      ∃ middle, before = bound ++ [c] ++ middle := by
  rcases List.append_eq_append_iff.mp h with
    ⟨middle, hlater, hmiddle⟩ | ⟨middle, hearlier, hmiddle⟩
  · cases middle with
    | nil =>
        rw [List.append_nil] at hlater
        exact .inr (.inl ⟨hlater, (List.cons.inj hmiddle).1⟩)
    | cons e middle =>
        obtain rfl := (List.cons.inj hmiddle).1
        exact .inr (.inr ⟨middle, by simp [hlater]⟩)
  · cases middle with
    | nil =>
        rw [List.append_nil] at hearlier
        exact .inr (.inl ⟨hearlier.symm, (List.cons.inj hmiddle).1.symm⟩)
    | cons e middle =>
        obtain rfl := (List.cons.inj hmiddle).1
        exact .inl ⟨middle, by simp [hearlier]⟩

theorem full_of_printed {bound : Str} {c : Char} (hprinted : 32 ≤ c.toNat)
    (hfull : 511 ≤ (laidOut bound).length) (middle : Str) :
    512 ≤ (laidOut (bound ++ [c] ++ middle)).length := by
  have hgrows := length_laidOut_le (bound ++ [c]) middle
  rw [laidOut_append_singleton, write_printed hprinted, List.length_append,
    List.length_singleton] at hgrows
  omega

/-- Every printing byte of the text leaves the bound out of reach. -/
def Unbounded (value : Str) : Prop :=
  ∀ before c after, value = before ++ c :: after → 32 ≤ c.toNat →
    (laidOut before).length < 511

theorem unbounded_append_singleton {value : Str} {c : Char} :
    Unbounded (value ++ [c]) ↔
      Unbounded value ∧ (32 ≤ c.toNat → (laidOut value).length < 511) := by
  constructor
  · intro h
    refine ⟨fun before d after hsplit hd => ?_, h value c [] rfl⟩
    exact h before d (after ++ [c]) (by simp [hsplit]) hd
  · rintro ⟨hvalue, hc⟩ before d after hsplit hd
    rcases List.eq_nil_or_concat after with rfl | ⟨earlier, e, rfl⟩
    · obtain ⟨rfl, hsame⟩ := List.append_inj' hsplit rfl
      obtain rfl := (List.cons.inj hsame).1
      exact hc hd
    · rw [List.concat_eq_append, ← List.cons_append, ← List.append_assoc]
        at hsplit
      exact hvalue before d earlier (List.append_inj' hsplit rfl).1 hd

theorem cleanFrom_cases (rest : Str) {done : Str} (hdone : Unbounded done) :
    cleanFrom (laidOut done) rest = laidOut (done ++ rest) ∧
        Unbounded (done ++ rest) ∨
      ∃ before c after, done ++ rest = before ++ c :: after ∧
        32 ≤ c.toNat ∧ 511 ≤ (laidOut before).length ∧ Unbounded before ∧
        cleanFrom (laidOut done) rest = laidOut before ++ [c] := by
  induction rest generalizing done with
  | nil =>
      rw [List.append_nil]
      exact .inl ⟨rfl, hdone⟩
  | cons c rest ih =>
      by_cases hstop : 32 ≤ c.toNat ∧ 511 ≤ (laidOut done).length
      · obtain ⟨hprinted, hfull⟩ := hstop
        refine .inr ⟨done, c, rest, rfl, hprinted, hfull, hdone, ?_⟩
        have hreturn : c ≠ '\r' := by
          rintro rfl
          exact absurd hprinted (by decide)
        have hbreak : c ≠ '\n' := by
          rintro rfl
          exact absurd hprinted (by decide)
        have hlength : (laidOut done ++ [c]).length ≥ 512 := by
          rw [List.length_append, List.length_singleton]
          omega
        rw [cleanFrom, if_neg hreturn, if_neg hbreak,
          if_neg (not_lt.mpr hprinted), if_pos hlength]
      · have hopen : Unbounded (done ++ [c]) :=
          unbounded_append_singleton.mpr ⟨hdone, fun hprinted =>
            not_le.mp fun hfull => hstop ⟨hprinted, hfull⟩⟩
        have hgo : cleanFrom (laidOut done) (c :: rest) =
            cleanFrom (laidOut (done ++ [c])) rest := by
          rw [laidOut_append_singleton, cleanFrom, write]
          by_cases hbreak : c = '\n'
          · simp [hbreak]
          by_cases hcontrol : c.toNat < 32
          · simp [hbreak, hcontrol]
          have hreturn : c ≠ '\r' := by
            rintro rfl
            exact hcontrol (by decide)
          have hlength : ¬ (laidOut done ++ [c]).length ≥ 512 := by
            rw [List.length_append, List.length_singleton]
            omega
          rw [if_neg hreturn, if_neg hbreak, if_neg hcontrol,
            if_neg hlength, if_neg hbreak, if_neg hcontrol]
        have hsplit : done ++ c :: rest = done ++ [c] ++ rest := by simp
        rw [hgo, hsplit]
        exact ih hopen

/-- The loop either comes to the end of the text, or stops at the first
printing byte that reaches the bound. -/
theorem clean_cases (value : Str) :
    clean value = laidOut value ∧ Unbounded value ∨
      ∃ before c after, value = before ++ c :: after ∧ 32 ≤ c.toNat ∧
        511 ≤ (laidOut before).length ∧ Unbounded before ∧
        clean value = laidOut before ++ [c] := by
  have hnil : Unbounded [] := fun before c after hsplit => by
    simp at hsplit
  exact cleanFrom_cases value hnil

theorem exists_taken (value : Str) : ∃ taken rest, value = taken ++ rest ∧
    clean value = laidOut taken := by
  obtain ⟨hall, _⟩ | ⟨before, c, after, hsplit, hprinted, _, _, hstop⟩ :=
    clean_cases value
  · exact ⟨value, [], (List.append_nil value).symm, hall⟩
  · refine ⟨before ++ [c], after, by simp [hsplit], ?_⟩
    rw [hstop, laidOut_append_singleton, write_printed hprinted]

/-! ## The bytes that are written -/

def isVisible (c : Char) : Bool := 32 ≤ c.toNat && c.toNat ≠ 127

/-- A text is what was kept of another one, with separators put in. -/
inductive Spaced : Str → Str → Prop
  | nil : Spaced [] []
  | keep {kept text : Str} (c : Char) (h : Spaced kept text) :
      Spaced (kept ++ [c]) (text ++ [c])
  | separate {kept text : Str} (h : Spaced kept text) :
      Spaced kept (text ++ separator)

theorem spaced_laidOut (value : Str) :
    Spaced (value.filter fun c => 32 ≤ c.toNat) (laidOut value) := by
  induction value using List.reverseRecOn with
  | nil => exact .nil
  | append_singleton value c ih =>
      rw [laidOut_append_singleton, List.filter_append]
      by_cases hprinted : 32 ≤ c.toNat
      · rw [write_printed hprinted, List.filter_singleton,
          decide_eq_true hprinted, cond_true]
        exact .keep c ih
      · rw [List.filter_singleton, decide_eq_false hprinted, cond_false,
          List.append_nil, write, breakLine, if_pos (not_le.mp hprinted)]
        split_ifs
        · exact .separate ih
        · exact ih
        · exact ih

theorem mem_of_spaced {kept text : Str} {c : Char} (h : Spaced kept text)
    (hc : c ∈ text) : c ∈ kept ∨ c ∈ separator := by
  induction h with
  | nil => cases hc
  | keep d _ ih =>
      rcases List.mem_append.mp hc with hc | hc
      · exact (ih hc).imp_left (List.mem_append_left _)
      · exact .inl (List.mem_append_right _ hc)
  | separate _ ih =>
      rcases List.mem_append.mp hc with hc | hc
      · exact ih hc
      · exact .inr hc

theorem mem_of_mem_kept {kept text : Str} {c : Char} (h : Spaced kept text)
    (hc : c ∈ kept) : c ∈ text := by
  induction h with
  | nil => exact hc
  | keep d _ ih =>
      rcases List.mem_append.mp hc with hc | hc
      · exact List.mem_append_left _ (ih hc)
      · exact List.mem_append_right _ hc
  | separate _ ih => exact List.mem_append_left _ (ih hc)

theorem mem_laidOut {value : Str} {c : Char} (h : c ∈ laidOut value) :
    32 ≤ c.toNat ∧ (c.toNat = 127 → c ∈ value) := by
  rcases mem_of_spaced (spaced_laidOut value) h with hkept | hseparator
  · obtain ⟨hmem, hprinted⟩ := List.mem_filter.mp hkept
    exact ⟨by simpa using hprinted, fun _ => hmem⟩
  · have hrange : ∀ d ∈ separator, 32 ≤ d.toNat ∧ d.toNat ≠ 127 :=
      forall_mem_of_all (by decide)
    exact ⟨(hrange c hseparator).1, fun h => absurd h (hrange c hseparator).2⟩

theorem mem_laidOut_of_mem {value : Str} {c : Char} (h : c ∈ value)
    (hprinted : 32 ≤ c.toNat) : c ∈ laidOut value :=
  mem_of_mem_kept (spaced_laidOut value)
    (List.mem_filter.mpr ⟨h, by simpa using hprinted⟩)

theorem spaced_clean (value : Str) : ∃ kept, Spaced kept (clean value) ∧
    kept.filter isVisible <+: value.filter isVisible := by
  obtain ⟨taken, rest, hsplit, hclean⟩ := exists_taken value
  refine ⟨taken.filter fun c => 32 ≤ c.toNat, ?_, ?_⟩
  · rw [hclean]
    exact spaced_laidOut taken
  · have hvisible : (taken.filter fun c => 32 ≤ c.toNat).filter isVisible =
        taken.filter isVisible := by
      rw [List.filter_filter]
      refine List.filter_congr fun c _ => ?_
      simp only [isVisible, Bool.and_right_comm, Bool.and_self]
    rw [hvisible, hsplit, List.filter_append]
    exact List.prefix_append _ _

/-! ## When the bound holds -/

/-- A text gets past the bound at a line break only. -/
theorem exists_crossing {value : Str} (h : Unbounded value)
    (hlong : 512 ≤ (laidOut value).length) :
    ∃ before after, value = before ++ '\n' :: after ∧
      509 ≤ (laidOut before).length ∧ (laidOut before).length ≤ 511 ∧
      (laidOut before).getLast? ≠ some ' ' := by
  induction value using List.reverseRecOn with
  | nil => simp [laidOut] at hlong
  | append_singleton value c ih =>
      obtain ⟨hvalue, hc⟩ := unbounded_append_singleton.mp h
      by_cases hearlier : 512 ≤ (laidOut value).length
      · obtain ⟨before, after, rfl, hcrossing⟩ := ih hvalue hearlier
        exact ⟨before, after ++ [c], by simp, hcrossing⟩
      rw [laidOut_append_singleton] at hlong
      by_cases hprinted : 32 ≤ c.toNat
      · rw [write_printed hprinted, List.length_append,
          List.length_singleton] at hlong
        have hroom := hc hprinted
        omega
      · unfold write breakLine at hlong
        split_ifs at hlong with hbreak hend hcontrol
        · rw [List.length_append, separator] at hlong
          have hthree : " | ".toList.length = 3 := by decide
          exact ⟨value, [], by rw [hbreak], by omega, by omega, hend.2⟩
        · omega
        · omega
        · omega

theorem foldl_write_control {result rest : Str}
    (hend : result.getLast? = some ' ') (h : ∀ c ∈ rest, c.toNat < 32) :
    rest.foldl write result = result := by
  induction rest with
  | nil => rfl
  | cons c rest ih =>
      rw [List.forall_mem_cons] at h
      have hsame : write result c = result := by
        unfold write breakLine
        split_ifs with hbreak hblank
        · exact absurd hend hblank.2
        · rfl
        · rfl
        · exact absurd h.1 ‹_›
      rw [List.foldl_cons, hsame, ih h.2]

theorem laidOut_break {before : Str} (hlong : 509 ≤ (laidOut before).length)
    (hend : (laidOut before).getLast? ≠ some ' ') :
    laidOut (before ++ ['\n']) = laidOut before ++ separator := by
  have hne : laidOut before ≠ [] := by
    intro hempty
    rw [hempty] at hlong
    simp at hlong
  rw [laidOut_append_singleton, write, if_pos rfl, breakLine,
    if_pos ⟨hne, hend⟩]

/-- No separator is written with 509 to 511 bytes before it, except with 509
where nothing more is printed. -/
def BreaksInTime (value : Str) : Prop :=
  ∀ before after, value = before ++ '\n' :: after →
    509 ≤ (laidOut before).length → (laidOut before).length ≤ 511 →
    (laidOut before).getLast? = some ' ' ∨
      (laidOut before).length = 509 ∧ ∀ c ∈ after, c.toNat < 32

theorem length_clean_of_breaksInTime {value : Str} (h : BreaksInTime value) :
    (clean value).length ≤ 512 := by
  obtain ⟨hall, hopen⟩ |
      ⟨bound, c, rest, hsplit, hprinted, _, hopen, hstop⟩ := clean_cases value
  · rw [hall]
    by_contra hlong
    obtain ⟨before, after, rfl, hlow, hhigh, hend⟩ :=
      exists_crossing hopen (by omega)
    obtain hblank | ⟨hlength, hcontrol⟩ := h before after rfl hlow hhigh
    · exact hend hblank
    · have hbreak := laidOut_break hlow hend
      have hfinal : laidOut (before ++ '\n' :: after) =
          laidOut before ++ separator := by
        have hsplit : before ++ '\n' :: after =
            before ++ ['\n'] ++ after := by simp
        rw [hsplit, laidOut, List.foldl_append, ← laidOut, hbreak]
        exact foldl_write_control (by simp [separator]) hcontrol
      rw [hfinal, List.length_append, hlength] at hlong
      exact hlong (by decide)
  · rw [hstop, List.length_append, List.length_singleton]
    by_contra hlong
    obtain ⟨before, after, rfl, hlow, hhigh, hend⟩ :=
      exists_crossing hopen (by omega)
    obtain hblank | ⟨_, hcontrol⟩ :=
      h before (after ++ c :: rest) (by simp [hsplit]) hlow hhigh
    · exact hend hblank
    · exact absurd (hcontrol c (by simp)) (not_lt.mpr hprinted)

theorem breaksInTime_of_length_clean {value : Str}
    (h : (clean value).length ≤ 512) : BreaksInTime value := by
  intro before after hvalue hlow hhigh
  rw [or_iff_not_imp_left]
  intro hend
  have hbreak : (laidOut (before ++ ['\n'])).length =
      (laidOut before).length + 3 := by
    rw [laidOut_break hlow hend, List.length_append]
    rfl
  obtain ⟨hall, hopen⟩ | ⟨bound, c, rest, hsplit, hprinted, hfull, _, hstop⟩ :=
    clean_cases value
  · have hsplit : value = before ++ ['\n'] ++ after := by simp [hvalue]
    have hgrows := length_laidOut_le (before ++ ['\n']) after
    rw [← hsplit, ← hall] at hgrows
    refine ⟨by omega, fun c hc => ?_⟩
    by_contra hprinted
    obtain ⟨earlier, later, rfl⟩ := List.append_of_mem hc
    have hroom := hopen (before ++ ['\n'] ++ earlier) c later
      (by simp [hvalue]) (not_lt.mp hprinted)
    have hmore := length_laidOut_le (before ++ ['\n']) earlier
    omega
  · -- the loop stops before the break, or gets past the bound at it
    rw [hstop, List.length_append, List.length_singleton] at h
    obtain ⟨middle, rfl⟩ | ⟨rfl, rfl⟩ | ⟨middle, rfl⟩ :=
      split_cases (hsplit.symm.trans hvalue)
    · have hgrows := length_laidOut_le (before ++ ['\n']) middle
      omega
    · exact absurd hprinted (by decide)
    · have hfull := full_of_printed hprinted hfull middle
      omega

/-! ## Clean banners -/

/-- At most 512 bytes, none of them a control character, and the visible ones
in order from the start of the text, apart from separators. -/
structure IsClean (value result : Str) : Prop where
  bounded : result.length ≤ 512
  no_control : ∀ c ∈ result, 32 ≤ c.toNat ∧ c.toNat ≠ 127
  in_order : ∃ kept, Spaced kept result ∧
    kept.filter isVisible <+: value.filter isVisible

/-- A byte 127 is read only once 512 bytes are written. -/
def DeletesLate (value : Str) : Prop :=
  ∀ before after, value = before ++ '\x7f' :: after →
    512 ≤ (laidOut before).length

theorem eq_delete {c : Char} (h : c.toNat = 127) : c = '\x7f' := by
  rw [← Char.ofNat_toNat c, h]

theorem deletesLate_of_notMem {value : Str} (h : '\x7f' ∉ clean value) :
    DeletesLate value := by
  intro before after hvalue
  obtain ⟨hall, _⟩ | ⟨bound, c, rest, hsplit, hprinted, hfull, _, hstop⟩ :=
    clean_cases value
  · rw [hall, hvalue] at h
    exact absurd (mem_laidOut_of_mem (by simp) (by decide)) h
  · have hbound : '\x7f' ∉ bound ++ [c] := by
      intro hmem
      refine h ?_
      rw [hstop, ← write_printed hprinted, ← laidOut_append_singleton]
      exact mem_laidOut_of_mem hmem (by decide)
    -- before the loop stops, the byte is written
    obtain ⟨middle, rfl⟩ | ⟨_, rfl⟩ | ⟨middle, rfl⟩ :=
      split_cases (hsplit.symm.trans hvalue)
    · exact absurd (by simp) hbound
    · exact absurd (by simp) hbound
    · exact full_of_printed hprinted hfull middle

theorem notMem_of_deletesLate {value : Str} (h : DeletesLate value)
    (hlength : (clean value).length ≤ 512) : '\x7f' ∉ clean value := by
  intro hmem
  obtain ⟨hall, hopen⟩ | ⟨bound, c, rest, hsplit, hprinted, _, hopen, hstop⟩ :=
    clean_cases value
  · rw [hall] at hmem
    obtain ⟨before, after, hvalue⟩ :=
      List.append_of_mem ((mem_laidOut hmem).2 (by decide))
    have hlate := h before after hvalue
    have hroom := hopen before _ after hvalue (by decide)
    omega
  · rw [hstop, List.length_append, List.length_singleton] at hlength
    rw [hstop] at hmem
    rcases List.mem_append.mp hmem with hmem | hmem
    · obtain ⟨before, after, rfl⟩ :=
        List.append_of_mem ((mem_laidOut hmem).2 (by decide))
      have hlate := h before (after ++ c :: rest) (by simp [hsplit])
      have hroom := hopen before _ after rfl (by decide)
      omega
    · obtain rfl := List.mem_singleton.mp hmem
      have hlate := h bound rest hsplit
      omega

/-- A banner is clean exactly if no separator carries it past the bound and no
byte 127 is among those that are read. -/
theorem isClean_clean_iff (value : Str) :
    IsClean value (clean value) ↔ BreaksInTime value ∧ DeletesLate value := by
  constructor
  · intro h
    refine ⟨breaksInTime_of_length_clean h.bounded, deletesLate_of_notMem ?_⟩
    exact fun hmem => (h.no_control _ hmem).2 (by decide)
  · rintro ⟨hbreaks, hdeletes⟩
    have hlength := length_clean_of_breaksInTime hbreaks
    refine ⟨hlength, fun c hc => ⟨?_, fun hdelete => ?_⟩, spaced_clean value⟩
    · obtain ⟨taken, _, _, hclean⟩ := exists_taken value
      rw [hclean] at hc
      exact (mem_laidOut hc).1
    · rw [eq_delete hdelete] at hc
      exact notMem_of_deletesLate hdeletes hlength hc

/-- A line of 510 bytes gets past the bound with the separator behind it, and
a byte 127 is handed on. -/
theorem clean_not_isClean :
    (clean (List.replicate 510 'a' ++ "\n".toList)).length = 513 ∧
      clean "a\x7fb".toList = "a\x7fb".toList ∧
      ¬ ∀ value, IsClean value (clean value) := by
  have hlong :
      (clean (List.replicate 510 'a' ++ "\n".toList)).length = 513 := by
    decide +kernel
  refine ⟨hlong, by decide, fun h => ?_⟩
  have hbound := (h (List.replicate 510 'a' ++ "\n".toList)).bounded
  omega

end SlipNet.Network
