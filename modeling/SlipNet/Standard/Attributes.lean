import SlipNet.Standard.Searching
import SlipNet.Standard.Words

/-!
# Words behind a key

A line of words can state values behind keys, as in `name key value`.  The text
behind the first key with a blank on either side starts with its value, so a
search for the key between blanks finds what a reader of words finds.
-/

namespace SlipNet.Standard

def wordAfter (key : Str) : List Str → Option Str
  | [] => none
  | word :: rest => if word = key then rest.head? else wordAfter key rest

/-- The words of a line that a blank stands before. -/
def attributes (line : Str) : List Str := words (line.dropWhile (· ≠ ' '))

/-- All white space of the text is blanks. -/
def IsLine (line : Str) : Prop := ∀ c ∈ line, isspace c = true → c = ' '

def between (key : Str) : Str := ' ' :: key ++ [' ']

theorem isspace_blank : isspace ' ' = true := by decide

theorem attributes_append {first : Str} (h : ' ' ∉ first) (tail : Str) :
    attributes (first ++ ' ' :: tail) = words tail := by
  rw [attributes, dropWhile_append_cons h, words_cons isspace_blank]

theorem attributes_of_notMem {line : Str} (h : ' ' ∉ line) :
    attributes line = [] := by
  rw [attributes, dropWhile_of_notMem h]
  rfl

theorem mem_of_wordAfter {key word : Str} {text : List Str}
    (h : wordAfter key text = some word) : word ∈ text := by
  induction text with
  | nil => cases h
  | cons first rest ih =>
      rw [wordAfter] at h
      split at h
      · exact List.mem_cons_of_mem _ (List.mem_of_head? h)
      · exact List.mem_cons_of_mem _ (ih h)

theorem isToken_of_wordAfter {key line word : Str}
    (h : wordAfter key (attributes line) = some word) : IsToken word :=
  isToken_of_mem_words (mem_of_wordAfter h)

/-! ## The search for a key between blanks -/

theorem behind_cons_of_startsWith {search value : Str} {c : Char}
    (h : startsWith (c :: value) search = true) :
    behind search (c :: value) =
      some ((c :: value).drop search.length) := by
  rw [behind, find, if_pos h, Option.map_some, Nat.zero_add]

theorem behind_cons {search value : Str} {c : Char}
    (h : startsWith (c :: value) search = false) :
    behind search (c :: value) = behind search value := by
  rw [behind, find, if_neg (by simp [h]), behind, Option.map_map]
  refine congrArg (Option.map · _) (funext fun position => ?_)
  simp [Nat.add_right_comm]

theorem startsWith_between {c : Char} {key value : Str} :
    startsWith (c :: value) (between key) = true ↔
      c = ' ' ∧ ∃ rest, value = key ++ ' ' :: rest := by
  rw [startsWith, List.isPrefixOf_iff_prefix, between, List.cons_append,
    List.cons_prefix_cons]
  constructor
  · rintro ⟨hblank, rest, hrest⟩
    exact ⟨hblank.symm, rest, by simp [← hrest]⟩
  · rintro ⟨hblank, rest, hrest⟩
    exact ⟨hblank.symm, rest, by simp [hrest]⟩

theorem behind_between_append {first : Str} (h : ' ' ∉ first)
    (key tail : Str) :
    behind (between key) (first ++ ' ' :: tail) =
      behind (between key) (' ' :: tail) := by
  induction first with
  | nil => rfl
  | cons c first ih =>
      rw [List.mem_cons, not_or] at h
      have hstart : startsWith (c :: (first ++ ' ' :: tail)) (between key) =
          false := by
        rw [Bool.eq_false_iff, Ne, startsWith_between]
        exact fun hc => h.1 hc.1.symm
      rw [List.cons_append, behind_cons hstart, ih h.2]

theorem behind_between_of_notMem {line : Str} (h : ' ' ∉ line) (key : Str) :
    behind (between key) line = none :=
  behind_eq_none_iff.mpr (find_eq_none_of_mem (c := ' ') (by simp [between]) h)

theorem solid_of_isLine {piece : Str} (h : IsLine piece)
    (hblank : ' ' ∉ piece) : ∀ c ∈ piece, isspace c = false := by
  intro c hc
  by_contra hspace
  exact hblank (h c hc (by simpa using hspace) ▸ hc)

theorem wordAfter_words {key tail : Str} (hline : IsLine tail)
    (hkey : ¬ ∃ rest, tail = key ++ ' ' :: rest) :
    wordAfter key (words tail) = wordAfter key (attributes tail) := by
  by_cases hblank : ' ' ∈ tail
  · obtain ⟨first, rest, rfl, hfirst⟩ := List.eq_append_cons_of_mem hblank
    have hsolid : ∀ c ∈ first, isspace c = false :=
      solid_of_isLine (fun c hc => hline c (List.mem_append_left _ hc)) hfirst
    have hne : first ≠ key := fun hsame => hkey ⟨rest, by rw [hsame]⟩
    rw [attributes_append hfirst, words_append_cons isspace_blank,
      words_of_solid hsolid]
    split
    · rfl
    · rw [List.singleton_append, wordAfter, if_neg hne]
  · rw [attributes_of_notMem hblank,
      words_of_solid (solid_of_isLine hline hblank)]
    split
    · rfl
    · simp [wordAfter]

/-- Searching for the key between blanks and reading the words of the line
find one value. -/
theorem wordAfter_attributes {key line : Str} (hkey : IsToken key)
    (hline : IsLine line) :
    wordAfter key (attributes line) =
      (behind (between key) line).bind fun rest => (words rest).head? := by
  induction hlength : line.length using Nat.strong_induction_on
    generalizing line with
  | _ length ih =>
      by_cases hblank : ' ' ∈ line
      · obtain ⟨first, tail, rfl, hfirst⟩ := List.eq_append_cons_of_mem hblank
        have htail : IsLine tail := fun c hc => hline c (by simp [hc])
        rw [attributes_append hfirst, behind_between_append hfirst]
        by_cases hhere : ∃ rest, tail = key ++ ' ' :: rest
        · obtain ⟨rest, rfl⟩ := id hhere
          rw [behind_cons_of_startsWith (startsWith_between.mpr ⟨rfl, hhere⟩),
            words_append_cons isspace_blank, words_of_isToken hkey,
            List.singleton_append, wordAfter, if_pos rfl]
          simp [between]
        · have hstart : startsWith (' ' :: tail) (between key) = false := by
            rw [Bool.eq_false_iff, Ne, startsWith_between]
            exact fun h => hhere h.2
          rw [behind_cons hstart, wordAfter_words htail hhere]
          refine ih tail.length ?_ htail rfl
          rw [← hlength, List.length_append, List.length_cons]
          omega
      · rw [attributes_of_notMem hblank, behind_between_of_notMem hblank]
        rfl

end SlipNet.Standard
