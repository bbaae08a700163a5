import Mathlib.Data.List.DropRight
import Mathlib.Data.List.TakeWhile

/-!
# Standard strings

The part of the C++ standard library's strings that the modelled code uses.  A
`std::string` is the list of its bytes, the byte `b` written as the character
with code `b`; every function is total on all characters.  Character classes
and case conversion are those of the `"C"` locale, the only one the program
runs in.
-/

namespace SlipNet.Standard

/-- A `std::string`. -/
abbrev Str := List Char

/-- A `double`, kept as its bit pattern: the modelled code copies and prints
doubles and computes with none of them. -/
structure Double where
  bits : UInt64
  deriving DecidableEq, Repr

def Double.zero : Double := ⟨0⟩

/-! ## Character classes and case -/

def isspace (c : Char) : Bool :=
  c = ' ' || c = '\t' || c = '\n' || c = '\x0b' || c = '\x0c' || c = '\r'

def isdigit (c : Char) : Bool := c.isDigit

/-- `std::transform` of a string with `std::tolower`. -/
def lower (value : Str) : Str := value.map Char.toLower

/-- `std::transform` of a string with `std::toupper`. -/
def upper (value : Str) : Str := value.map Char.toUpper

/-! ## Searching -/

/-- `value.find(c)`; `none` is `npos`. -/
def findChar (c : Char) (value : Str) : Option Nat :=
  value.findIdx? (· = c)

/-- `value.rfind(prefix, 0) == 0`. -/
def startsWith (value start : Str) : Bool := start.isPrefixOf value

/-- `value.find(search)`; `none` is `npos`. -/
def find (search : Str) : Str → Option Nat
  | [] => if search = [] then some 0 else none
  | c :: rest =>
      if startsWith (c :: rest) search then some 0
      else (find search rest).map (· + 1)

/-- Lower-case `search` occurs in lower-case `value`. -/
def contains (value search : Str) : Bool :=
  (find (lower search) (lower value)).isSome

theorem findChar_append {c : Char} {before : Str} (h : c ∉ before)
    (after : Str) :
    findChar c (before ++ c :: after) = some before.length := by
  have hbefore : before.findIdx? (· = c) = none := by
    rw [List.findIdx?_eq_none_iff]
    intro x hx
    have hne : x ≠ c := fun e => h (e ▸ hx)
    simpa using hne
  simp [findChar, List.findIdx?_append, hbefore, List.findIdx?_cons]

theorem findChar_eq_none_iff {c : Char} {value : Str} :
    findChar c value = none ↔ c ∉ value := by
  simp only [findChar, List.findIdx?_eq_none_iff, decide_eq_false_iff_not]
  exact ⟨fun h hc => h c hc rfl, fun h x hx e => h (e ▸ hx)⟩

theorem exists_split_of_findChar {c : Char} {value : Str} {i : Nat}
    (h : findChar c value = some i) :
    ∃ before after, value = before ++ c :: after ∧ c ∉ before ∧
      before.length = i := by
  induction value generalizing i with
  | nil => simp [findChar] at h
  | cons x rest ih =>
      by_cases hx : x = c
      · subst hx
        have hi : 0 = i := by simpa [findChar, List.findIdx?_cons] using h
        exact ⟨[], rest, by simp, by simp, hi⟩
      · have hrest : (findChar c rest).map (· + 1) = some i := by
          simpa [findChar, List.findIdx?_cons, hx] using h
        obtain ⟨j, hj, rfl⟩ := Option.map_eq_some_iff.mp hrest
        obtain ⟨before, after, rfl, hnot, hlen⟩ := ih hj
        exact ⟨x :: before, after, by simp,
          by simp [Ne.symm hx, hnot], by simp [hlen]⟩

theorem append_cons_inj {c : Char} {before before' after after' : Str}
    (h : c ∉ before) (h' : c ∉ before')
    (heq : before ++ c :: after = before' ++ c :: after') :
    before = before' ∧ after = after' := by
  have hlength := findChar_append h after
  rw [heq, findChar_append h' after'] at hlength
  obtain ⟨rfl, htail⟩ := List.append_inj heq (Option.some.inj hlength).symm
  exact ⟨rfl, (List.cons.inj htail).2⟩

theorem forall_mem_of_all {p : Char → Prop} [DecidablePred p] {text : Str}
    (h : (text.all fun c => p c) = true) : ∀ c ∈ text, p c := by
  simpa using h

/-! ## Trimming -/

/-- Leading and trailing white space erased one character at a time. -/
def trim (value : Str) : Str :=
  (value.dropWhile isspace).rdropWhile isspace

/-! ## C strings -/

/-- The characters a C function reads from `value.c_str()`. -/
def cStr (value : Str) : Str := value.takeWhile (· ≠ '\x00')

theorem cStr_eq_self {value : Str} (h : '\x00' ∉ value) :
    cStr value = value := by
  rw [cStr, List.takeWhile_eq_self_iff]
  intro c hc
  have hne : c ≠ '\x00' := fun e => h (e ▸ hc)
  simpa using hne

/-! ## Reading lines -/

/-- The pieces successive `std::getline(stream, piece, delimiter)` calls
return.  A delimiter at the very end starts no further piece. -/
def getlines (delimiter : Char) : Str → List Str
  | [] => []
  | c :: rest =>
      if c = delimiter then [] :: getlines delimiter rest
      else
        match getlines delimiter rest with
        | [] => [[c]]
        | piece :: pieces => (c :: piece) :: pieces

theorem getlines_append_cons {delimiter : Char} {piece : Str}
    (h : delimiter ∉ piece) (rest : Str) :
    getlines delimiter (piece ++ delimiter :: rest) =
      piece :: getlines delimiter rest := by
  induction piece with
  | nil => simp [getlines]
  | cons c piece ih =>
      rw [List.mem_cons, not_or] at h
      simp [getlines, Ne.symm h.1, ih h.2]

theorem getlines_of_notMem {delimiter : Char} {piece : Str}
    (h : delimiter ∉ piece) (hne : piece ≠ []) :
    getlines delimiter piece = [piece] := by
  induction piece with
  | nil => exact absurd rfl hne
  | cons c piece ih =>
      rw [List.mem_cons, not_or] at h
      cases piece with
      | nil => simp [getlines, Ne.symm h.1]
      | cons d piece =>
          rw [getlines, if_neg (Ne.symm h.1), ih h.2 (by simp)]

theorem getlines_eq_nil {delimiter : Char} {value : Str} :
    getlines delimiter value = [] ↔ value = [] := by
  cases value with
  | nil => simp [getlines]
  | cons c rest =>
      rw [getlines]
      split
      · simp
      · split <;> simp

theorem of_getlines_cons {delimiter : Char} {value piece : Str}
    {pieces : List Str} (h : getlines delimiter value = piece :: pieces) :
    delimiter ∉ piece ∧ (value = piece ∧ pieces = [] ∨
      ∃ rest, value = piece ++ delimiter :: rest ∧
        getlines delimiter rest = pieces) := by
  induction value generalizing piece with
  | nil => simp [getlines] at h
  | cons c rest ih =>
      rw [getlines] at h
      split_ifs at h with hc
      · obtain ⟨rfl, rfl⟩ := List.cons.inj h
        exact ⟨by simp, .inr ⟨rest, by simp [hc], rfl⟩⟩
      · cases hrest : getlines delimiter rest with
        | nil =>
            rw [hrest] at h
            obtain ⟨rfl, rfl⟩ := List.cons.inj h
            rw [getlines_eq_nil.mp hrest]
            exact ⟨by simpa using Ne.symm hc, .inl ⟨rfl, rfl⟩⟩
        | cons first others =>
            rw [hrest] at h
            obtain ⟨rfl, rfl⟩ := List.cons.inj h
            obtain ⟨hnot, hend | ⟨tail, htail, hothers⟩⟩ := ih hrest
            · exact ⟨by simp [Ne.symm hc, hnot],
                .inl ⟨by rw [hend.1], hend.2⟩⟩
            · exact ⟨by simp [Ne.symm hc, hnot],
                .inr ⟨tail, by simp [htail], hothers⟩⟩

theorem mem_of_mem_getlines {delimiter c : Char} {value : Str}
    (h : c ∈ value) (hc : c ≠ delimiter) :
    ∃ piece ∈ getlines delimiter value, c ∈ piece := by
  induction value with
  | nil => simp at h
  | cons d rest ih =>
      rw [getlines]
      split
      · next hd =>
          subst hd
          obtain ⟨piece, hpiece, hmem⟩ := ih (List.mem_of_ne_of_mem hc h)
          exact ⟨piece, List.mem_cons_of_mem _ hpiece, hmem⟩
      · split
        · next hnil =>
            rcases List.mem_cons.mp h with rfl | hrest
            · exact ⟨[c], by simp, by simp⟩
            · obtain ⟨piece, hpiece, _⟩ := ih hrest
              simp [hnil] at hpiece
        · next piece pieces hpieces =>
            rcases List.mem_cons.mp h with rfl | hrest
            · exact ⟨c :: piece, by simp, by simp⟩
            · obtain ⟨other, hother, hmem⟩ := ih hrest
              rw [hpieces, List.mem_cons] at hother
              rcases hother with rfl | hother
              · exact ⟨d :: other, by simp, by simp [hmem]⟩
              · exact ⟨other, by simp [hother], hmem⟩

/-! ## Reading words -/

/-- The tokens that repeated `stream >> token` extracts, with the characters
of the current token so far. -/
def wordsFrom (token : Str) : Str → List Str
  | [] => if token = [] then [] else [token]
  | c :: rest =>
      if isspace c then
        if token = [] then wordsFrom [] rest else token :: wordsFrom [] rest
      else wordsFrom (token ++ [c]) rest

def words (value : Str) : List Str := wordsFrom [] value

theorem of_mem_wordsFrom {value token word : Str}
    (htoken : ∀ c ∈ token, isspace c = false)
    (h : word ∈ wordsFrom token value) :
    word ≠ [] ∧ ∀ c ∈ word, isspace c = false := by
  induction value generalizing token with
  | nil =>
      rw [wordsFrom] at h
      split_ifs at h with hempty
      · simp at h
      · rw [List.mem_singleton] at h
        exact h ▸ ⟨hempty, htoken⟩
  | cons c rest ih =>
      rw [wordsFrom] at h
      split_ifs at h with hspace hempty
      · exact ih (by simp) h
      · rcases List.mem_cons.mp h with rfl | h
        · exact ⟨hempty, htoken⟩
        · exact ih (by simp) h
      · refine ih ?_ h
        intro d hd
        rcases List.mem_append.mp hd with hd | hd
        · exact htoken d hd
        · rw [List.mem_singleton.mp hd]
          simpa using hspace

theorem of_mem_words {value word : Str} (h : word ∈ words value) :
    word ≠ [] ∧ ∀ c ∈ word, isspace c = false :=
  of_mem_wordsFrom (by simp) h

end SlipNet.Standard
