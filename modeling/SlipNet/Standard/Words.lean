import SlipNet.Standard.Strings

/-!
# Words and the white space between them

White space separates the words of a text and is otherwise of no account, so
reading the words of a text inverts writing them, however they are spaced.
-/

namespace SlipNet.Standard

def IsBlank (text : Str) : Prop := ∀ c ∈ text, isspace c = true

/-- A text that `stream >> token` extracts whole. -/
structure IsToken (text : Str) : Prop where
  ne_nil : text ≠ []
  solid : ∀ c ∈ text, isspace c = false

instance : DecidablePred IsBlank := fun text =>
  decidable_of_iff (text.all isspace = true) List.all_eq_true

instance : DecidablePred IsToken := fun text =>
  decidable_of_iff (text ≠ [] ∧ text.all (!isspace ·) = true)
    ⟨fun h => ⟨h.1, by simpa using h.2⟩, fun h => ⟨h.ne_nil, by
      simpa using h.solid⟩⟩

theorem isToken_of_mem_words {value word : Str} (h : word ∈ words value) :
    IsToken word :=
  ⟨(of_mem_words h).1, (of_mem_words h).2⟩

theorem wordsFrom_append {word : Str} (h : ∀ c ∈ word, isspace c = false)
    (token rest : Str) :
    wordsFrom token (word ++ rest) = wordsFrom (token ++ word) rest := by
  induction word generalizing token with
  | nil => simp
  | cons c word ih =>
      rw [List.forall_mem_cons] at h
      rw [List.cons_append, wordsFrom, h.1, if_neg Bool.false_ne_true,
        ih h.2, List.append_assoc, List.singleton_append]

theorem wordsFrom_append_cons {b : Char} (hb : isspace b = true)
    (token before rest : Str) :
    wordsFrom token (before ++ b :: rest) =
      wordsFrom token before ++ words rest := by
  induction before generalizing token with
  | nil =>
      simp only [List.nil_append, wordsFrom, if_pos hb]
      split <;> rfl
  | cons c before ih =>
      rw [List.cons_append, wordsFrom, wordsFrom]
      split
      · split
        · exact ih []
        · rw [ih [], List.cons_append]
      · exact ih (token ++ [c])

theorem words_append_cons {b : Char} (hb : isspace b = true)
    (before rest : Str) :
    words (before ++ b :: rest) = words before ++ words rest :=
  wordsFrom_append_cons hb [] before rest

theorem words_cons {b : Char} (hb : isspace b = true) (rest : Str) :
    words (b :: rest) = words rest :=
  words_append_cons hb [] rest

theorem words_of_isBlank_append {blank : Str} (h : IsBlank blank)
    (rest : Str) : words (blank ++ rest) = words rest := by
  induction blank with
  | nil => rfl
  | cons b blank ih =>
      obtain ⟨hb, hblank⟩ := List.forall_mem_cons.mp h
      rw [List.cons_append, words_cons hb, ih hblank]

theorem words_of_isBlank {blank : Str} (h : IsBlank blank) :
    words blank = [] := by
  have hwords := words_of_isBlank_append h []
  rwa [List.append_nil] at hwords

theorem words_of_isToken {word : Str} (h : IsToken word) :
    words word = [word] := by
  have hread := wordsFrom_append h.solid [] []
  rw [List.append_nil, List.nil_append, wordsFrom, if_neg h.ne_nil] at hread
  exact hread

theorem words_of_solid {piece : Str} (h : ∀ c ∈ piece, isspace c = false) :
    words piece = if piece = [] then [] else [piece] := by
  split
  · next hempty => rw [hempty]; rfl
  · next hne => exact words_of_isToken ⟨hne, h⟩

theorem words_isToken_append {word gap : Str} (hword : IsToken word)
    (hgap : IsBlank gap) (hne : gap ≠ []) (rest : Str) :
    words (word ++ (gap ++ rest)) = word :: words rest := by
  cases gap with
  | nil => exact absurd rfl hne
  | cons b gap =>
      obtain ⟨hb, hgap⟩ := List.forall_mem_cons.mp hgap
      rw [List.cons_append, words_append_cons hb, words_of_isToken hword,
        words_of_isBlank_append hgap, List.singleton_append]

/-! ## White space at the ends -/

theorem trim_append_space {c : Char} (h : isspace c = true) (value : Str) :
    trim (value ++ [c]) = trim value := by
  rw [trim, trim, List.dropWhile_append]
  split
  · next hempty =>
      rw [List.isEmpty_iff] at hempty
      simp [hempty, h]
  · rw [List.rdropWhile_concat_pos _ _ _ h]

theorem trim_append_of_isBlank {blank : Str} (h : IsBlank blank)
    (value : Str) : trim (value ++ blank) = trim value := by
  induction blank generalizing value with
  | nil => rw [List.append_nil]
  | cons c blank ih =>
      obtain ⟨hc, hblank⟩ := List.forall_mem_cons.mp h
      rw [← List.singleton_append, ← List.append_assoc, ih hblank,
        trim_append_space hc]

theorem trim_of_isBlank_append {blank : Str} (h : IsBlank blank)
    (value : Str) : trim (blank ++ value) = trim value := by
  rw [trim, List.dropWhile_append_of_pos h]
  rfl

/-- The core is the text but for white space at its ends. -/
def Pads (core text : Str) : Prop :=
  ∃ left right, IsBlank left ∧ IsBlank right ∧ text = left ++ core ++ right

theorem trim_of_pads {core text : Str} (h : Pads core text) :
    trim text = trim core := by
  obtain ⟨left, right, hleft, hright, rfl⟩ := h
  rw [trim_append_of_isBlank hright, trim_of_isBlank_append hleft]

theorem pads_trim (text : Str) : Pads (trim text) text := by
  refine ⟨text.takeWhile isspace,
    (text.dropWhile isspace).rtakeWhile isspace,
    fun c hc => List.mem_takeWhile_imp hc,
    fun c hc => List.mem_rtakeWhile_imp hc, ?_⟩
  rw [trim, List.append_assoc, List.rdropWhile_append_rtakeWhile,
    List.takeWhile_append_dropWhile]

theorem trim_eq_trim_iff {a b : Str} :
    trim a = trim b ↔ ∃ core, Pads core a ∧ Pads core b := by
  constructor
  · exact fun h => ⟨trim a, pads_trim a, h ▸ pads_trim b⟩
  · rintro ⟨core, ha, hb⟩
    rw [trim_of_pads ha, trim_of_pads hb]

theorem trim_eq_nil_iff {text : Str} : trim text = [] ↔ IsBlank text := by
  constructor
  · intro h
    obtain ⟨left, right, hleft, hright, htext⟩ := pads_trim text
    rw [h, List.append_nil] at htext
    rw [htext]
    exact List.forall_mem_append.mpr ⟨hleft, hright⟩
  · intro h
    have htrim := trim_append_of_isBlank h []
    rwa [List.nil_append] at htrim

end SlipNet.Standard
