import Mathlib.Data.List.Basic

/-!
# Words and operators

A text is split at blanks and operators.  A word is a longest run of the other
characters, and every operator is a token of its own.
-/

namespace SlipNet.Foundation

inductive CharKind
  | blank
  | operator
  | plain
  deriving DecidableEq, Repr

inductive Token (α : Type)
  | word (text : List α)
  | operator (c : α)
  deriving DecidableEq, Repr

section
variable {α : Type} {kind : α → CharKind}

def endWord : List α → List (Token α)
  | [] => []
  | c :: text => [.word (c :: text)]

def tokensFrom (kind : α → CharKind) (text : List α) :
    List α → List (Token α)
  | [] => endWord text
  | c :: rest =>
      match kind c with
      | .blank => endWord text ++ tokensFrom kind [] rest
      | .operator => endWord text ++ .operator c :: tokensFrom kind [] rest
      | .plain => tokensFrom kind (text ++ [c]) rest

def tokens (kind : α → CharKind) (value : List α) : List (Token α) :=
  tokensFrom kind [] value

/-- A text that is one token when it stands alone. -/
def IsWord (kind : α → CharKind) (text : List α) : Prop :=
  text ≠ [] ∧ ∀ c ∈ text, kind c = .plain

instance [DecidableEq α] (kind : α → CharKind) :
    DecidablePred (IsWord kind) := fun _ =>
  inferInstanceAs (Decidable (_ ∧ _))

theorem of_mem_endWord {text word : List α} (h : .word word ∈ endWord text) :
    word = text ∧ text ≠ [] := by
  cases text with
  | nil => simp [endWord] at h
  | cons c text => simpa [endWord] using h

theorem endWord_of_ne_nil {text : List α} (h : text ≠ []) :
    endWord text = [.word text] := by
  cases text with
  | nil => exact absurd rfl h
  | cons c text => rfl

theorem of_mem_tokensFrom {text value word : List α}
    (htext : ∀ c ∈ text, kind c = .plain)
    (h : .word word ∈ tokensFrom kind text value) :
    IsWord kind word ∧ ∀ c ∈ word, c ∈ text ∨ c ∈ value := by
  induction value generalizing text with
  | nil =>
      obtain ⟨rfl, hne⟩ := of_mem_endWord h
      exact ⟨⟨hne, htext⟩, fun c hc => .inl hc⟩
  | cons d rest ih =>
      have hnow (h : .word word ∈ endWord text) :
          IsWord kind word ∧ ∀ c ∈ word, c ∈ text ∨ c ∈ d :: rest := by
        obtain ⟨rfl, hne⟩ := of_mem_endWord h
        exact ⟨⟨hne, htext⟩, fun c hc => .inl hc⟩
      have hlater (h : .word word ∈ tokensFrom kind [] rest) :
          IsWord kind word ∧ ∀ c ∈ word, c ∈ text ∨ c ∈ d :: rest := by
        obtain ⟨hword, hmem⟩ := ih (by simp) h
        refine ⟨hword, fun c hc => .inr (List.mem_cons_of_mem d ?_)⟩
        simpa using hmem c hc
      rw [tokensFrom] at h
      split at h
      · exact (List.mem_append.mp h).elim hnow hlater
      · rw [List.mem_append, List.mem_cons] at h
        rcases h with h | h | h
        · exact hnow h
        · cases h
        · exact hlater h
      · next hplain =>
          have htext' : ∀ c ∈ text ++ [d], kind c = .plain := by
            intro c hc
            rcases List.mem_append.mp hc with hc | hc
            · exact htext c hc
            · rw [List.mem_singleton.mp hc, hplain]
          obtain ⟨hword, hmem⟩ := ih htext' h
          refine ⟨hword, fun c hc => ?_⟩
          simpa [or_assoc] using hmem c hc

theorem of_mem_tokens {value word : List α}
    (h : .word word ∈ tokens kind value) :
    IsWord kind word ∧ ∀ c ∈ word, c ∈ value := by
  obtain ⟨hword, hmem⟩ := of_mem_tokensFrom (by simp) h
  exact ⟨hword, fun c hc => by simpa using hmem c hc⟩

theorem tokensFrom_append {word : List α} (h : ∀ c ∈ word, kind c = .plain)
    (text rest : List α) :
    tokensFrom kind text (word ++ rest) =
      tokensFrom kind (text ++ word) rest := by
  induction word generalizing text with
  | nil => simp
  | cons c word ih =>
      have hrest := ih (fun d hd => h d (List.mem_cons_of_mem c hd))
        (text ++ [c])
      rw [List.append_assoc, List.singleton_append] at hrest
      rw [List.cons_append, tokensFrom, h c (by simp)]
      exact hrest

theorem tokens_word_blank {word : List α} {b : α} (hword : IsWord kind word)
    (hblank : kind b = .blank) (rest : List α) :
    tokens kind (word ++ b :: rest) = .word word :: tokens kind rest := by
  rw [tokens, tokensFrom_append hword.2, tokensFrom, hblank]
  simp [endWord_of_ne_nil hword.1, tokens]

/-- Words that a blank follows are read back one by one. -/
theorem tokens_words {words : List (List α)} {b : α}
    (hwords : ∀ word ∈ words, IsWord kind word) (hblank : kind b = .blank)
    (rest : List α) :
    tokens kind (words.flatMap (· ++ [b]) ++ rest) =
      words.map .word ++ tokens kind rest := by
  induction words with
  | nil => rfl
  | cons word words ih =>
      have htail := ih fun other hother =>
        hwords other (List.mem_cons_of_mem word hother)
      rw [List.flatMap_cons, List.append_assoc, List.append_assoc,
        List.singleton_append, tokens_word_blank (hwords word (by simp)) hblank,
        htail]
      rfl

end

end SlipNet.Foundation
