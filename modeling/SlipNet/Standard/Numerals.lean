import SlipNet.Standard.Integers

/-!
# Texts of integers

What the `strtol` family and the stream extractors take for an integer is white
space, an optional sign and digits, and they take as many digits as there are.
This file states that grammar and shows that the scanner reads it, so that
callers reason about texts and not about the scanner.
-/

namespace SlipNet.Standard

open SlipNet.Foundation

/-- White space, an optional sign and at least one digit. -/
def IsNumeral (text : Str) (negative : Bool) (magnitude : Nat) : Prop :=
  ∃ blanks sign digits, text = blanks ++ (sign ++ digits) ∧
    (∀ c ∈ blanks, isspace c = true) ∧
    (negative = true ∧ sign = ['-'] ∨
      negative = false ∧ (sign = [] ∨ sign = ['+'])) ∧
    digits ≠ [] ∧ (∀ c ∈ digits, c.isDigit = true) ∧
    digitsValue digits = magnitude

def NoDigitAhead (rest : Str) : Prop :=
  ∀ c, rest.head? = some c → c.isDigit = false

@[simp] theorem noDigitAhead_nil : NoDigitAhead [] := by
  simp [NoDigitAhead]

@[simp] theorem noDigitAhead_cons {c : Char} {rest : Str} :
    NoDigitAhead (c :: rest) ↔ c.isDigit = false := by
  simp [NoDigitAhead]

/-! ## Runs of characters -/

section Runs

variable {p : Char → Bool} {run rest : Str}

theorem takeWhile_run (hrun : ∀ c ∈ run, p c = true)
    (hrest : ∀ c, rest.head? = some c → p c = false) :
    (run ++ rest).takeWhile p = run := by
  rw [List.takeWhile_append_of_pos hrun]
  cases rest with
  | nil => simp
  | cons c rest => simp [hrest c rfl]

theorem dropWhile_run (hrun : ∀ c ∈ run, p c = true)
    (hrest : ∀ c, rest.head? = some c → p c = false) :
    (run ++ rest).dropWhile p = rest := by
  rw [List.dropWhile_append_of_pos hrun]
  cases rest with
  | nil => simp
  | cons c rest => simp [hrest c rfl]

end Runs

/-! ## The scanner reads numerals -/

theorem exists_scanSign (value : Str) : ∃ sign,
    value = sign ++ (scanSign value).2.2 ∧
      (scanSign value).2.1 = sign.length ∧
      ((scanSign value).1 = true ∧ sign = ['-'] ∨
        (scanSign value).1 = false ∧ (sign = [] ∨ sign = ['+'])) := by
  unfold scanSign
  split
  · exact ⟨['-'], by simp⟩
  · exact ⟨['+'], by simp⟩
  · exact ⟨[], by simp⟩

theorem scanSign_sign {negative : Bool} {sign digits : Str}
    (hsign : negative = true ∧ sign = ['-'] ∨
      negative = false ∧ (sign = [] ∨ sign = ['+']))
    (hne : digits ≠ []) (hdigit : ∀ c ∈ digits, c.isDigit = true)
    (rest : Str) :
    scanSign (sign ++ digits ++ rest) =
      (negative, sign.length, digits ++ rest) := by
  rcases hsign with ⟨rfl, rfl⟩ | ⟨rfl, rfl | rfl⟩
  · rfl
  · cases digits with
    | nil => exact absurd rfl hne
    | cons d digits => exact scanSign_of_isDigit (hdigit d (by simp)) _
  · rfl

theorem scanInteger_of_isNumeral {text rest : Str} {negative : Bool}
    {magnitude : Nat} (h : IsNumeral text negative magnitude)
    (hrest : NoDigitAhead rest) :
    scanInteger (text ++ rest) =
      some ⟨negative, magnitude, text.length⟩ := by
  obtain ⟨blanks, sign, digits, rfl, hblanks, hsign, hne, hdigit, rfl⟩ := h
  have hstart : ∀ c, (sign ++ digits ++ rest).head? = some c →
      isspace c = false := by
    intro c hc
    rcases hsign with ⟨_, rfl⟩ | ⟨_, rfl | rfl⟩
    · obtain rfl := Option.some.inj hc
      decide
    · cases digits with
      | nil => exact absurd rfl hne
      | cons d digits =>
          obtain rfl := Option.some.inj hc
          exact isspace_of_isDigit (hdigit _ (by simp))
    · obtain rfl := Option.some.inj hc
      decide
  have hsplit : blanks ++ (sign ++ digits) ++ rest =
      blanks ++ (sign ++ digits ++ rest) := by simp
  have hdigits : (digits ++ rest).takeWhile isdigit = digits :=
    takeWhile_run hdigit hrest
  simp only [scanInteger, hsplit, takeWhile_run hblanks hstart,
    dropWhile_run hblanks hstart, scanSign_sign hsign hne hdigit, hdigits,
    hne, if_false, List.length_append, Nat.add_assoc]

theorem exists_isNumeral_of_scanInteger {value : Str} {scanned : Scanned}
    (h : scanInteger value = some scanned) :
    ∃ text rest, value = text ++ rest ∧
      IsNumeral text scanned.negative scanned.magnitude ∧
      scanned.consumed = text.length ∧ NoDigitAhead rest := by
  rw [scanInteger] at h
  dsimp only at h
  split_ifs at h with hnone
  obtain rfl := Option.some.inj h
  obtain ⟨sign, hsplit, hlength, hsign⟩ :=
    exists_scanSign (value.dropWhile isspace)
  let body := (scanSign (value.dropWhile isspace)).2.2
  refine ⟨value.takeWhile isspace ++ (sign ++ body.takeWhile isdigit),
    body.dropWhile isdigit, ?_, ?_, ?_, ?_⟩
  · calc
      value = value.takeWhile isspace ++ value.dropWhile isspace :=
        List.takeWhile_append_dropWhile.symm
      _ = value.takeWhile isspace ++ (sign ++ body) := by rw [← hsplit]
      _ = _ := by
        rw [List.append_assoc, List.append_assoc,
          List.takeWhile_append_dropWhile]
  · exact ⟨_, sign, _, rfl, fun _ => List.mem_takeWhile_imp, hsign, hnone,
      fun _ => List.mem_takeWhile_imp, rfl⟩
  · simp [hlength, body, Nat.add_assoc]
  · intro c hc
    have hstop := List.head?_dropWhile_not isdigit body
    rw [hc] at hstop
    exact hstop

/-! ## The value of a numeral -/

/-- `stoi` reads the numeral a text starts with, whatever follows. -/
theorem stoi_eq_some_iff {value : Str} {n : Int} {position : Nat} :
    stoi value = some (n, position) ↔
      ∃ text rest negative magnitude, value = text ++ rest ∧
        IsNumeral text negative magnitude ∧ position = text.length ∧
        NoDigitAhead rest ∧
        n = (if negative then -(magnitude : Int) else magnitude) ∧
        InIntRange n := by
  constructor
  · intro h
    obtain ⟨scanned, hscan, hrest⟩ := Option.bind_eq_some_iff.mp h
    split_ifs at hrest with hrange
    obtain ⟨rfl, rfl⟩ := Prod.mk.inj (Option.some.inj hrest)
    obtain ⟨text, rest, hvalue, htext, hconsumed, hahead⟩ :=
      exists_isNumeral_of_scanInteger hscan
    exact ⟨text, rest, scanned.negative, scanned.magnitude, hvalue, htext,
      hconsumed, hahead, rfl, hrange⟩
  · rintro ⟨text, rest, negative, magnitude, rfl, htext, rfl, hahead, rfl,
      hrange⟩
    exact stoi_of_scanInteger (scanInteger_of_isNumeral htext hahead) hrange

theorem IsNumeral.ne_nil {text : Str} {negative : Bool} {magnitude : Nat}
    (h : IsNumeral text negative magnitude) : text ≠ [] := by
  obtain ⟨blanks, sign, digits, rfl, _, _, hne, _, _⟩ := h
  simp [hne]

theorem stoi_whole_iff {value : Str} {n : Int} :
    stoi value = some (n, value.length) ↔
      ∃ negative magnitude, IsNumeral value negative magnitude ∧
        n = (if negative then -(magnitude : Int) else magnitude) ∧
        InIntRange n := by
  rw [stoi_eq_some_iff]
  constructor
  · rintro ⟨text, rest, negative, magnitude, hvalue, htext, hlength, _, hn,
      hrange⟩
    have hrest : rest = [] := by
      have := congrArg List.length hvalue
      rw [List.length_append, hlength] at this
      exact List.length_eq_zero_iff.mp (by omega)
    rw [hrest, List.append_nil] at hvalue
    exact ⟨negative, magnitude, hvalue ▸ htext, hn, hrange⟩
  · rintro ⟨negative, magnitude, hvalue, hn, hrange⟩
    exact ⟨value, [], negative, magnitude, by simp, hvalue, rfl, by simp, hn,
      hrange⟩

theorem isNumeral_digits {digits : Str} (hne : digits ≠ [])
    (hdigit : ∀ c ∈ digits, c.isDigit = true) :
    IsNumeral digits false (digitsValue digits) :=
  ⟨[], [], digits, rfl, by simp, .inr ⟨rfl, .inl rfl⟩, hne, hdigit, rfl⟩

theorem isNumeral_decimal (n : Nat) : IsNumeral (decimal n) false n := by
  have h := isNumeral_digits (decimal_ne_nil n)
    fun _ hc => isDigit_of_mem_decimal hc
  rwa [digitsValue_decimal] at h

theorem IsNumeral.notMem {text : Str} {negative : Bool} {magnitude : Nat}
    (h : IsNumeral text negative magnitude) {c : Char}
    (hspace : isspace c = false) (hdigit : c.isDigit = false)
    (hminus : c ≠ '-') (hplus : c ≠ '+') : c ∉ text := by
  obtain ⟨blanks, sign, digits, rfl, hblanks, hsign, _, hdigits, _⟩ := h
  intro hc
  rw [List.mem_append, List.mem_append] at hc
  rcases hc with hc | hc | hc
  · rw [hblanks c hc] at hspace
    cases hspace
  · rcases hsign with ⟨_, rfl⟩ | ⟨_, rfl | rfl⟩
    · exact hminus (List.mem_singleton.mp hc)
    · cases hc
    · exact hplus (List.mem_singleton.mp hc)
  · rw [hdigits c hc] at hdigit
    cases hdigit

/-! ## Texts without blanks -/

/-- An optional sign and at least one digit, nothing else. -/
def IsSignedNumeral (text : Str) (n : Int) : Prop :=
  ∃ sign digits, text = sign ++ digits ∧ digits ≠ [] ∧
    (∀ c ∈ digits, c.isDigit = true) ∧
    (sign = ['-'] ∧ n = -(digitsValue digits : Int) ∨
      (sign = [] ∨ sign = ['+']) ∧ n = digitsValue digits)

/-- The text goes on behind the numeral it starts with. -/
def GoesOnBehindNumeral (text : Str) (n : Int) : Prop :=
  ∃ numeral rest, text = numeral ++ rest ∧ rest ≠ [] ∧ NoDigitAhead rest ∧
    IsSignedNumeral numeral n

theorem IsSignedNumeral.isNumeral {text : Str} {n : Int}
    (h : IsSignedNumeral text n) : ∃ negative magnitude,
      IsNumeral text negative magnitude ∧
        n = if negative then -(magnitude : Int) else magnitude := by
  obtain ⟨sign, digits, rfl, hne, hdigit, ⟨rfl, rfl⟩ | ⟨hsign, rfl⟩⟩ := h
  · exact ⟨true, _, ⟨[], _, digits, rfl, by simp, .inl ⟨rfl, rfl⟩, hne,
      hdigit, rfl⟩, rfl⟩
  · exact ⟨false, _, ⟨[], sign, digits, rfl, by simp, .inr ⟨rfl, hsign⟩, hne,
      hdigit, rfl⟩, rfl⟩

theorem IsNumeral.isSignedNumeral {text : Str} {negative : Bool}
    {magnitude : Nat} (h : IsNumeral text negative magnitude)
    (hblank : ∀ c ∈ text, isspace c = false) :
    IsSignedNumeral text
      (if negative then -(magnitude : Int) else magnitude) := by
  obtain ⟨blanks, sign, digits, rfl, hblanks, hsign, hne, hdigit, rfl⟩ := h
  have hnone : blanks = [] := by
    cases blanks with
    | nil => rfl
    | cons c blanks =>
        exact absurd ((hblank c (by simp)).symm.trans (hblanks c (by simp)))
          (by decide)
  subst hnone
  refine ⟨sign, digits, rfl, hne, hdigit, ?_⟩
  rcases hsign with ⟨rfl, rfl⟩ | ⟨rfl, hsign⟩
  · exact .inl ⟨rfl, rfl⟩
  · exact .inr ⟨hsign, rfl⟩

theorem IsSignedNumeral.not_goesOn {text : Str} {n m : Int}
    (h : IsSignedNumeral text n) : ¬ GoesOnBehindNumeral text m := by
  rintro ⟨numeral, rest, rfl, hne, hahead, hnumeral⟩
  obtain ⟨negative, magnitude, hwhole, _⟩ := h.isNumeral
  obtain ⟨negative', magnitude', hpart, _⟩ := hnumeral.isNumeral
  have hscan := scanInteger_of_isNumeral hwhole noDigitAhead_nil
  rw [List.append_nil, scanInteger_of_isNumeral hpart hahead] at hscan
  have hlength : numeral.length = (numeral ++ rest).length :=
    congrArg Scanned.consumed (Option.some.inj hscan)
  rw [List.length_append] at hlength
  exact hne (List.length_eq_zero_iff.mp (by omega))

/-- `stoi` on a text without blanks takes the numeral it is, or the one it goes
on behind. -/
theorem exists_stoi_iff {text : Str} (hblank : ∀ c ∈ text, isspace c = false)
    {n : Int} (hrange : InIntRange n) :
    (∃ position, stoi text = some (n, position)) ↔
      IsSignedNumeral text n ∨ GoesOnBehindNumeral text n := by
  constructor
  · rintro ⟨position, h⟩
    obtain ⟨numeral, rest, negative, magnitude, rfl, hnumeral, _, hahead, rfl,
      _⟩ := stoi_eq_some_iff.mp h
    have hsigned := hnumeral.isSignedNumeral
      fun c hc => hblank c (List.mem_append_left rest hc)
    by_cases hrest : rest = []
    · rw [hrest, List.append_nil]
      exact .inl hsigned
    · exact .inr ⟨numeral, rest, rfl, hrest, hahead, hsigned⟩
  · rintro (h | ⟨numeral, rest, rfl, _, hahead, h⟩)
    · obtain ⟨negative, magnitude, hnumeral, hn⟩ := h.isNumeral
      exact ⟨_, stoi_whole_iff.mpr ⟨negative, magnitude, hnumeral, hn, hrange⟩⟩
    · obtain ⟨negative, magnitude, hnumeral, hn⟩ := h.isNumeral
      exact ⟨_, stoi_eq_some_iff.mpr ⟨numeral, rest, negative, magnitude, rfl,
        hnumeral, rfl, hahead, hn, hrange⟩⟩

theorem stoi_whole_iff_isSignedNumeral {text : Str}
    (hblank : ∀ c ∈ text, isspace c = false) {n : Int}
    (hrange : InIntRange n) :
    stoi text = some (n, text.length) ↔ IsSignedNumeral text n := by
  rw [stoi_whole_iff]
  constructor
  · rintro ⟨negative, magnitude, hnumeral, rfl, _⟩
    exact hnumeral.isSignedNumeral hblank
  · intro h
    obtain ⟨negative, magnitude, hnumeral, hn⟩ := h.isNumeral
    exact ⟨negative, magnitude, hnumeral, hn, hrange⟩

end SlipNet.Standard
