import SlipNet.Standard.Strings
import Mathlib

/-!
# Searching texts

A search text without a delimiter is found within one piece of a delimited
text, so a search over the whole text is a search over its pieces in turn.
Searches that ignore the case of letters convert both texts first.
-/

namespace SlipNet.Standard

@[simp] theorem startsWith_nil_cons (c : Char) (start : Str) :
    startsWith [] (c :: start) = false := rfl

@[simp] theorem find_cons_nil (c : Char) (search : Str) :
    find (c :: search) [] = none := rfl

theorem startsWith_of_append {value start more : Str}
    (h : startsWith value (start ++ more) = true) :
    startsWith value start = true :=
  List.isPrefixOf_iff_prefix.mpr ((List.prefix_append start more).trans
    (List.isPrefixOf_iff_prefix.mp h))

theorem find_eq_none_of_mem {c : Char} {search value : Str} (h : c ∈ search)
    (hvalue : c ∉ value) : find search value = none := by
  induction value with
  | nil =>
      rw [find, if_neg (List.ne_nil_of_mem h)]
  | cons d value ih =>
      have hstart : startsWith (d :: value) search = false := by
        rw [startsWith, Bool.eq_false_iff, Ne, List.isPrefixOf_iff_prefix]
        exact fun hstarts => hvalue (hstarts.subset h)
      rw [find, hstart, ih fun hmem => hvalue (List.mem_cons_of_mem d hmem)]
      rfl

theorem startsWith_append_cons {c : Char} {search : Str} (h : c ∉ search)
    (before rest : Str) :
    startsWith (before ++ c :: rest) search = startsWith before search := by
  rw [startsWith, startsWith, Bool.eq_iff_iff, List.isPrefixOf_iff_prefix,
    List.isPrefixOf_iff_prefix]
  constructor
  · intro hstarts
    rcases List.prefix_or_prefix_of_prefix hstarts
      (List.prefix_append before _) with hbefore | ⟨tail, rfl⟩
    · exact hbefore
    · rw [List.prefix_append_right_inj] at hstarts
      cases tail with
      | nil => simp
      | cons d tail =>
          rw [List.cons_prefix_cons] at hstarts
          exact absurd (by simp [hstarts.1]) h
  · exact fun hstarts => hstarts.trans (List.prefix_append _ _)

theorem find_append_cons {c : Char} {search : Str} (h : c ∉ search)
    (hne : search ≠ []) (before rest : Str) :
    find search (before ++ c :: rest) =
      (find search before).or
        ((find search rest).map (· + (before.length + 1))) := by
  induction before with
  | nil =>
      have hstart := startsWith_append_cons h [] rest
      rw [List.nil_append] at hstart ⊢
      cases search with
      | nil => exact absurd rfl hne
      | cons d search => simp [find, hstart]
  | cons d before ih =>
      have hstart := startsWith_append_cons h (d :: before) rest
      rw [List.cons_append] at hstart ⊢
      rw [find, find, hstart, ih]
      split
      · rfl
      · cases find search before <;> cases find search rest <;>
          simp [Nat.add_assoc]

theorem find_le {search value : Str} {position : Nat}
    (h : find search value = some position) :
    position + search.length ≤ value.length := by
  induction value generalizing position with
  | nil =>
      rw [find] at h
      split_ifs at h with hempty
      simpa [hempty] using h.symm
  | cons c rest ih =>
      rw [find] at h
      split_ifs at h with hstart
      · obtain rfl := Option.some.inj h
        simpa using (List.isPrefixOf_iff_prefix.mp hstart).length_le
      · obtain ⟨earlier, hearlier, rfl⟩ := Option.map_eq_some_iff.mp h
        have hlength := ih hearlier
        rw [List.length_cons]
        omega

/-- A search finds exactly the texts that stand somewhere in one piece. -/
theorem isSome_find_iff {search value : Str} :
    (find search value).isSome = true ↔ search <:+: value := by
  induction value with
  | nil =>
      rw [find, List.infix_nil]
      split <;> simp_all
  | cons c rest ih =>
      rw [find, List.infix_cons_iff, ← ih, startsWith]
      split
      · next hstart =>
          simp [List.isPrefixOf_iff_prefix.mp hstart]
      · next hstart =>
          simp [mt List.isPrefixOf_iff_prefix.mpr hstart]

/-! ## Up to a character -/

theorem takeWhile_append_cons {c : Char} {before : Str} (h : c ∉ before)
    (rest : Str) : (before ++ c :: rest).takeWhile (· ≠ c) = before := by
  rw [List.takeWhile_append_of_pos]
  · simp
  · intro d hd
    have hne : d ≠ c := fun e => h (e ▸ hd)
    simpa using hne

theorem dropWhile_append_cons {c : Char} {before : Str} (h : c ∉ before)
    (rest : Str) :
    (before ++ c :: rest).dropWhile (· ≠ c) = c :: rest := by
  rw [List.dropWhile_append_of_pos]
  · simp
  · intro d hd
    have hne : d ≠ c := fun e => h (e ▸ hd)
    simpa using hne

theorem takeWhile_of_notMem {c : Char} {value : Str} (h : c ∉ value) :
    value.takeWhile (· ≠ c) = value := by
  rw [List.takeWhile_eq_self_iff]
  intro d hd
  have hne : d ≠ c := fun e => h (e ▸ hd)
  simpa using hne

theorem dropWhile_of_notMem {c : Char} {value : Str} (h : c ∉ value) :
    value.dropWhile (· ≠ c) = [] := by
  rw [List.dropWhile_eq_nil_iff]
  intro d hd
  have hne : d ≠ c := fun e => h (e ▸ hd)
  simpa using hne

/-! ## The text behind the first occurrence -/

def behind (search value : Str) : Option Str :=
  (find search value).map fun position =>
    value.drop (position + search.length)

theorem behind_eq_none_iff {search value : Str} :
    behind search value = none ↔ find search value = none := by
  rw [behind, Option.map_eq_none_iff]

/-- A search stops at the first place where the text stands. -/
theorem find_eq_some_append {search value : Str} {position : Nat}
    (h : find search value = some position) :
    value = value.take position ++ search ++
      value.drop (position + search.length) := by
  induction value generalizing position with
  | nil =>
      rw [find] at h
      split_ifs at h with hempty
      rw [hempty, List.take_nil, List.drop_nil]
      rfl
  | cons c rest ih =>
      rw [find] at h
      split_ifs at h with hstart
      · obtain rfl := Option.some.inj h
        obtain ⟨tail, htail⟩ := List.isPrefixOf_iff_prefix.mp hstart
        rw [← htail]
        simp
      · obtain ⟨earlier, hearlier, rfl⟩ := Option.map_eq_some_iff.mp h
        have hrest := ih hearlier
        rw [Nat.add_right_comm, List.take_succ_cons, List.drop_succ_cons,
          List.cons_append, List.cons_append, ← hrest]

theorem behind_eq_some_iff {search value rest : Str} :
    behind search value = some rest ↔ ∃ start,
      find search value = some start.length ∧
        value = start ++ search ++ rest := by
  rw [behind, Option.map_eq_some_iff]
  constructor
  · rintro ⟨position, hfind, rfl⟩
    have hlength : (value.take position).length = position := by
      have := find_le hfind
      rw [List.length_take]
      omega
    exact ⟨value.take position, by rwa [hlength], find_eq_some_append hfind⟩
  · rintro ⟨start, hfind, rfl⟩
    refine ⟨start.length, hfind, ?_⟩
    rw [← List.length_append, List.drop_left]

theorem behind_append_cons {c : Char} {search : Str} (h : c ∉ search)
    (hne : search ≠ []) (before rest : Str) :
    behind search (before ++ c :: rest) =
      ((behind search before).map (· ++ c :: rest)).or
        (behind search rest) := by
  rw [behind, behind, behind, find_append_cons h hne]
  cases hbefore : find search before with
  | some position =>
      have hle := find_le hbefore
      simp [List.drop_append_of_le_length hle]
  | none =>
      cases find search rest with
      | none => rfl
      | some position =>
          have hposition : position + (before.length + 1) + search.length =
              (before ++ [c]).length + (position + search.length) := by
            rw [List.length_append, List.length_singleton]
            omega
          have hsplit : before ++ c :: rest = (before ++ [c]) ++ rest := by
            simp
          simp only [Option.map_none, Option.none_or, Option.map_some,
            hposition, hsplit, List.drop_length_add_append]

theorem notMem_of_behind {c : Char} {search value rest : Str} (h : c ∉ value)
    (hrest : behind search value = some rest) : c ∉ rest := by
  obtain ⟨position, _, rfl⟩ := Option.map_eq_some_iff.mp hrest
  exact fun hmem => h (List.mem_of_mem_drop hmem)

/-! ## The first match -/

/-- What is matched at the first place of the text where something is. -/
def firstMatch {α : Type} (matchAt : Str → Option α) : Str → Option α
  | [] => none
  | c :: rest => (matchAt (c :: rest)).or (firstMatch matchAt rest)

theorem firstMatch_append {α : Type} {matchAt : Str → Option α}
    {before rest : Str}
    (hends : ∀ text, text ≠ [] → matchAt text = none →
      matchAt (text ++ rest) = none)
    (h : firstMatch matchAt before = none) :
    firstMatch matchAt (before ++ rest) = firstMatch matchAt rest := by
  induction before with
  | nil => rfl
  | cons c before ih =>
      rw [firstMatch, Option.or_eq_none_iff] at h
      have hnone := hends (c :: before) (List.cons_ne_nil _ _) h.1
      rw [List.cons_append] at hnone
      rw [List.cons_append, firstMatch, hnone, Option.none_or, ih h.2]

theorem takeWhile_append_eq_nil {p : Char → Bool} {c : Char} {value rest : Str}
    (hc : p c = false) (h : value.takeWhile p = []) :
    (value ++ c :: rest).takeWhile p = [] := by
  cases value with
  | nil => simp [hc]
  | cons d value =>
      have hd : p d = false := by
        by_contra hd
        simp [Bool.of_not_eq_false hd] at h
      simp [hd]

theorem dropWhile_append_of_head {p : Char → Bool} {c : Char}
    (hc : p c = false) (value rest : Str) :
    (value ++ c :: rest).dropWhile p = value.dropWhile p ++ c :: rest := by
  rw [List.dropWhile_append, List.dropWhile_cons_of_neg (by simp [hc])]
  split_ifs with hempty
  · rw [List.isEmpty_iff.mp hempty, List.nil_append]
  · rfl

/-! ## Letter case -/

theorem lower_lower (value : Str) : lower (lower value) = lower value := by
  simp [lower]

theorem contains_lower (value search : Str) :
    contains (lower value) search = contains value search := by
  rw [contains, contains, lower_lower]

end SlipNet.Standard
