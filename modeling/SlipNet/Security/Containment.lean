import SlipNet.Security.CredentialChecker
import SlipNet.Security.SecurityDetector
import SlipNet.Security.VulnerabilityScanner
import SlipNet.Standard.Searching

/-!
# Three tests for a contained text

Two checkers convert both texts to lower case and search; the detector compares
in two nested loops.  All three tell whether the one text stands in the other
in one piece, apart from the case of its letters.
-/

namespace SlipNet.Security

open SlipNet.Standard

namespace VulnerabilityScanner

protected def contains (value search : Str) : Bool :=
  Standard.contains value search

end VulnerabilityScanner

namespace CredentialChecker

protected def contains (value search : Str) : Bool :=
  Standard.contains value search

end CredentialChecker

namespace SecurityDetector

/-- The inner loop finds the search text at the position `i`. -/
theorem all_toLower_iff (value search : Str) (i : Nat) :
    ((List.range search.length).all fun j =>
        value[i + j]?.map Char.toLower = search[j]?.map Char.toLower) = true ↔
      lower search <+: (lower value).drop i := by
  rw [List.all_eq_true, List.prefix_iff_getElem?]
  constructor
  · intro h j hj
    rw [lower, List.length_map] at hj
    have hsame := h j (List.mem_range.mpr hj)
    rw [decide_eq_true_eq] at hsame
    rw [List.getElem?_drop, lower, List.getElem?_map, hsame]
    simp [lower, hj]
  · intro h j hj
    rw [List.mem_range] at hj
    have hsame := h j (by rwa [lower, List.length_map])
    rw [List.getElem?_drop, lower, List.getElem?_map] at hsame
    rw [decide_eq_true_eq, hsame]
    simp [lower, hj]

/-- The outer loop tries every position that leaves room. -/
theorem containsInsensitive_iff (value search : Str) :
    containsInsensitive value search = true ↔
      lower search <:+: lower value := by
  have hsearch : (lower search).length = search.length := List.length_map _
  have hvalue : (lower value).length = value.length := List.length_map _
  rw [containsInsensitive]
  split_ifs with hempty hshort
  · simp [hempty, lower]
  · refine iff_of_false id fun hinfix => ?_
    have hle := hinfix.length_le
    omega
  · simp only [List.any_eq_true, List.mem_range, all_toLower_iff]
    constructor
    · rintro ⟨i, _, hstarts⟩
      exact hstarts.isInfix.trans (List.drop_suffix i _).isInfix
    · intro hinfix
      obtain ⟨rest, hstarts, hsuffix⟩ := List.infix_iff_prefix_suffix.mp hinfix
      obtain ⟨before, hbefore⟩ := hsuffix
      have hlength := congrArg List.length hbefore
      have hle := hstarts.length_le
      rw [List.length_append] at hlength
      refine ⟨before.length, by omega, ?_⟩
      rwa [← hbefore, List.drop_left]

/-- The three tests are one: the lower-case search text stands in one piece in
the lower-case value. -/
theorem containsInsensitive_eq (value search : Str) :
    containsInsensitive value search =
        VulnerabilityScanner.contains value search ∧
      containsInsensitive value search =
        CredentialChecker.contains value search ∧
      (containsInsensitive value search = true ↔
        lower search <:+: lower value) := by
  have hfind : containsInsensitive value search =
      (find (lower search) (lower value)).isSome := by
    rw [Bool.eq_iff_iff, containsInsensitive_iff, isSome_find_iff]
  exact ⟨hfind, hfind, containsInsensitive_iff value search⟩

end SecurityDetector

end SlipNet.Security
