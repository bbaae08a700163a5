import SlipNet.Cli.CommandHandler
import SlipNet.Standard.Numerals

/-!
# The arguments of port|:scan

The help text gives two forms of a range, one token `a-b` and two tokens `a`
and `b`.  The handler looks at one token, splits it at the first hyphen and
reads the integer each half starts with.  So it refuses the second form, and
takes more texts for the first one than there are.
-/

namespace SlipNet.Cli

open SlipNet.Foundation
open SlipNet.Standard
open SlipNet.Core
open SlipNet.Scanning

/-! ## The documented forms -/

def IsWholeNumeral (text : Str) (n : Int) : Prop :=
  text ≠ [] ∧ (∀ c ∈ text, c.isDigit = true) ∧ (digitsValue text : Int) = n

def IsPortRange (a b : Int) : Prop := 1 ≤ a ∧ a ≤ b ∧ b ≤ 65535

/-- `<IP> <start>-<end>` -/
def JoinedRequest (arguments : List Str) (a b : Int) : Prop :=
  ∃ ip first last, arguments = [ip, first ++ '-' :: last] ∧
    IsWholeNumeral first a ∧ IsWholeNumeral last b ∧ IsPortRange a b

/-- `<IP> <start-port> <end-port>` -/
def SeparateRequest (arguments : List Str) (a b : Int) : Prop :=
  ∃ ip first last, arguments = [ip, first, last] ∧
    IsWholeNumeral first a ∧ IsWholeNumeral last b ∧ IsPortRange a b

/-! ## The form the handler takes -/

def StartsWithInteger (text : Str) (n : Int) : Prop :=
  ∃ numeral rest negative magnitude, text = numeral ++ rest ∧
    IsNumeral numeral negative magnitude ∧ NoDigitAhead rest ∧
    n = if negative then -(magnitude : Int) else magnitude

/-- A second token with integers around its first hyphen, and any further
tokens. -/
def LooseRequest (arguments : List Str) (a b : Int) : Prop :=
  ∃ ip first last extra, arguments = ip :: (first ++ '-' :: last) :: extra ∧
    '-' ∉ first ∧ StartsWithInteger first a ∧ StartsWithInteger last b ∧
    IsPortRange a b

theorem stoi_startsWithInteger {text : Str} {n : Int}
    (h : StartsWithInteger text n) (hrange : InIntRange n) :
    ∃ position, stoi text = some (n, position) := by
  obtain ⟨numeral, rest, negative, magnitude, htext, hnumeral, hahead, hn⟩ := h
  exact ⟨numeral.length, stoi_eq_some_iff.mpr ⟨numeral, rest, negative,
    magnitude, htext, hnumeral, rfl, hahead, hn, hrange⟩⟩

theorem startsWithInteger_of_stoi {text : Str} {n : Int} {position : Nat}
    (h : stoi text = some (n, position)) : StartsWithInteger text n := by
  obtain ⟨numeral, rest, negative, magnitude, htext, hnumeral, _, hahead, hn,
    _⟩ := stoi_eq_some_iff.mp h
  exact ⟨numeral, rest, negative, magnitude, htext, hnumeral, hahead, hn⟩

theorem portScanRequest_range_iff {arguments : List Str} {host : Str}
    {a b : Int} :
    portScanRequest arguments = .ok (host, .range a b) ↔
      arguments.head? = some host ∧ LooseRequest arguments a b := by
  constructor
  · intro h
    unfold portScanRequest at h
    split at h
    · cases h
    · cases h
    · next ip range extra =>
        split at h
        · cases h
        · next separator hseparator =>
            split at h
            · next startPort _ endPort _ hstart hend =>
                split_ifs at h with hbounds
                cases h
                obtain ⟨first, last, rfl, hfirst, rfl⟩ :=
                  exists_split_of_findChar hseparator
                rw [List.take_left] at hstart
                rw [List.drop_append, List.drop_eq_nil_of_le (by omega),
                  Nat.add_sub_cancel_left] at hend
                refine ⟨rfl, host, first, last, extra, rfl, hfirst,
                  startsWithInteger_of_stoi hstart,
                  startsWithInteger_of_stoi hend, ?_⟩
                simp only [not_or, not_lt, gt_iff_lt] at hbounds
                exact ⟨hbounds.1, hbounds.2.2, hbounds.2.1⟩
            · cases h
  · rintro ⟨hhost, ip, first, last, extra, rfl, hfirst, hstart, hend, hbounds⟩
    obtain rfl := Option.some.inj hhost
    obtain ⟨hlow, hle, hhigh⟩ := hbounds
    obtain ⟨i, hi⟩ := stoi_startsWithInteger hstart (by constructor <;> omega)
    obtain ⟨j, hj⟩ := stoi_startsWithInteger hend (by constructor <;> omega)
    have hdrop : (first ++ '-' :: last).drop (first.length + 1) = last := by
      simp
    simp only [portScanRequest, findChar_append hfirst, List.take_left, hdrop,
      hi, hj]
    rw [if_neg (by omega)]

theorem JoinedRequest.loose {arguments : List Str} {a b : Int}
    (h : JoinedRequest arguments a b) : LooseRequest arguments a b := by
  obtain ⟨ip, first, last, rfl, ⟨hne, hdigit, rfl⟩, ⟨hne', hdigit', rfl⟩,
    hbounds⟩ := h
  refine ⟨ip, first, last, [], rfl, fun hminus => ?_,
    ⟨first, [], false, _, by simp, isNumeral_digits hne hdigit, by simp, rfl⟩,
    ⟨last, [], false, _, by simp, isNumeral_digits hne' hdigit', by simp, rfl⟩,
    hbounds⟩
  exact absurd (hdigit _ hminus) (by decide)

theorem SeparateRequest.not_loose {arguments : List Str} {a b a' b' : Int}
    (h : SeparateRequest arguments a b) : ¬ LooseRequest arguments a' b' := by
  obtain ⟨ip, first, last, rfl, ⟨_, hdigit, _⟩, _⟩ := h
  rintro ⟨_, _, _, _, harguments, _⟩
  obtain ⟨_, htail⟩ := List.cons.inj harguments
  obtain ⟨rfl, _⟩ := List.cons.inj htail
  exact absurd (hdigit '-' (by simp)) (by decide)

/-! ## Agreement with the documentation -/

/-- The handler starts a scan of exactly the ports from `a` to `b`. -/
def StartsRange (arguments : List Str) (a b : Int) : Prop :=
  ∃ host, arguments.head? = some host ∧
    portScanRequest arguments = .ok (host, .range a b) ∧
    ∀ port, port ∈ (ScanJob.range a b).ports ↔ a ≤ port ∧ port ≤ b

/-- Range scans are started for the documented forms, and any other list of two
or more arguments starts no scan and leaves the state alone. -/
structure ScansAsDocumented (arguments : List Str) : Prop where
  started : ∀ a b, StartsRange arguments a b ↔
    JoinedRequest arguments a b ∨ SeparateRequest arguments a b
  rejected : 2 ≤ arguments.length →
    (∀ a b, ¬ (JoinedRequest arguments a b ∨ SeparateRequest arguments a b)) →
    (∀ host job, portScanRequest arguments ≠ .ok (host, job)) ∧
      ∀ results network, handlePortScan results arguments network = network

theorem startsRange_iff {arguments : List Str} {a b : Int} :
    StartsRange arguments a b ↔ LooseRequest arguments a b := by
  constructor
  · rintro ⟨host, _, hrequest, _⟩
    exact (portScanRequest_range_iff.mp hrequest).2
  · intro hloose
    obtain ⟨ip, first, last, extra, rfl, _, _, _, hlow, hle, hhigh⟩ := id hloose
    refine ⟨ip, rfl, portScanRequest_range_iff.mpr ⟨rfl, hloose⟩, ?_⟩
    intro port
    rw [ScanJob.ports, mem_portRange]
    omega

theorem portScanRequest_common {arguments : List Str} {host : Str}
    (h : portScanRequest arguments = .ok (host, .common)) :
    arguments = [host] := by
  unfold portScanRequest at h
  split at h
  · cases h
  · cases h
    rfl
  · split at h
    · cases h
    · split at h
      · split_ifs at h
        cases h
      · cases h

/-- The handler follows the help text exactly where the arguments are no two
separate numerals and no loose request but a joined one. -/
theorem scansAsDocumented_iff (arguments : List Str) :
    ScansAsDocumented arguments ↔
      (∀ a b, ¬ SeparateRequest arguments a b) ∧
        ∀ a b, LooseRequest arguments a b → JoinedRequest arguments a b := by
  constructor
  · intro hdocumented
    have hseparate : ∀ a b, ¬ SeparateRequest arguments a b := by
      intro a b hrequest
      have hstarted := (hdocumented.started a b).mpr (.inr hrequest)
      exact hrequest.not_loose (startsRange_iff.mp hstarted)
    refine ⟨hseparate, fun a b hloose => ?_⟩
    rcases (hdocumented.started a b).mp (startsRange_iff.mpr hloose) with h | h
    · exact h
    · exact absurd h (hseparate a b)
  · rintro ⟨hseparate, hjoined⟩
    constructor
    · intro a b
      rw [startsRange_iff]
      constructor
      · exact fun hloose => .inl (hjoined a b hloose)
      · rintro (h | h)
        · exact h.loose
        · exact absurd h (hseparate a b)
    · intro hlength hnone
      have hrefused : ∀ host job,
          portScanRequest arguments ≠ .ok (host, job) := by
        intro host job hrequest
        cases job with
        | common =>
            rw [portScanRequest_common hrequest] at hlength
            simp at hlength
        | range a b =>
            exact hnone a b
              (.inl (hjoined a b (portScanRequest_range_iff.mp hrequest).2))
      refine ⟨hrefused, fun results network => ?_⟩
      unfold handlePortScan
      split
      · rfl
      · next host job hrequest => exact absurd hrequest (hrefused host job)

/-- The form the help text gives first is refused. -/
theorem not_scansAsDocumented_separate :
    let arguments := ["10.0.0.5".toList, "1".toList, "1024".toList]
    SeparateRequest arguments 1 1024 ∧
      portScanRequest arguments = .error
        ("[!] Invalid port range.\n    Example: port|:scan " ++
          "10.0.0.5 1-1024\n").toList ∧
      ¬ ScansAsDocumented arguments := by
  intro arguments
  have hrequest : SeparateRequest arguments 1 1024 :=
    ⟨"10.0.0.5".toList, "1".toList, "1024".toList, rfl,
      ⟨by decide, List.all_eq_true.mp (by decide), by decide⟩,
      ⟨by decide, List.all_eq_true.mp (by decide), by decide⟩,
      by decide, by decide, by decide⟩
  refine ⟨hrequest, by rfl, fun hdocumented => ?_⟩
  have hstarted := (hdocumented.started 1 1024).mpr (.inr hrequest)
  exact hrequest.not_loose (startsRange_iff.mp hstarted)

end SlipNet.Cli
