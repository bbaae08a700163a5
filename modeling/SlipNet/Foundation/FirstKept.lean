import SlipNet.Foundation.Keyed

/-!
# Keeping the first element of each key

A list that only takes elements whose key it does not hold yet keeps, for every
key, the first element offered under it.  Which elements those are depends on
the order of the offers only where two of them share a key.
-/

namespace SlipNet.Foundation

variable {α β κ : Type*} [DecidableEq κ] (key : α → κ)

/-- Append `x` unless its key is taken. -/
def keep (entries : List α) (x : α) : List α :=
  if (lookup key (key x) entries).isSome then entries else entries ++ [x]

def firsts (xs : List α) : List α := xs.foldl (keep key) []

variable {key} {k : κ} {x : α} {xs entries : List α}

theorem lookup_append (xs ys : List α) :
    lookup key k (xs ++ ys) = (lookup key k xs).or (lookup key k ys) :=
  List.find?_append

theorem lookup_keep : lookup key k (keep key entries x) =
    (lookup key k entries).or (lookup key k [x]) := by
  rw [keep]
  split
  · next htaken =>
      by_cases hk : key x = k
      · subst hk
        obtain ⟨first, hfirst⟩ := Option.isSome_iff_exists.mp htaken
        simp [hfirst]
      · simp [hk]
  · exact lookup_append entries [x]

theorem lookup_foldl_keep : lookup key k (xs.foldl (keep key) entries) =
    (lookup key k entries).or (lookup key k xs) := by
  induction xs generalizing entries with
  | nil => simp
  | cons x xs ih =>
      rw [List.foldl_cons, ih, lookup_keep, Option.or_assoc,
        ← lookup_append, List.singleton_append]

theorem nodup_key_keep (h : (entries.map key).Nodup) :
    ((keep key entries x).map key).Nodup := by
  rw [keep]
  split
  · exact h
  · next hfree =>
      rw [Option.not_isSome_iff_eq_none, lookup_eq_none_iff] at hfree
      rw [List.map_append, List.map_singleton]
      exact List.nodup_append.mpr ⟨h, List.nodup_singleton _,
        fun a ha b hb hab => hfree (List.mem_singleton.mp hb ▸ hab ▸ ha)⟩

theorem nodup_key_firsts (xs : List α) : ((firsts key xs).map key).Nodup :=
  List.foldlRecOn (motive := fun entries : List α =>
    (entries.map key).Nodup) xs _ List.nodup_nil
    fun _ h _ _ => nodup_key_keep h

theorem mem_iff_lookup (h : (entries.map key).Nodup) :
    x ∈ entries ↔ lookup key (key x) entries = some x :=
  ⟨lookup_eq_some_of_mem h, mem_of_lookup⟩

theorem mem_firsts_iff :
    x ∈ firsts key xs ↔ lookup key (key x) xs = some x := by
  rw [mem_iff_lookup (nodup_key_firsts xs), firsts, lookup_foldl_keep,
    lookup_nil, Option.none_or]

/-- Where a key stands for one element only, nothing but repetitions is
dropped. -/
theorem mem_firsts_iff_mem
    (hkey : ∀ a ∈ xs, ∀ b ∈ xs, key a = key b → a = b) :
    x ∈ firsts key xs ↔ x ∈ xs := by
  rw [mem_firsts_iff]
  refine ⟨mem_of_lookup, fun hx => ?_⟩
  cases hfirst : lookup key (key x) xs with
  | none =>
      rw [lookup_eq_none_iff] at hfirst
      exact absurd (List.mem_map_of_mem hx) hfirst
  | some first =>
      rw [hkey first (mem_of_lookup hfirst) x hx (key_of_lookup hfirst)]

/-- Where one element at most contributes entries under a key, the first of
them is that element's first. -/
theorem lookup_flatMap_iff {f : β → List α} {bs : List β}
    (hunique : ∀ a ∈ bs, ∀ b ∈ bs, k ∈ (f a).map key → k ∈ (f b).map key →
      a = b) :
    lookup key k (bs.flatMap f) = some x ↔
      ∃ b ∈ bs, lookup key k (f b) = some x := by
  rw [lookup, List.find?_flatMap]
  constructor
  · intro hfound
    obtain ⟨before, b, after, rfl, hb, _⟩ :=
      List.findSome?_eq_some_iff.mp hfound
    exact ⟨b, by simp, hb⟩
  · rintro ⟨b, hb, hfirst⟩
    have hsome : (bs.findSome? fun b => lookup key k (f b)).isSome = true :=
      List.findSome?_isSome_iff.mpr ⟨b, hb, by simp [hfirst]⟩
    obtain ⟨other, hother⟩ := Option.isSome_iff_exists.mp hsome
    obtain ⟨before, a, after, hsplit, ha, _⟩ :=
      List.findSome?_eq_some_iff.mp hother
    have hmem : ∀ {b : β} {x : α}, lookup key k (f b) = some x →
        k ∈ (f b).map key := fun hlookup =>
      key_of_lookup hlookup ▸ List.mem_map_of_mem (mem_of_lookup hlookup)
    have hab : a = b :=
      hunique a (by simp [hsplit]) b hb (hmem ha) (hmem hfirst)
    exact hother.trans (ha.symm.trans (hab ▸ hfirst))

theorem firsts_append_singleton (xs : List α) (x : α) :
    firsts key (xs ++ [x]) = keep key (firsts key xs) x := by
  simp [firsts]

theorem filter_keep (select : κ → Bool) (entries : List α) (x : α) :
    (keep key entries x).filter (fun y => select (key y)) =
      if select (key x) then
        keep key (entries.filter fun y => select (key y)) x
      else entries.filter fun y => select (key y) := by
  by_cases hx : select (key x) = true
  · have hlookup : lookup key (key x)
        (entries.filter fun y => select (key y)) =
          lookup key (key x) entries := by
      rw [lookup, lookup, List.find?_filter]
      refine congrArg (entries.find? ·) (funext fun y => ?_)
      by_cases hy : key y = key x <;> simp [hy, hx]
    rw [if_pos hx, keep, keep, hlookup]
    split_ifs <;> simp [hx]
  · rw [if_neg hx, keep]
    split_ifs <;> simp [hx]

/-- Which elements are kept among those of some keys depends on these only. -/
theorem firsts_filter (select : κ → Bool) (xs : List α) :
    firsts key (xs.filter fun x => select (key x)) =
      (firsts key xs).filter fun x => select (key x) := by
  induction xs using List.reverseRecOn with
  | nil => rfl
  | append_singleton xs x ih =>
      rw [List.filter_append, firsts_append_singleton, filter_keep, ← ih]
      by_cases hx : select (key x) = true
      · rw [if_pos hx, List.filter_singleton, hx]
        exact firsts_append_singleton _ x
      · rw [if_neg hx, List.filter_singleton, eq_false_of_ne_true hx]
        simp

end SlipNet.Foundation
