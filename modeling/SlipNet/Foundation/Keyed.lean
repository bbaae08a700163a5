import SlipNet.Foundation.Folds
import Mathlib.Data.List.Induction
import Mathlib.Data.List.Nodup
import Mathlib.Data.List.Dedup
import Mathlib.Logic.Function.Basic
import Mathlib.Algebra.BigOperators.Group.Finset.Basic

/-!
# Insertion-ordered keyed lists

A list whose elements carry a key is the usual array representation of a small
finite map: an update scans for the key, overwrites the element in place when it
is there and appends a fresh one when it is not.  This file develops that scan:
its keys, its lookups, the positions it leaves alone, and the list a whole
sequence of insertions builds.
-/

namespace SlipNet.Foundation

section Keyed

variable {α κ : Type*} [DecidableEq κ] (key : α → κ)

/-- The first element stored under `k`. -/
def lookup (k : κ) (entries : List α) : Option α :=
  entries.find? fun entry => key entry = k

/-- Overwrite the first element stored under `k`, or append `fresh`. -/
def alter (k : κ) (overwrite : α → α) (fresh : α) : List α → List α
  | [] => [fresh]
  | entry :: rest =>
      if key entry = k then overwrite entry :: rest
      else entry :: alter k overwrite fresh rest

def put (x : α) (entries : List α) : List α :=
  alter key (key x) (fun _ => x) x entries

/-! ## Lookups -/

@[simp] theorem lookup_nil (k : κ) : lookup key k [] = none := rfl

@[simp] theorem lookup_cons (k : κ) (entry : α) (rest : List α) :
    lookup key k (entry :: rest) =
      if key entry = k then some entry else lookup key k rest := by
  by_cases h : key entry = k <;> simp [lookup, h]

variable {key}

theorem key_of_lookup {k : κ} {entries : List α} {x : α}
    (h : lookup key k entries = some x) : key x = k := by
  simpa using List.find?_some h

theorem mem_of_lookup {k : κ} {entries : List α} {x : α}
    (h : lookup key k entries = some x) : x ∈ entries :=
  List.mem_of_find?_eq_some h

theorem lookup_eq_none_iff {k : κ} {entries : List α} :
    lookup key k entries = none ↔ k ∉ entries.map key := by
  simp [lookup, List.find?_eq_none]

theorem lookup_eq_some_of_mem {entries : List α} {x : α}
    (hnodup : (entries.map key).Nodup) (hx : x ∈ entries) :
    lookup key (key x) entries = some x := by
  induction entries with
  | nil => simp at hx
  | cons entry rest ih =>
      rw [List.map_cons, List.nodup_cons] at hnodup
      rw [lookup_cons]
      rcases List.mem_cons.mp hx with rfl | hrest
      · simp
      · have hne : key entry ≠ key x := fun h =>
          hnodup.1 (h ▸ List.mem_map_of_mem hrest)
        simpa [hne] using ih hnodup.2 hrest

theorem sum_lookup {M : Type*} [AddCommMonoid M] {keys : List κ}
    {entries : List α} (f : α → M) (hkeys : keys.Nodup)
    (hentries : (entries.map key).Nodup)
    (hcover : ∀ entry ∈ entries, key entry ∈ keys) :
    (keys.map fun k => (lookup key k entries).elim 0 f).sum =
      (entries.map f).sum := by
  let g : κ → M := fun k => (lookup key k entries).elim 0 f
  have hstored : (entries.map key).map g = entries.map f := by
    rw [List.map_map]
    refine List.map_congr_left fun entry hentry => ?_
    simp [g, lookup_eq_some_of_mem hentries hentry]
  have hsubset : (entries.map key).toFinset ⊆ keys.toFinset := by
    intro k hk
    obtain ⟨entry, hentry, rfl⟩ := List.mem_map.mp (List.mem_toFinset.mp hk)
    exact List.mem_toFinset.mpr (hcover entry hentry)
  have hmissing : ∀ k ∈ keys.toFinset, k ∉ (entries.map key).toFinset →
      g k = 0 := by
    intro k _ hk
    have hnone := lookup_eq_none_iff.mpr fun hmem =>
      hk (List.mem_toFinset.mpr hmem)
    simp [g, hnone]
  calc
    (keys.map g).sum = keys.toFinset.sum g := (List.sum_toFinset g hkeys).symm
    _ = (entries.map key).toFinset.sum g :=
      (Finset.sum_subset hsubset hmissing).symm
    _ = ((entries.map key).map g).sum := List.sum_toFinset g hentries
    _ = (entries.map f).sum := by rw [hstored]

variable {k : κ} {overwrite : α → α} {fresh : α}

theorem lookup_alter_self (hfresh : key fresh = k)
    (hkeep : ∀ x, key x = k → key (overwrite x) = k) (entries : List α) :
    lookup key k (alter key k overwrite fresh entries) =
      some ((lookup key k entries).elim fresh overwrite) := by
  induction entries with
  | nil => simp [alter, hfresh]
  | cons entry rest ih =>
      by_cases h : key entry = k
      · simp [alter, h, hkeep entry h]
      · simp [alter, h, ih]

theorem lookup_alter_of_ne {k' : κ} (hne : k' ≠ k) (hfresh : key fresh = k)
    (hkeep : ∀ x, key x = k → key (overwrite x) = k) (entries : List α) :
    lookup key k' (alter key k overwrite fresh entries) =
      lookup key k' entries := by
  induction entries with
  | nil => simp [alter, hfresh, Ne.symm hne]
  | cons entry rest ih =>
      by_cases h : key entry = k
      · simp [alter, h, hkeep entry h, Ne.symm hne]
      · simp [alter, h, ih]

theorem lookup_put (x : α) (entries : List α) (k' : κ) :
    lookup key k' (put key x entries) =
      if k' = key x then some x else lookup key k' entries := by
  by_cases h : k' = key x
  · subst h
    rw [put, lookup_alter_self rfl (fun _ _ => rfl)]
    cases lookup key (key x) entries <;> simp
  · simp [put, h, lookup_alter_of_ne h rfl (fun _ _ => rfl)]

/-! ## Keys and positions -/

theorem map_key_alter (hfresh : key fresh = k)
    (hkeep : ∀ x, key x = k → key (overwrite x) = k) (entries : List α) :
    (alter key k overwrite fresh entries).map key =
      if k ∈ entries.map key then entries.map key
      else entries.map key ++ [k] := by
  induction entries with
  | nil => simp [alter, hfresh]
  | cons entry rest ih =>
      by_cases h : key entry = k
      · simp [alter, h, hkeep entry h]
      · rw [alter, if_neg h, List.map_cons, ih]
        by_cases hmem : k ∈ rest.map key <;>
          simp [hmem, Ne.symm h]

theorem nodup_key_alter (hfresh : key fresh = k)
    (hkeep : ∀ x, key x = k → key (overwrite x) = k) {entries : List α}
    (hnodup : (entries.map key).Nodup) :
    ((alter key k overwrite fresh entries).map key).Nodup := by
  rw [map_key_alter hfresh hkeep]
  by_cases hmem : k ∈ entries.map key
  · simpa [hmem] using hnodup
  · rw [if_neg hmem]
    exact List.nodup_append.mpr ⟨hnodup, List.nodup_singleton k,
      fun a ha b hb => by rintro rfl; exact hmem (List.mem_singleton.mp hb ▸ ha)⟩

theorem put_of_notMem {x : α} {entries : List α}
    (h : key x ∉ entries.map key) : put key x entries = entries ++ [x] := by
  unfold put
  induction entries with
  | nil => rfl
  | cons entry rest ih =>
      rw [List.map_cons, List.mem_cons, not_or] at h
      rw [alter, if_neg (Ne.symm h.1), ih h.2]
      rfl

theorem nodup_key_put (x : α) {entries : List α}
    (hnodup : (entries.map key).Nodup) :
    ((put key x entries).map key).Nodup :=
  nodup_key_alter rfl (fun _ _ => rfl) hnodup

variable (key) in
/-- Every element stored under a key other than `k` is the same, and at the
same position, in both lists. -/
def SameExcept (k : κ) (before after : List α) : Prop :=
  ∀ (i : Nat) (x : α), key x ≠ k → (after[i]? = some x ↔ before[i]? = some x)

theorem sameExcept_alter (hfresh : key fresh = k)
    (hkeep : ∀ x, key x = k → key (overwrite x) = k) (entries : List α) :
    SameExcept key k entries (alter key k overwrite fresh entries) := by
  intro i x hx
  induction entries generalizing i with
  | nil =>
      cases i with
      | zero =>
          have hne : fresh ≠ x := fun h => hx (h ▸ hfresh)
          simp [alter, hne]
      | succ i => simp [alter]
  | cons entry rest ih =>
      by_cases h : key entry = k
      · cases i with
        | zero =>
            have hentry : entry ≠ x := fun e => hx (e ▸ h)
            have hover : overwrite entry ≠ x := fun e =>
              hx (e ▸ hkeep entry h)
            simp [alter, h, hentry, hover]
        | succ i => simp [alter, h]
      · cases i with
        | zero => simp [alter, h]
        | succ i => simpa [alter, h] using ih i

theorem sameExcept_put (x : α) (entries : List α) :
    SameExcept key (key x) entries (put key x entries) :=
  sameExcept_alter rfl (fun _ _ => rfl) entries

theorem mem_alter {entries : List α} {x : α}
    (hx : x ∈ alter key k overwrite fresh entries) :
    x = fresh ∨ x ∈ entries ∨ ∃ y ∈ entries, key y = k ∧ x = overwrite y := by
  induction entries with
  | nil => exact .inl (by simpa [alter] using hx)
  | cons entry rest ih =>
      by_cases h : key entry = k
      · rw [alter, if_pos h, List.mem_cons] at hx
        rcases hx with rfl | hrest
        · exact .inr (.inr ⟨entry, by simp, h, rfl⟩)
        · exact .inr (.inl (by simp [hrest]))
      · rw [alter, if_neg h, List.mem_cons] at hx
        rcases hx with rfl | hrest
        · exact .inr (.inl (by simp))
        · rcases ih hrest with hfresh | hmem | ⟨y, hy, hk, hxy⟩
          · exact .inl hfresh
          · exact .inr (.inl (by simp [hmem]))
          · exact .inr (.inr ⟨y, by simp [hy], hk, hxy⟩)

theorem mem_put {entries : List α} {x y : α} (hy : y ∈ put key x entries) :
    y = x ∨ y ∈ entries := by
  rcases mem_alter hy with h | h | ⟨_, _, _, h⟩
  · exact .inl h
  · exact .inr h
  · exact .inl h

theorem mem_put_self (x : α) (entries : List α) : x ∈ put key x entries := by
  have h : lookup key (key x) (put key x entries) = some x := by
    simp [lookup_put]
  exact mem_of_lookup h

theorem mem_put_of_ne {x y : α} {entries : List α} (hy : y ∈ entries)
    (hne : key y ≠ key x) : y ∈ put key x entries := by
  obtain ⟨i, hi⟩ := List.mem_iff_getElem?.mp hy
  exact List.mem_iff_getElem?.mpr
    ⟨i, (sameExcept_put x entries i y hne).mpr hi⟩

/-! ## Histories of insertions -/

variable (key)

/-- The list that inserting `xs` one after the other builds. -/
def putAll (xs : List α) : List α :=
  xs.foldl (fun entries x => put key x entries) []

def latest (xs : List α) (k : κ) : Option α :=
  lookup key k xs.reverse

/-- One element a key, in the order of the keys' first insertions, each the
last one inserted under its key. -/
def history (xs : List α) : List α :=
  (xs.map key).eraseDups.filterMap (latest key xs)

variable {key}

theorem latest_append_singleton (xs : List α) (x : α) :
    latest key (xs ++ [x]) =
      Function.update (latest key xs) (key x) (some x) := by
  funext k
  by_cases h : k = key x
  · subst h
    simp [latest]
  · simp [latest, Function.update_of_ne h, Ne.symm h]

theorem exists_latest_of_mem {xs : List α} {k : κ} (h : k ∈ xs.map key) :
    ∃ x, latest key xs k = some x ∧ key x = k := by
  cases hlatest : latest key xs k with
  | none =>
      rw [latest, lookup_eq_none_iff, List.map_reverse,
        List.mem_reverse] at hlatest
      exact absurd h hlatest
  | some x => exact ⟨x, rfl, key_of_lookup hlatest⟩

theorem put_filterMap (x : α) {keys : List κ} {g : κ → Option α}
    (hnodup : keys.Nodup)
    (hg : ∀ k ∈ keys, ∃ y, g k = some y ∧ key y = k) :
    put key x (keys.filterMap g) =
      (if key x ∈ keys then keys else keys ++ [key x]).filterMap
        (Function.update g (key x) (some x)) := by
  have unchanged : ∀ ks : List κ, key x ∉ ks →
      ks.filterMap (Function.update g (key x) (some x)) = ks.filterMap g := by
    intro ks hks
    refine List.filterMap_congr fun k hk => Function.update_of_ne ?_ _ _
    rintro rfl
    exact hks hk
  induction keys with
  | nil => simp [put, alter]
  | cons k ks ih =>
      obtain ⟨y, hy, hky⟩ := hg k (by simp)
      have hks := List.nodup_cons.mp hnodup
      by_cases h : k = key x
      · subst h
        rw [put, List.filterMap_cons, hy, alter, if_pos hky,
          if_pos List.mem_cons_self, List.filterMap_cons,
          Function.update_self, unchanged ks hks.1]
      · have hrest := ih hks.2 fun k' hk' => hg k' (by simp [hk'])
        rw [put] at hrest
        rw [put, List.filterMap_cons, hy, alter, if_neg (hky ▸ h), hrest]
        by_cases hmem : key x ∈ ks <;>
          simp [hmem, Ne.symm h, hy, Function.update_of_ne h]

theorem eraseDups_append_singleton (keys : List κ) (k : κ) :
    (keys ++ [k]).eraseDups =
      if k ∈ keys then keys.eraseDups else keys.eraseDups ++ [k] := by
  rw [List.eraseDups_append]
  by_cases h : k ∈ keys
  · simp [h, List.removeAll]
  · simp [h, List.removeAll, List.eraseDups_cons]

theorem nodup_eraseDups (keys : List κ) : keys.eraseDups.Nodup := by
  induction keys using List.reverseRecOn with
  | nil => simp
  | append_singleton keys k ih =>
      rw [eraseDups_append_singleton]
      by_cases h : k ∈ keys
      · simpa [h] using ih
      · rw [if_neg h]
        refine List.nodup_append.mpr ⟨ih, List.nodup_singleton k, ?_⟩
        intro a ha b hb
        rintro rfl
        exact h (List.mem_singleton.mp hb ▸ List.mem_eraseDups.mp ha)

/-- Insertions build exactly the history of their arguments. -/
theorem putAll_eq_history (xs : List α) : putAll key xs = history key xs := by
  induction xs using List.reverseRecOn with
  | nil => simp [putAll, history]
  | append_singleton xs x ih =>
      have hstored : ∀ k ∈ (xs.map key).eraseDups,
          ∃ y, latest key xs k = some y ∧ key y = k := fun k hk =>
        exists_latest_of_mem (List.mem_eraseDups.mp hk)
      calc
        putAll key (xs ++ [x]) = put key x (history key xs) := by
          rw [← ih]
          simp [putAll]
        _ = history key (xs ++ [x]) := by
          rw [history, put_filterMap x (nodup_eraseDups _) hstored, history,
            latest_append_singleton, List.map_append, List.map_singleton,
            eraseDups_append_singleton]
          simp only [List.mem_eraseDups]

/-! ## Loops of insertions -/

variable (key) in
def putEach (xs entries : List α) : List α :=
  xs.foldl (fun entries x => put key x entries) entries

theorem latest_cons (x : α) (xs : List α) (k : κ) :
    latest key (x :: xs) k =
      (latest key xs k).or (if k = key x then some x else none) := by
  unfold latest lookup
  rw [List.reverse_cons, List.find?_append, List.find?_singleton]
  by_cases h : key x = k
  · simp [h]
  · simp [h, Ne.symm h]

theorem lookup_putEach (xs entries : List α) (k : κ) :
    lookup key k (putEach key xs entries) =
      (latest key xs k).or (lookup key k entries) := by
  induction xs generalizing entries with
  | nil => rfl
  | cons x xs ih =>
      rw [putEach, List.foldl_cons, ← putEach, ih, latest_cons, lookup_put,
        Option.or_assoc]
      split_ifs <;> rfl

theorem alter_eq_self {x : α} {entries : List α}
    (h : lookup key k entries = some x) (hoverwrite : overwrite x = x) :
    alter key k overwrite fresh entries = entries := by
  induction entries with
  | nil => cases h
  | cons entry entries ih =>
      rw [lookup_cons] at h
      rw [alter]
      split_ifs at h ⊢ with hkey
      · cases h
        rw [hoverwrite]
      · rw [ih h]

theorem put_eq_self {x : α} {entries : List α}
    (h : lookup key (key x) entries = some x) : put key x entries = entries :=
  alter_eq_self h rfl

theorem latest_eq_some_of_mem {xs : List α} {x : α}
    (hnodup : (xs.map key).Nodup) (hx : x ∈ xs) :
    latest key xs (key x) = some x :=
  lookup_eq_some_of_mem (by simpa using hnodup) (List.mem_reverse.mpr hx)

end Keyed

end SlipNet.Foundation
