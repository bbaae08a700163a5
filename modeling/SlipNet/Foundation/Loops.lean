import Mathlib.Logic.Relation
import Mathlib.Tactic

/-!
# Loops

The body of a loop either leaves it with a result or goes on with a new state.
A loop whose body lowers a measure ends.  Where the body only never raises it,
the loop ends or comes to a state from which it goes on for ever without
lowering the measure again, and not both.
-/

namespace SlipNet.Foundation

open Relation

variable {σ ρ : Type*}

/-- The result of the loop, if at most `fuel` turns are needed. -/
def loop (body : σ → Except ρ σ) : Nat → σ → Option ρ
  | 0, _ => none
  | fuel + 1, s =>
      match body s with
      | .error result => some result
      | .ok t => loop body fuel t

/-- The states that the loop passes on its way from `s`. -/
def Reaches (body : σ → Except ρ σ) : σ → σ → Prop :=
  ReflTransGen fun s t => body s = .ok t

variable {body : σ → Except ρ σ} {s t : σ} {result : ρ}

theorem reaches_of_loop {fuel : Nat} (h : loop body fuel s = some result) :
    ∃ last, Reaches body s last ∧ body last = .error result := by
  induction fuel generalizing s with
  | zero => cases h
  | succ fuel ih =>
      rw [loop] at h
      cases hbody : body s with
      | error left =>
          rw [hbody] at h
          exact ⟨s, .refl, hbody.trans (congrArg _ (Option.some.inj h))⟩
      | ok t =>
          rw [hbody] at h
          obtain ⟨last, hreaches, hlast⟩ := ih h
          exact ⟨last, .head hbody hreaches, hlast⟩

theorem loop_of_reaches (h : Reaches body s t)
    (hlast : body t = .error result) :
    ∃ fuel, loop body fuel s = some result := by
  induction h using ReflTransGen.head_induction_on with
  | refl => exact ⟨1, by rw [loop, hlast]⟩
  | head hbody _ ih =>
      obtain ⟨fuel, hfuel⟩ := ih
      exact ⟨fuel + 1, by rw [loop, hbody]; exact hfuel⟩

theorem Reaches.invariant (h : Reaches body s t) (inv : σ → Prop)
    (preserved : ∀ u v, inv u → body u = .ok v → inv v) (hs : inv s) :
    inv t := by
  induction h with
  | refl => exact hs
  | tail _ hbody ih => exact preserved _ _ ih hbody

theorem exists_loop_of_measure (inv : σ → Prop) (measure : σ → Nat)
    (preserved : ∀ u v, inv u → body u = .ok v → inv v)
    (lowers : ∀ u v, inv u → body u = .ok v → measure v < measure u)
    (h : inv s) : ∃ result, loop body (measure s + 1) s = some result := by
  generalize hbound : measure s = bound
  have hle : measure s ≤ bound := hbound.le
  clear hbound
  induction bound generalizing s with
  | zero =>
      rw [loop]
      cases hbody : body s with
      | error left => exact ⟨left, rfl⟩
      | ok t =>
          have hlower := lowers s t h hbody
          omega
  | succ bound ih =>
      rw [loop]
      cases hbody : body s with
      | error left => exact ⟨left, rfl⟩
      | ok t =>
          have hlower := lowers s t h hbody
          exact ih (preserved s t h hbody) (by omega)

/-- From `t` on the loop goes on for ever and the measure stays. -/
def Stuck (body : σ → Except ρ σ) (measure : σ → Nat) (t : σ) : Prop :=
  ∀ u, Reaches body t u → measure u = measure t ∧ ∃ v, body u = .ok v

theorem exists_loop_or_stuck (measure : σ → Nat)
    (falls : ∀ u v, body u = .ok v → measure v ≤ measure u) (s : σ) :
    (∃ fuel result, loop body fuel s = some result) ∨
      ∃ t, Reaches body s t ∧ Stuck body measure t := by
  induction hbound : measure s using Nat.strong_induction_on generalizing s with
  | _ bound ih =>
      by_cases hstuck : Stuck body measure s
      · exact .inr ⟨s, .refl, hstuck⟩
      · unfold Stuck at hstuck
        push Not at hstuck
        obtain ⟨u, hreaches, hu⟩ := hstuck
        by_cases hsame : measure u = measure s
        · -- the loop is left at `u`
          cases hbody : body u with
          | error result =>
              obtain ⟨fuel, hfuel⟩ := loop_of_reaches hreaches hbody
              exact .inl ⟨fuel, result, hfuel⟩
          | ok v => exact absurd hbody (hu hsame v)
        · have hle : measure u ≤ measure s :=
            hreaches.invariant (fun v => measure v ≤ measure s)
              (fun v w hv hbody => (falls v w hbody).trans hv) le_rfl
          obtain ⟨fuel, result, hfuel⟩ | ⟨t, hu', ht⟩ :=
            ih (measure u) (by omega) u rfl
          · obtain ⟨last, hlast, hleft⟩ := reaches_of_loop hfuel
            obtain ⟨more, hmore⟩ := loop_of_reaches
              (ReflTransGen.trans hreaches hlast) hleft
            exact .inl ⟨more, result, hmore⟩
          · exact .inr ⟨t, ReflTransGen.trans hreaches hu', ht⟩

theorem not_loop_of_forever (h : Reaches body s t)
    (forever : ∀ u, Reaches body t u → ∃ v, body u = .ok v) (fuel : Nat) :
    loop body fuel s = none := by
  cases hloop : loop body fuel s with
  | none => rfl
  | some result =>
      obtain ⟨last, hlast, hleft⟩ := reaches_of_loop hloop
      have hunique : Relator.RightUnique fun u v => body u = .ok v :=
        fun _ _ _ hfirst hsecond =>
          Except.ok.inj (hfirst.symm.trans hsecond)
      obtain hlater | hearlier :=
        ReflTransGen.total_of_right_unique hunique h hlast
      · obtain ⟨v, hv⟩ := forever last hlater
        rw [hleft] at hv
        cases hv
      · -- nothing comes after the state in which the loop is left
        obtain rfl | ⟨v, hv, _⟩ := ReflTransGen.cases_head hearlier
        · obtain ⟨v, hv⟩ := forever last .refl
          rw [hleft] at hv
          cases hv
        · rw [hleft] at hv
          cases hv

end SlipNet.Foundation
