import SlipNet.Foundation.LastWrite

/-!
# Simulated and rearranged runs

A relation that every step keeps carries a run over to a related state, action
by action; a view of the states carries it over to the actions that some of the
steps emit, where the view changes with those steps only.  Two neighbouring
actions whose order does not matter up to such a relation may be exchanged
anywhere in a run, and so may any number of them.
-/

namespace SlipNet.Foundation

variable {σ τ α : Type*} {step : σ → α → σ → Prop} {step' : τ → α → τ → Prop}

def actions (trace : List (σ × α)) : List α := trace.map Prod.snd

@[simp] theorem actions_append (before after : List (σ × α)) :
    actions (before ++ after) = actions before ++ actions after :=
  List.map_append

@[simp] theorem actions_nil : actions ([] : List (σ × α)) = [] := rfl

@[simp] theorem actions_cons (s : σ) (a : α) (trace : List (σ × α)) :
    actions ((s, a) :: trace) = a :: actions trace := rfl

/-- From related states the same action leads to related states. -/
def Simulates (related : σ → τ → Prop) (step : σ → α → σ → Prop)
    (step' : τ → α → τ → Prop) : Prop :=
  ∀ s a t s', related s s' → step s a t → ∃ t', step' s' a t' ∧ related t t'

namespace Run

theorem append {s t u : σ} {before after : List (σ × α)}
    (first : Run step s before t) (second : Run step t after u) :
    Run step s (before ++ after) u := by
  induction second with
  | refl => simpa using first
  | tail _ last ih =>
      rw [← List.append_assoc]
      exact ih.tail last

theorem simulated {related : σ → τ → Prop}
    (hsim : Simulates related step step') {s u : σ} {s' : τ}
    {trace : List (σ × α)} (run : Run step s trace u) (h : related s s') :
    ∃ trace' u', Run step' s' trace' u' ∧ actions trace' = actions trace ∧
      related u u' := by
  induction run with
  | refl => exact ⟨[], s', .refl s', rfl, h⟩
  | @tail t u a trace run last ih =>
      obtain ⟨trace', t', run', hactions, hrelated⟩ := ih
      obtain ⟨u', last', hrelated'⟩ := hsim t a u t' hrelated last
      exact ⟨_, u', run'.tail last', by simp [hactions], hrelated'⟩

/-- Each step emits an action that its view takes, or leaves the view alone. -/
theorem viewed {β : Type*} {step' : τ → β → τ → Prop} (view : σ → τ)
    (emits : σ → α → Option β)
    (hemits : ∀ s a t b, step s a t → emits s a = some b →
      step' (view s) b (view t))
    (hsilent : ∀ s a t, step s a t → emits s a = none → view t = view s)
    {s u : σ} {trace : List (σ × α)} (run : Run step s trace u) :
    ∃ trace', Run step' (view s) trace' (view u) ∧
      actions trace' = written emits trace := by
  induction run with
  | refl => exact ⟨[], .refl _, rfl⟩
  | @tail t u a trace run last ih =>
      obtain ⟨trace', run', hactions⟩ := ih
      rw [written_append_singleton]
      cases hemit : emits t a with
      | none =>
          rw [hsilent t a u last hemit]
          exact ⟨trace', run', by simp [hactions]⟩
      | some b =>
          exact ⟨_, run'.tail (hemits t a u b last hemit), by simp [hactions]⟩

theorem of_actions_append {s u : σ} {trace : List (σ × α)}
    {before after : List α} (run : Run step s trace u)
    (h : actions trace = before ++ after) :
    ∃ first second t, Run step s first t ∧ Run step t second u ∧
      actions first = before ∧ actions second = after := by
  induction run generalizing after with
  | refl =>
      obtain ⟨rfl, rfl⟩ := List.append_eq_nil_iff.mp h.symm
      exact ⟨[], [], s, .refl s, .refl s, rfl, rfl⟩
  | @tail t u a trace run last ih =>
      rw [actions_append, actions_cons, actions_nil] at h
      rcases List.eq_nil_or_concat' after with rfl | ⟨rest, b, rfl⟩
      · rw [List.append_nil] at h
        refine ⟨trace ++ [(t, a)], [], u, run.tail last, .refl u, ?_, rfl⟩
        rw [actions_append, actions_cons, actions_nil, h]
      · rw [← List.append_assoc] at h
        obtain ⟨htrace, rfl⟩ := List.append_singleton_inj.mp h
        obtain ⟨first, second, v, hfirst, hsecond, rfl, rfl⟩ := ih htrace
        exact ⟨first, second ++ [(t, a)], v, hfirst, hsecond.tail last, rfl,
          by simp⟩

theorem of_actions_cons {s u : σ} {trace : List (σ × α)} {a : α}
    {after : List α} (run : Run step s trace u)
    (h : actions trace = a :: after) :
    ∃ t second, step s a t ∧ Run step t second u ∧ actions second = after := by
  have hsplit : actions trace = [a] ++ after := h
  obtain ⟨first, second, t, hfirst, hsecond, hone, hrest⟩ :=
    run.of_actions_append hsplit
  refine ⟨t, second, ?_, hsecond, hrest⟩
  cases hfirst with
  | refl => cases hone
  | @tail v _ b trace hrun hlast =>
      rw [actions_append, actions_cons, actions_nil] at hone
      obtain ⟨hnil, rfl⟩ := List.append_singleton_inj.mp
        (hone.trans (List.nil_append [a]).symm)
      cases hrun with
      | refl => exact hlast
      | tail => simp [actions] at hnil

end Run

/-! ## Rearrangements -/

inductive Exchange (independent : α → α → Prop) : List α → List α → Prop
  | swap (before : List α) {a b : α} (after : List α) (h : independent a b) :
      Exchange independent (before ++ a :: b :: after)
        (before ++ b :: a :: after)

/-- Any number of exchanges, one after the other. -/
def Rearranged (independent : α → α → Prop) : List α → List α → Prop :=
  Relation.ReflTransGen (Exchange independent)

/-- Exchanging the actions leads to a related state. -/
def Commutes (related : σ → σ → Prop) (step : σ → α → σ → Prop) (a b : α) :
    Prop :=
  ∀ s t u, step s a t → step t b u →
    ∃ t' u', step s b t' ∧ step t' a u' ∧ related u u'

variable {related : σ → σ → Prop} {independent : α → α → Prop} {s u : σ}
  {trace : List (σ × α)} {reordered : List α}

theorem Run.exchanged (run : Run step s trace u)
    (hsim : Simulates related step step)
    (hcommutes : ∀ a b, independent a b → Commutes related step a b)
    (h : Exchange independent (actions trace) reordered) :
    ∃ trace' u', Run step s trace' u' ∧ actions trace' = reordered ∧
      related u u' := by
  generalize hactions : actions trace = original at h
  cases h with
  | swap before after hindependent =>
      rename_i a b
      obtain ⟨first, second, t, hfirst, hsecond, rfl, htail⟩ :=
        run.of_actions_append hactions
      obtain ⟨v, rest, hstep, hrest, hactions'⟩ := hsecond.of_actions_cons htail
      obtain ⟨w, last, hstep', hlast, rfl⟩ := hrest.of_actions_cons hactions'
      obtain ⟨v', w', hb, ha, hrelated⟩ :=
        hcommutes a b hindependent t v w hstep hstep'
      obtain ⟨last', u', hlast', hsame, hend⟩ := hlast.simulated hsim hrelated
      refine ⟨_, u', ((hfirst.tail hb).tail ha).append hlast', ?_, hend⟩
      simp [hsame]

/-- A run may be rearranged along independent actions, up to a relation that
every step keeps. -/
theorem Run.rearranged (run : Run step s trace u)
    (hsim : Simulates related step step) (hrefl : ∀ s, related s s)
    (htrans : ∀ s t u, related s t → related t u → related s u)
    (hcommutes : ∀ a b, independent a b → Commutes related step a b)
    (h : Rearranged independent (actions trace) reordered) :
    ∃ trace' u', Run step s trace' u' ∧ actions trace' = reordered ∧
      related u u' := by
  induction h with
  | refl => exact ⟨trace, u, run, rfl, hrefl u⟩
  | tail _ hexchange ih =>
      obtain ⟨trace', u', run', rfl, hrelated⟩ := ih
      obtain ⟨trace'', u'', run'', hactions, hrelated'⟩ :=
        run'.exchanged hsim hcommutes hexchange
      exact ⟨trace'', u'', run'', hactions, htrans _ _ _ hrelated hrelated'⟩

end SlipNet.Foundation
