import SlipNet.Foundation.Runs

/-!
# The last write of a run

What a run leaves in a cell that some steps overwrite, and the others leave
alone, is the value of the last step that writes, or what the cell held at the
start.
-/

namespace SlipNet.Foundation

variable {σ α ω : Type*} {step : σ → α → σ → Prop}

def written (writes : σ → α → Option ω) (trace : List (σ × α)) : List ω :=
  trace.filterMap fun entry => writes entry.1 entry.2

/-- The last step of the trace that writes has written this value. -/
def LastWrite (writes : σ → α → Option ω) (trace : List (σ × α)) (value : ω) :
    Prop :=
  ∃ before t a after, trace = before ++ (t, a) :: after ∧
    writes t a = some value ∧ ∀ entry ∈ after, writes entry.1 entry.2 = none

variable {writes : σ → α → Option ω} {trace : List (σ × α)} {value : ω}

theorem written_append_singleton (t : σ) (a : α) :
    written writes (trace ++ [(t, a)]) =
      written writes trace ++ (writes t a).toList := by
  rw [written, List.filterMap_append, ← written]
  cases h : writes t a <;> simp [h]

theorem lastWrite_append_singleton (t : σ) (a : α) :
    LastWrite writes (trace ++ [(t, a)]) value ↔
      writes t a = some value ∨
        writes t a = none ∧ LastWrite writes trace value := by
  constructor
  · rintro ⟨before, t', a', after, htrace, hvalue, hafter⟩
    rcases concat_eq_append_cons_iff.mp htrace with
      ⟨rfl, rfl, hlast⟩ | ⟨rest, rfl, rfl⟩
    · cases hlast
      exact .inl hvalue
    · refine .inr ⟨hafter (t, a) (by simp), before, t', a', rest, rfl, hvalue,
        fun entry hentry => hafter entry (List.mem_append_left _ hentry)⟩
  · rintro (hvalue | ⟨hnone, before, t', a', after, rfl, hvalue, hafter⟩)
    · exact ⟨trace, t, a, [], rfl, hvalue, by simp⟩
    · refine ⟨before, t', a', after ++ [(t, a)], by simp, hvalue, ?_⟩
      intro entry hentry
      rcases List.mem_append.mp hentry with hentry | hentry
      · exact hafter entry hentry
      · rw [List.mem_singleton.mp hentry]
        exact hnone

theorem getLast?_written_eq_some_iff :
    (written writes trace).getLast? = some value ↔
      LastWrite writes trace value := by
  induction trace using List.reverseRecOn with
  | nil =>
      refine iff_of_false (by simp [written]) ?_
      rintro ⟨before, t, a, after, htrace, _⟩
      simp at htrace
  | append_singleton trace entry ih =>
      obtain ⟨t, a⟩ := entry
      rw [written_append_singleton, lastWrite_append_singleton, ← ih]
      cases writes t a <;> simp

namespace Run

variable {s u : σ}

/-- Where every step overwrites or keeps what is observed, the last write
stays. -/
theorem observed (run : Run step s trace u) (inv : σ → Prop) (observe : σ → ω)
    (preserved : ∀ t a u, inv t → step t a u → inv u)
    (hstep : ∀ t a u, inv t → step t a u →
      observe u = (writes t a).getD (observe t)) (h : inv s) :
    observe u = (written writes trace).getLast?.getD (observe s) := by
  induction run with
  | refl => rfl
  | @tail t u a trace run last ih =>
      rw [hstep t a u (run.invariant inv preserved h) last, ih,
        written_append_singleton]
      cases writes t a <;> simp

/-- A cell that is empty at the start holds exactly the last write. -/
theorem observed_eq_iff (run : Run step s trace u) (inv : σ → Prop)
    (observe : σ → ω) (preserved : ∀ t a u, inv t → step t a u → inv u)
    (hstep : ∀ t a u, inv t → step t a u →
      observe u = (writes t a).getD (observe t)) (h : inv s)
    (hvalue : value ≠ observe s) :
    observe u = value ↔ LastWrite writes trace value := by
  rw [run.observed inv observe preserved hstep h,
    ← getLast?_written_eq_some_iff]
  cases (written writes trace).getLast? with
  | none => simpa using hvalue.symm
  | some last => simp

end Run

end SlipNet.Foundation
