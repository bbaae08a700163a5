import SlipNet.Foundation.Programs

/-!
# Handles

Some calls hand out a handle, some work on one, and some give one back.  The
monitor keeps the handles that are held; a program that respects it never works
on a handle it does not hold, and where it ends with none in hand it has given
back every handle as often as it was handed out.
-/

namespace SlipNet.Foundation

/-- What a call does with handles, and which handles the system hands out. -/
structure Handles (C : Type) (R : C → Type) (H : Type) where
  issued : H → Prop
  opened : (c : C) → R c → Option H
  used : C → List H
  closed : C → Option H

namespace Handles

variable {C : Type} {R : C → Type} {H α : Type} [DecidableEq H]
  (handles : Handles C R H)

/-- The system does not hand out a handle that is held. -/
def monitor : Monitor C R (List H) where
  allowed held c :=
    (∀ handle ∈ handles.used c, handle ∈ held) ∧
      ∀ handle ∈ handles.closed c, handle ∈ held
  possible held c reply := ∀ handle ∈ handles.opened c reply,
    handles.issued handle ∧ handle ∉ held
  after held c reply :=
    (handles.closed c).elim held held.erase ++
      (handles.opened c reply).toList

def opens (handle : H) (entry : (c : C) × R c) : Bool :=
  handles.opened entry.1 entry.2 = some handle

def closes (handle : H) (entry : (c : C) × R c) : Bool :=
  handles.closed entry.1 = some handle

/-- Calls are made on held handles only, and when the program has returned
every handle was given back as often as it was handed out. -/
structure Tidy (log : Log C R) (returned : Bool) : Prop where
  respects : handles.monitor.Respects [] log
  balanced : returned = true → ∀ handle,
    log.countP (handles.opens handle) = log.countP (handles.closes handle)

variable {handles} {post : α → List H → Prop} {held : List H} {handle : H}
  {c : C} {rest : R c → Program C R α}

/-! ## Single calls -/

theorem safe_uses (hopened : ∀ reply, handles.opened c reply = none)
    (hused : ∀ handle ∈ handles.used c, handle ∈ held)
    (hclosed : handles.closed c = none)
    (h : ∀ reply, handles.monitor.Safe post (rest reply) held) :
    handles.monitor.Safe post (.call c .done >>= rest) held := by
  refine Monitor.safe_call ⟨hused, by simp [hclosed]⟩ (fun reply _ => ?_)
  simpa [monitor, hopened, hclosed] using h reply

theorem safe_plain (hopened : ∀ reply, handles.opened c reply = none)
    (hused : handles.used c = []) (hclosed : handles.closed c = none)
    (h : ∀ reply, handles.monitor.Safe post (rest reply) held) :
    handles.monitor.Safe post (.call c .done >>= rest) held :=
  safe_uses hopened (by simp [hused]) hclosed h

theorem safe_use (hopened : ∀ reply, handles.opened c reply = none)
    (hused : handles.used c = [handle]) (hclosed : handles.closed c = none)
    (hheld : handle ∈ held)
    (h : ∀ reply, handles.monitor.Safe post (rest reply) held) :
    handles.monitor.Safe post (.call c .done >>= rest) held :=
  safe_uses hopened (by simpa [hused] using hheld) hclosed h

theorem safe_make (hused : ∀ handle ∈ handles.used c, handle ∈ held)
    (hclosed : handles.closed c = none)
    (h : ∀ reply, (∀ handle ∈ handles.opened c reply,
      handles.issued handle ∧ handle ∉ held) →
      handles.monitor.Safe post (rest reply)
        (held ++ (handles.opened c reply).toList)) :
    handles.monitor.Safe post (.call c .done >>= rest) held := by
  refine Monitor.safe_call ⟨hused, by simp [hclosed]⟩ (fun reply hreply => ?_)
  simpa [monitor, hclosed] using h reply hreply

theorem safe_open (hused : handles.used c = [])
    (hclosed : handles.closed c = none)
    (h : ∀ reply, (∀ handle ∈ handles.opened c reply,
      handles.issued handle ∧ handle ∉ held) →
      handles.monitor.Safe post (rest reply)
        (held ++ (handles.opened c reply).toList)) :
    handles.monitor.Safe post (.call c .done >>= rest) held :=
  safe_make (by simp [hused]) hclosed h

theorem safe_give (hopened : ∀ reply, handles.opened c reply = none)
    (hused : ∀ handle ∈ handles.used c, handle ∈ held)
    (hclosed : handles.closed c = some handle) (hheld : handle ∈ held)
    (h : ∀ reply, handles.monitor.Safe post (rest reply) (held.erase handle)) :
    handles.monitor.Safe post (.call c .done >>= rest) held := by
  refine Monitor.safe_call ⟨hused, by simpa [hclosed] using hheld⟩
    (fun reply _ => ?_)
  simpa [monitor, hopened, hclosed] using h reply

theorem safe_close (hopened : ∀ reply, handles.opened c reply = none)
    (hused : handles.used c = []) (hclosed : handles.closed c = some handle)
    (hheld : handle ∈ held)
    (h : ∀ reply, handles.monitor.Safe post (rest reply) (held.erase handle)) :
    handles.monitor.Safe post (.call c .done >>= rest) held :=
  safe_give hopened (by simp [hused]) hclosed hheld h

/-! ## Whole programs -/

theorem count_opened_add {held : List H} {log : Log C R}
    (h : handles.monitor.Respects held log) (handle : H) :
    log.countP (handles.opens handle) + held.count handle =
      log.countP (handles.closes handle) +
        (handles.monitor.afterLog held log).count handle := by
  induction log generalizing held with
  | nil => rfl
  | cons entry log ih =>
      obtain ⟨c, reply⟩ := entry
      have hrest := ih h.2
      have hafter : (handles.monitor.after held c reply).count handle +
          (if handles.closes handle ⟨c, reply⟩ then 1 else 0) =
            held.count handle +
              if handles.opens handle ⟨c, reply⟩ then 1 else 0 := by
        have hopened : (handles.opened c reply).toList.count handle =
            if handles.opens handle ⟨c, reply⟩ then 1 else 0 := by
          unfold opens
          cases handles.opened c reply with
          | none => simp
          | some opened => simp [List.count_singleton]
        have hclosed : ((handles.closed c).elim held held.erase).count handle +
            (if handles.closes handle ⟨c, reply⟩ then 1 else 0) =
              held.count handle := by
          have hheld := h.1.2
          unfold closes
          cases hclose : handles.closed c with
          | none => simp
          | some closed =>
              by_cases heq : closed = handle
              · subst heq
                have hpos := List.count_pos_iff.mpr (hheld closed hclose)
                simp only [Option.elim_some, List.count_erase_self, if_true,
                  decide_true]
                omega
              · simp [heq, List.count_erase_of_ne (Ne.symm heq)]
        rw [monitor, List.count_append, hopened]
        omega
      rw [List.countP_cons, List.countP_cons]
      change _ = _ + (handles.monitor.afterLog
        (handles.monitor.after held c reply) log).count handle
      omega

variable (handles) in
/-- Whatever possible replies come and however far the program gets, it is
tidy. -/
def Releases (program : Program C R α) : Prop :=
  ∀ log result, Executes program log result →
    handles.monitor.Possible [] log → handles.Tidy log result.isSome

theorem releases_of_safe {program : Program C R α}
    (h : handles.monitor.Safe (fun _ held => held = []) program []) :
    handles.Releases program := by
  intro log result hexecutes hpossible
  obtain ⟨hrespects, hpost⟩ := h.sound hexecutes hpossible
  refine ⟨hrespects, fun hreturned handle => ?_⟩
  obtain ⟨value, rfl⟩ := Option.isSome_iff_exists.mp hreturned
  have hcount := count_opened_add hrespects handle
  rw [hpost value rfl] at hcount
  simpa using hcount

end Handles

end SlipNet.Foundation
