import SlipNet.Foundation.Loops
import SlipNet.Platform.Tcp

/-!
# Sending over TCP

`tcpSend` hands what is left of its data to `send` until nothing is left.  The
Linux file gives up at an error and at a count of zero; the Windows file gives
up at an error only, so a socket that takes nothing keeps it in the loop.
-/

namespace SlipNet.Platform

open SlipNet.Foundation
open SlipNet.Standard

/-! ## The loop -/

/-- A value that `send` can return: an error, or a count of at most the bytes
offered. -/
def SendReturn (offered : Int) : Type :=
  { sent : Int // sent = -1 ∨ 0 ≤ sent ∧ sent ≤ offered }

/-- The value of each call, in whatever number the bytes are offered. -/
abbrev Schedule := Nat → (offered : Int) → SendReturn offered

/-- `offset` is the distance of `buffer` from the start of the data; `accepted`
is what the calls of `send` took. -/
structure SendState where
  calls : Nat := 0
  offset : Nat := 0
  remaining : Nat
  accepted : Str := []
  deriving DecidableEq, Repr

/-- What the two files do differently: the length that `send` is called with,
and the values that end the loop. -/
structure SendRules where
  offered : Nat → Int
  failed : Int → Bool
  offered_le : ∀ remaining, offered remaining ≤ remaining
  failed_error : failed (-1) = true
  not_failed_of_pos : ∀ sent, 0 < sent → failed sent = false

variable (rules : SendRules) (data : Str) (schedule : Schedule)

def SendRules.sent (state : SendState) : Int :=
  (schedule state.calls (rules.offered state.remaining)).1

/-- The state behind a call of `send`, before its value is looked at. -/
def SendRules.called (state : SendState) : SendState :=
  { state with
    calls := state.calls + 1
    accepted := state.accepted ++
      (data.drop state.offset).take (rules.sent schedule state).toNat }

def SendRules.body (state : SendState) :
    Except (Bool × SendState) SendState :=
  if state.remaining = 0 then .error (true, state)
  else
    let sent := rules.sent schedule state
    let called := rules.called data schedule state
    if rules.failed sent then .error (false, called)
    else
      .ok { called with
        offset := state.offset + sent.toNat
        remaining := state.remaining - sent.toNat }

def sendStart : SendState := { remaining := data.length }

/-- `none` while more than `fuel` turns are needed. -/
def SendRules.tcpSend (connection : TcpConnection) (fuel : Nat) :
    Option (Bool × SendState) :=
  if !connection.valid then some (false, sendStart data)
  else loop (rules.body data schedule) fuel (sendStart data)

def Linux.sendRules : SendRules where
  offered remaining := remaining
  failed sent := sent ≤ 0
  offered_le _ := le_rfl
  failed_error := by decide
  not_failed_of_pos sent hpos := by simpa using hpos

def Linux.tcpSend (connection : TcpConnection) (data : Str)
    (schedule : Schedule) (fuel : Nat) : Option (Bool × SendState) :=
  sendRules.tcpSend data schedule connection fuel

def Windows.offered (remaining : Nat) : Int :=
  (UInt32.ofNat remaining).toInt32.toInt

theorem Windows.offered_le (remaining : Nat) :
    offered remaining ≤ remaining := by
  have hvalue : (UInt32.ofNat remaining).toNat ≤ remaining := by
    rw [UInt32.toNat_ofNat']
    exact Nat.mod_le _ _
  have hint : offered remaining ≤ (UInt32.ofNat remaining).toNat := by
    rw [offered, Int32.toInt, UInt32.toBitVec_toInt32,
      BitVec.toInt_eq_toNat_cond, UInt32.toNat_toBitVec]
    split <;> omega
  omega

def Windows.SOCKET_ERROR : Int := -1

def Windows.sendRules : SendRules where
  offered := offered
  failed sent := sent = SOCKET_ERROR
  offered_le := offered_le
  failed_error := by decide
  not_failed_of_pos sent hpos := by
    rw [decide_eq_false_iff_not, SOCKET_ERROR]
    omega

def Windows.tcpSend (connection : TcpConnection) (data : Str)
    (schedule : Schedule) (fuel : Nat) : Option (Bool × SendState) :=
  sendRules.tcpSend data schedule connection fuel

/-! ## What one turn does -/

namespace SendRules

variable {rules data schedule} {state next last : SendState} {result : Bool}

theorem body_eq_ok (h : rules.body data schedule state = .ok next) :
    state.remaining ≠ 0 ∧ rules.failed (rules.sent schedule state) = false ∧
      next =
        { rules.called data schedule state with
          offset := state.offset + (rules.sent schedule state).toNat
          remaining :=
            state.remaining - (rules.sent schedule state).toNat } := by
  unfold body at h
  dsimp only at h
  split_ifs at h with hempty hfailed
  exact ⟨hempty, by simpa using hfailed, (Except.ok.inj h).symm⟩

theorem body_eq_error
    (h : rules.body data schedule state = .error (result, last)) :
    state.remaining = 0 ∧ result = true ∧ last = state ∨
      state.remaining ≠ 0 ∧ rules.failed (rules.sent schedule state) = true ∧
        result = false ∧ last = rules.called data schedule state := by
  unfold body at h
  dsimp only at h
  split_ifs at h with hempty hfailed
  · obtain ⟨rfl, rfl⟩ := Prod.mk.inj (Except.error.inj h)
    exact .inl ⟨hempty, rfl, rfl⟩
  · obtain ⟨rfl, rfl⟩ := Prod.mk.inj (Except.error.inj h)
    exact .inr ⟨hempty, hfailed, rfl, rfl⟩

theorem sent_of_not_failed
    (h : rules.failed (rules.sent schedule state) = false) :
    0 ≤ rules.sent schedule state ∧
      rules.sent schedule state ≤ state.remaining := by
  have hle := rules.offered_le state.remaining
  obtain herror | ⟨hnonneg, hoffered⟩ :=
    (schedule state.calls (rules.offered state.remaining)).2
  · have hfailed := rules.failed_error
    rw [← herror] at hfailed
    exact absurd (h.symm.trans hfailed) (by decide)
  · exact ⟨hnonneg, hoffered.trans hle⟩

theorem sent_of_failed (h : rules.failed (rules.sent schedule state) = true) :
    (rules.sent schedule state).toNat = 0 := by
  by_contra hne
  have hpos : 0 < rules.sent schedule state := by omega
  exact absurd ((rules.not_failed_of_pos _ hpos).symm.trans h) (by decide)

/-! ## The bytes that were accepted -/

/-- The buffer stands behind the accepted bytes, and what remains is the rest
of the data. -/
structure Follows (data : Str) (state : SendState) : Prop where
  offset_add : state.offset + state.remaining = data.length
  accepted_eq : state.accepted = data.take state.offset

theorem follows_start (data : Str) : Follows data (sendStart data) :=
  ⟨Nat.zero_add _, rfl⟩

theorem accepted_called (h : Follows data state) :
    (rules.called data schedule state).accepted =
      data.take (state.offset + (rules.sent schedule state).toNat) := by
  rw [called, h.accepted_eq, ← List.take_add]

theorem follows_body (h : Follows data state)
    (hbody : rules.body data schedule state = .ok next) :
    Follows data next := by
  obtain ⟨_, hfailed, rfl⟩ := body_eq_ok hbody
  have hsent := sent_of_not_failed hfailed
  have hadd := h.offset_add
  exact ⟨by dsimp only; omega, accepted_called h⟩

theorem follows_of_reaches (data : Str)
    (h : Reaches (rules.body data schedule) (sendStart data) state) :
    Follows data state :=
  h.invariant (Follows data) (fun _ _ => follows_body) (follows_start data)

theorem accepted_of_body_eq_error (h : Follows data state)
    (hbody : rules.body data schedule state = .error (result, last)) :
    last.accepted <+: data ∧ (result = true ↔ last.accepted = data) := by
  have hadd := h.offset_add
  obtain ⟨hempty, rfl, rfl⟩ | ⟨hne, hfailed, rfl, rfl⟩ := body_eq_error hbody
  · have hall : last.accepted = data := by
      rw [h.accepted_eq, List.take_of_length_le (by omega)]
    exact ⟨hall ▸ List.prefix_rfl, iff_of_true rfl hall⟩
  · have htaken : (rules.called data schedule state).accepted =
        data.take state.offset := by
      rw [accepted_called h, sent_of_failed hfailed, Nat.add_zero]
    refine ⟨htaken ▸ List.take_prefix _ _, ?_⟩
    refine iff_of_false Bool.false_ne_true fun hall => ?_
    have hlength := congrArg List.length (htaken.symm.trans hall)
    rw [List.length_take] at hlength
    omega

theorem accepted_of_loop {fuel : Nat}
    (h : loop (rules.body data schedule) fuel (sendStart data) =
      some (result, last)) :
    last.accepted <+: data ∧ (result = true ↔ last.accepted = data) := by
  obtain ⟨state, hreaches, hbody⟩ := reaches_of_loop h
  exact accepted_of_body_eq_error (follows_of_reaches data hreaches) hbody

/-! ## Termination -/

theorem exists_loop_of_failed_zero (hzero : rules.failed 0 = true) :
    ∃ outcome, loop (rules.body data schedule) (data.length + 1)
      (sendStart data) = some outcome := by
  refine exists_loop_of_measure (fun _ => True) SendState.remaining
    (fun _ _ _ _ => trivial) ?_ trivial
  intro state next _ hbody
  obtain ⟨hne, hfailed, rfl⟩ := body_eq_ok hbody
  have hsent := sent_of_not_failed hfailed
  have hprogress : rules.sent schedule state ≠ 0 := by
    intro hsame
    rw [hsame, hzero] at hfailed
    cases hfailed
  dsimp only
  omega

/-- The loop comes to a state with bytes left from which `send` takes none. -/
def Stalls (rules : SendRules) (data : Str) (schedule : Schedule) : Prop :=
  ∃ state, Reaches (rules.body data schedule) (sendStart data) state ∧
    state.remaining ≠ 0 ∧ ∀ call, state.calls ≤ call →
      (schedule call (rules.offered state.remaining)).1 = 0

theorem forever_of_stalled (hzero : rules.failed 0 = false)
    (hne : state.remaining ≠ 0)
    (hstalled : ∀ call, state.calls ≤ call →
      (schedule call (rules.offered state.remaining)).1 = 0)
    (h : Reaches (rules.body data schedule) state next) :
    ∃ after, rules.body data schedule next = .ok after := by
  have hsent : ∀ later : SendState, later.remaining = state.remaining →
      state.calls ≤ later.calls → rules.sent schedule later = 0 := by
    intro later hsame hcalls
    rw [sent, hsame]
    exact hstalled later.calls hcalls
  have hstays : next.remaining = state.remaining ∧
      state.calls ≤ next.calls := by
    refine h.invariant (fun later => later.remaining = state.remaining ∧
      state.calls ≤ later.calls) ?_ ⟨rfl, le_rfl⟩
    rintro later following ⟨hsame, hcalls⟩ hbody
    obtain ⟨_, _, rfl⟩ := body_eq_ok hbody
    rw [hsent later hsame hcalls]
    exact ⟨hsame, Nat.le_succ_of_le hcalls⟩
  cases hbody : rules.body data schedule next with
  | ok after => exact ⟨after, rfl⟩
  | error outcome =>
      obtain ⟨hempty, _⟩ | ⟨_, hfailed, _⟩ := body_eq_error hbody
      · exact absurd (hstays.1.symm.trans hempty) hne
      · rw [hsent next hstays.1 hstays.2, hzero] at hfailed
        cases hfailed

theorem exists_reached_of_stuck
    (h : Stuck (rules.body data schedule) SendState.remaining state)
    (count : Nat) :
    ∃ later, Reaches (rules.body data schedule) state later ∧
      later.remaining = state.remaining ∧
      later.calls = state.calls + count := by
  induction count with
  | zero => exact ⟨state, .refl, rfl, rfl⟩
  | succ count ih =>
      obtain ⟨later, hreaches, hsame, hcalls⟩ := ih
      obtain ⟨_, following, hbody⟩ := h later hreaches
      have hnext := hreaches.tail hbody
      refine ⟨following, hnext, (h following hnext).1, ?_⟩
      obtain ⟨_, _, rfl⟩ := body_eq_ok hbody
      rw [called, hcalls]
      rfl

theorem stalls_of_stuck
    (hreaches : Reaches (rules.body data schedule) (sendStart data) state)
    (h : Stuck (rules.body data schedule) SendState.remaining state) :
    Stalls rules data schedule := by
  obtain ⟨_, _, hbody⟩ := h state .refl
  obtain ⟨hne, _, _⟩ := body_eq_ok hbody
  refine ⟨state, hreaches, hne, fun call hcall => ?_⟩
  obtain ⟨count, rfl⟩ := Nat.exists_eq_add_of_le hcall
  obtain ⟨later, hlater, hsame, hcalls⟩ := exists_reached_of_stuck h count
  obtain ⟨_, following, hnext⟩ := h later hlater
  have hkept := (h following (hlater.tail hnext)).1
  obtain ⟨_, hfailed, rfl⟩ := body_eq_ok hnext
  have hsent := sent_of_not_failed hfailed
  dsimp only at hkept
  have hzero : rules.sent schedule later = 0 := by omega
  rwa [sent, hcalls, hsame] at hzero

/-- Where a count of zero goes on, the loop ends unless it stalls. -/
theorem exists_loop_iff (hzero : rules.failed 0 = false) :
    (∃ fuel outcome, loop (rules.body data schedule) fuel (sendStart data) =
      some outcome) ↔ ¬ Stalls rules data schedule := by
  constructor
  · rintro ⟨fuel, outcome, hloop⟩ ⟨state, hreaches, hne, hstalled⟩
    have hnone := not_loop_of_forever hreaches
      (fun _ => forever_of_stalled hzero hne hstalled) fuel
    rw [hloop] at hnone
    cases hnone
  · intro hstalls
    have hfalls : ∀ u v, rules.body data schedule u = .ok v →
        v.remaining ≤ u.remaining := by
      intro u v hbody
      obtain ⟨_, _, rfl⟩ := body_eq_ok hbody
      exact Nat.sub_le _ _
    obtain hloop | ⟨state, hreaches, hstuck⟩ :=
      exists_loop_or_stuck SendState.remaining hfalls (sendStart data)
    · exact hloop
    · exact absurd (stalls_of_stuck hreaches hstuck) hstalls

end SendRules

/-! ## Both platforms -/

/-- The loop ends, what `send` took is a start of the data all along, and the
result tells whether it is all of it. -/
structure Delivers (data : Str)
    (body : SendState → Except (Bool × SendState) SendState)
    (tcpSend : Nat → Option (Bool × SendState)) : Prop where
  terminates : ∃ fuel outcome, tcpSend fuel = some outcome
  in_order : ∀ state, Reaches body (sendStart data) state →
    state.accepted <+: data
  ended : ∀ fuel result last, tcpSend fuel = some (result, last) →
    last.accepted <+: data ∧ (result = true ↔ last.accepted = data)

theorem SendRules.delivers_iff (connection : TcpConnection) :
    Delivers data (rules.body data schedule)
        (rules.tcpSend data schedule connection) ↔
      (connection.valid = true ∨ data ≠ []) ∧
        (connection.valid = true → ∃ fuel outcome,
          loop (rules.body data schedule) fuel (sendStart data) =
            some outcome) := by
  have horder : ∀ state,
      Reaches (rules.body data schedule) (sendStart data) state →
        state.accepted <+: data := by
    intro state hreaches
    rw [(follows_of_reaches data hreaches).accepted_eq]
    exact List.take_prefix _ _
  cases hvalid : connection.valid with
  | false =>
      have hsend : ∀ fuel, rules.tcpSend data schedule connection fuel =
          some (false, sendStart data) := fun fuel => by
        rw [tcpSend, hvalid]
        rfl
      simp only [Bool.false_eq_true, false_or, false_imp_iff, and_true]
      constructor
      · rintro h rfl
        exact absurd ((h.ended 0 _ _ (hsend 0)).2.mpr rfl) (by decide)
      · intro hne
        refine ⟨⟨0, _, hsend 0⟩, horder, fun fuel result last hresult => ?_⟩
        rw [hsend fuel] at hresult
        obtain ⟨rfl, rfl⟩ := Prod.mk.inj (Option.some.inj hresult)
        exact ⟨List.nil_prefix, iff_of_false Bool.false_ne_true hne.symm⟩
  | true =>
      have hsend : ∀ fuel, rules.tcpSend data schedule connection fuel =
          loop (rules.body data schedule) fuel (sendStart data) :=
        fun fuel => by
          rw [tcpSend, hvalid]
          rfl
      simp only [true_or, true_and, true_imp_iff]
      constructor
      · rintro ⟨⟨fuel, outcome, houtcome⟩, _, _⟩
        exact ⟨fuel, outcome, (hsend fuel).symm.trans houtcome⟩
      · rintro ⟨fuel, outcome, houtcome⟩
        refine ⟨⟨fuel, outcome, (hsend fuel).trans houtcome⟩, horder,
          fun fuel result last hresult => ?_⟩
        rw [hsend fuel] at hresult
        exact accepted_of_loop hresult

/-- On Linux every valid connection delivers or tells that it did not; on
Windows it does unless it comes to a state from which `send` takes nothing.
An invalid one is refused, even with nothing to send. -/
theorem tcpSend_delivers_iff (connection : TcpConnection) (data : Str)
    (schedule : Schedule) :
    (Delivers data (Linux.sendRules.body data schedule)
        (Linux.tcpSend connection data schedule) ↔
      connection.valid = true ∨ data ≠ []) ∧
    (Delivers data (Windows.sendRules.body data schedule)
        (Windows.tcpSend connection data schedule) ↔
      (connection.valid = true ∨ data ≠ []) ∧
        (connection.valid = true →
          ¬ Windows.sendRules.Stalls data schedule)) := by
  constructor
  · refine (SendRules.delivers_iff _ data schedule connection).trans ?_
    refine and_iff_left fun _ => ?_
    obtain ⟨outcome, houtcome⟩ : ∃ outcome,
        loop (Linux.sendRules.body data schedule) (data.length + 1)
          (sendStart data) = some outcome :=
      SendRules.exists_loop_of_failed_zero (by decide)
    exact ⟨_, outcome, houtcome⟩
  · refine (SendRules.delivers_iff _ data schedule connection).trans ?_
    rw [SendRules.exists_loop_iff (by decide)]

def takesNothing : Schedule := fun _ offered =>
  if h : 0 ≤ offered then ⟨0, .inr ⟨le_rfl, h⟩⟩ else ⟨-1, .inl rfl⟩

theorem not_delivers_takesNothing :
    ¬ Delivers "x".toList (Windows.sendRules.body "x".toList takesNothing)
      (Windows.tcpSend ⟨3, true⟩ "x".toList takesNothing) := by
  intro h
  have hcondition := (SendRules.delivers_iff _ "x".toList takesNothing
    ⟨3, true⟩).mp h
  refine (SendRules.exists_loop_iff (by decide)).mp (hcondition.2 rfl) ?_
  exact ⟨sendStart "x".toList, .refl, by decide, fun _ _ => rfl⟩

end SlipNet.Platform
