import SlipNet.Foundation.Runs
import SlipNet.Monitoring.NetworkMonitor

/-!
# The monitoring loop

`NetworkMonitor::monitor` from its first reading on, action by action, with
Ctrl+C between any two of them.  A full interval of naps of a second lies
before each line.  Once the flag is up the loop takes one more nap or shows one
more line at most, and then the last reading and its summary end it.
-/

namespace SlipNet.Monitoring

open SlipNet.Foundation
open SlipNet.Standard

/-! ## The loop -/

/-- Where the loop is: before the look of the `while`, before the look of the
`for` with so many naps taken, before a nap, before the look behind the `for`,
before a reading, before the last reading, or behind the function. -/
inductive MonitorPhase
  | top
  | second (passed : Nat)
  | napping (passed : Nat)
  | slept
  | sampling
  | summing
  | returned
  deriving DecidableEq, Repr

structure MonitorState where
  previous : NetworkStats
  stopRequested : Bool := false
  phase : MonitorPhase := .top
  lines : List NetworkStatsDelta := []
  summary : Option NetworkStatsDelta := none

/-- `look` is a call of `isStopRequested`; a reading comes with the time since
the one before it, the last one with the time since the first. -/
inductive MonitorAction
  | ctrlC
  | look
  | nap
  | sample (current : NetworkStats) (elapsedSeconds : Double)
  | finish (final : NetworkStats) (totalElapsed : Double)

def MonitorAction.isCtrlC : MonitorAction → Bool
  | .ctrlC => true
  | _ => false

def MonitorAction.isNap : MonitorAction → Bool
  | .nap => true
  | _ => false

def MonitorAction.isSample : MonitorAction → Bool
  | .sample _ _ => true
  | _ => false

def MonitorAction.isFinish : MonitorAction → Bool
  | .finish _ _ => true
  | _ => false

def MonitorAction.sample? : MonitorAction → Option (NetworkStats × Double)
  | .sample current elapsedSeconds => some (current, elapsedSeconds)
  | _ => none

def forHead (intervalSeconds passed : Nat) : MonitorPhase :=
  if passed < intervalSeconds then .second passed else .slept

def MonitorState.start (initial : NetworkStats) : MonitorState where
  previous := initial

inductive MonitorStep (ratio : UInt64 → Double → Double)
    (initial : NetworkStats) (intervalSeconds : Nat) :
    MonitorState → MonitorAction → MonitorState → Prop
  | ctrlC {state : MonitorState} (h : state.phase ≠ .returned) :
      MonitorStep ratio initial intervalSeconds state .ctrlC
        { state with stopRequested := true }
  | look {state : MonitorState} (h : state.phase = .top) :
      MonitorStep ratio initial intervalSeconds state .look
        { state with
          phase := if state.stopRequested then .summing
            else forHead intervalSeconds 0 }
  | lookAgain {state : MonitorState} {passed : Nat}
      (h : state.phase = .second passed) :
      MonitorStep ratio initial intervalSeconds state .look
        { state with
          phase := if state.stopRequested then .slept else .napping passed }
  | nap {state : MonitorState} {passed : Nat}
      (h : state.phase = .napping passed) :
      MonitorStep ratio initial intervalSeconds state .nap
        { state with phase := forHead intervalSeconds (passed + 1) }
  | lookLast {state : MonitorState} (h : state.phase = .slept) :
      MonitorStep ratio initial intervalSeconds state .look
        { state with
          phase := if state.stopRequested then .summing else .sampling }
  | sample {state : MonitorState} (current : NetworkStats)
      (elapsedSeconds : Double) (h : state.phase = .sampling) :
      MonitorStep ratio initial intervalSeconds state
        (.sample current elapsedSeconds)
        { state with
          previous := current
          phase := .top
          lines := state.lines ++
            [displaySample ratio state.previous current elapsedSeconds] }
  | finish {state : MonitorState} (final : NetworkStats)
      (totalElapsed : Double) (h : state.phase = .summing) :
      MonitorStep ratio initial intervalSeconds state
        (.finish final totalElapsed)
        { state with
          stopRequested := false
          phase := .returned
          summary := some (displaySummary ratio initial final totalElapsed) }

variable {ratio : UInt64 → Double → Double} {initial : NetworkStats}
  {intervalSeconds : Nat} {state next last : MonitorState}
  {action : MonitorAction} {trace rest : List (MonitorState × MonitorAction)}

/-! ## The lines -/

def sampled (trace : List (MonitorState × MonitorAction)) :
    List (NetworkStats × Double) :=
  trace.filterMap fun entry => entry.2.sample?

theorem sampled_append_singleton (state : MonitorState)
    (action : MonitorAction) :
    sampled (trace ++ [(state, action)]) =
      sampled trace ++ action.sample?.toList := by
  rw [sampled, List.filterMap_append, ← sampled]
  cases h : action.sample? <;> simp [h]

theorem displaySamples_append_singleton (previous : NetworkStats)
    (samples : List (NetworkStats × Double)) (sample : NetworkStats × Double) :
    displaySamples ratio previous (samples ++ [sample]) =
      displaySamples ratio previous samples ++
        [displaySample ratio (lastReading previous (samples.map Prod.fst))
          sample.1 sample.2] := by
  induction samples generalizing previous with
  | nil => rfl
  | cons first samples ih =>
      rw [List.cons_append, displaySamples, displaySamples, ih,
        List.cons_append]
      rfl

theorem lastReading_append_singleton {M : Type} (first : M) (readings : List M)
    (reading : M) : lastReading first (readings ++ [reading]) = reading :=
  lastReading_append_cons first readings reading []

theorem lines_of_run
    (run : Run (MonitorStep ratio initial intervalSeconds) (.start initial)
      trace state) :
    state.lines = displaySamples ratio initial (sampled trace) ∧
      state.previous =
        lastReading initial ((sampled trace).map Prod.fst) := by
  induction run with
  | refl => exact ⟨rfl, rfl⟩
  | @tail t u action trace run step ih =>
      obtain ⟨hlines, hprevious⟩ := ih
      rw [sampled_append_singleton]
      cases step with
      | sample current elapsedSeconds hphase =>
          refine ⟨?_, ?_⟩
          · rw [MonitorAction.sample?, Option.toList_some,
              displaySamples_append_singleton, ← hlines, ← hprevious]
          · rw [MonitorAction.sample?, Option.toList_some, List.map_append,
              List.map_singleton, lastReading_append_singleton]
      | _ => simpa [MonitorAction.sample?] using ⟨hlines, hprevious⟩

theorem summary_of_run
    (run : Run (MonitorStep ratio initial intervalSeconds) (.start initial)
      trace state) (hreturned : state.phase = .returned) :
    ∃ before t final totalElapsed,
      trace = before ++ [(t, .finish final totalElapsed)] ∧
        state.summary =
          some (displaySummary ratio initial final totalElapsed) := by
  cases run with
  | refl => cases hreturned
  | @tail t u action trace run step =>
      cases step with
      | finish final totalElapsed hphase =>
          exact ⟨trace, t, final, totalElapsed, rfl, rfl⟩
      | ctrlC hphase => exact absurd hreturned hphase
      | sample => cases hreturned
      | nap =>
          dsimp only [forHead] at hreturned
          split_ifs at hreturned
      | look =>
          dsimp only [forHead] at hreturned
          split_ifs at hreturned
      | lookAgain =>
          dsimp only at hreturned
          split_ifs at hreturned
      | lookLast =>
          dsimp only at hreturned
          split_ifs at hreturned

/-! ## The naps -/

/-- The naps are those of the lines and of the interval under way, which is
over where its reading is due. -/
def Paced (intervalSeconds naps : Nat) (state : MonitorState) : Prop :=
  ∃ extra ≤ intervalSeconds,
    naps = intervalSeconds * state.lines.length + extra ∧
      match state.phase with
      | .top => extra = 0
      | .second passed | .napping passed =>
          extra = passed ∧ passed < intervalSeconds
      | .slept => state.stopRequested = false → extra = intervalSeconds
      | .sampling => extra = intervalSeconds
      | .summing | .returned => True

theorem Paced.at_forHead {naps extra : Nat} (hextra : extra ≤ intervalSeconds)
    (hnaps : naps = intervalSeconds * state.lines.length + extra) :
    Paced intervalSeconds naps
      { state with phase := forHead intervalSeconds extra } := by
  refine ⟨extra, hextra, hnaps, ?_⟩
  unfold forHead
  dsimp only
  split_ifs with hmore
  · exact ⟨rfl, hmore⟩
  · exact fun _ => Nat.le_antisymm hextra (Nat.le_of_not_lt hmore)

theorem Paced.step {naps : Nat} (h : Paced intervalSeconds naps state)
    (step : MonitorStep ratio initial intervalSeconds state action next) :
    Paced intervalSeconds (naps + if action.isNap then 1 else 0) next := by
  obtain ⟨extra, hextra, hnaps, hphase⟩ := h
  cases step with
  | ctrlC hrunning =>
      refine ⟨extra, hextra, hnaps, ?_⟩
      cases hstate : state.phase <;> simp_all
  | look htop =>
      rw [htop] at hphase
      by_cases hstop : state.stopRequested = true
      · rw [if_pos hstop]
        exact ⟨extra, hextra, hnaps, trivial⟩
      · rw [if_neg hstop]
        subst hphase
        exact .at_forHead hextra hnaps
  | lookAgain hsecond =>
      rw [hsecond] at hphase
      refine ⟨extra, hextra, hnaps, ?_⟩
      cases hstop : state.stopRequested
      · exact hphase
      · exact nofun
  | nap hnapping =>
      rw [hnapping] at hphase
      obtain ⟨rfl, hmore⟩ := hphase
      exact .at_forHead hmore (congrArg (· + 1) hnaps)
  | lookLast hslept =>
      rw [hslept] at hphase
      refine ⟨extra, hextra, hnaps, ?_⟩
      cases hstop : state.stopRequested
      · exact hphase hstop
      · trivial
  | sample current elapsedSeconds hsampling =>
      rw [hsampling] at hphase
      subst hphase
      refine ⟨0, Nat.zero_le _, ?_, rfl⟩
      rw [hnaps, List.length_append, List.length_singleton, Nat.mul_succ]
      rfl
  | finish final totalElapsed hsumming =>
      exact ⟨extra, hextra, hnaps, trivial⟩

theorem paced_of_run
    (run : Run (MonitorStep ratio initial intervalSeconds) (.start initial)
      trace state) :
    Paced intervalSeconds (trace.countP fun entry => entry.2.isNap) state := by
  induction run with
  | refl => exact ⟨0, Nat.zero_le _, rfl, rfl⟩
  | tail run step ih =>
      rw [List.countP_append, List.countP_singleton]
      exact ih.step step

theorem naps_of_sample
    (run : Run (MonitorStep ratio initial intervalSeconds) (.start initial)
      trace state) {before after : List (MonitorState × MonitorAction)}
    {t : MonitorState} {current : NetworkStats} {elapsedSeconds : Double}
    (htrace : trace = before ++ (t, .sample current elapsedSeconds) :: after) :
    before.countP (fun entry => entry.2.isNap) =
      intervalSeconds * (t.lines.length + 1) := by
  obtain ⟨hbefore, u, hstep, -⟩ := run.split htrace
  obtain ⟨extra, -, hnaps, hphase⟩ := paced_of_run hbefore
  cases hstep with
  | sample _ _ hsampling =>
      rw [hsampling] at hphase
      rw [hnaps, hphase, Nat.mul_succ]

/-- Whenever Ctrl+C comes, a monitoring that has returned has shown what
`monitor` shows of its readings, and behind each line it has napped for one full
interval before the next. -/
theorem monitor_of_run {interfaceName : Str} (hname : interfaceName ≠ [])
    (hlow : 0 < intervalSeconds) (hhigh : intervalSeconds ≤ 3600)
    (hinitial : initial.interfaceName ≠ [])
    (run : Run (MonitorStep ratio initial intervalSeconds) (.start initial)
      trace state) (hreturned : state.phase = .returned) :
    (∃ before t final totalElapsed summary,
      trace = before ++ [(t, .finish final totalElapsed)] ∧
        state.summary = some summary ∧
        monitor ratio ⟨true, initial, sampled trace, final, totalElapsed⟩
          interfaceName intervalSeconds = .ok (state.lines, summary)) ∧
      (∀ before t current elapsedSeconds after,
        trace = before ++ (t, .sample current elapsedSeconds) :: after →
          before.countP (fun entry => entry.2.isNap) =
            intervalSeconds * (t.lines.length + 1)) ∧
      intervalSeconds * state.lines.length ≤
        trace.countP (fun entry => entry.2.isNap) ∧
      trace.countP (fun entry => entry.2.isNap) ≤
        intervalSeconds * (state.lines.length + 1) := by
  obtain ⟨before, t, final, totalElapsed, htrace, hsummary⟩ :=
    summary_of_run run hreturned
  obtain ⟨extra, hextra, hnaps, -⟩ := paced_of_run run
  refine ⟨⟨before, t, final, totalElapsed, _, htrace, hsummary, ?_⟩,
    fun _ _ _ _ _ => naps_of_sample run, by omega, by
      rw [Nat.mul_succ]
      omega⟩
  rw [monitor, if_neg hname, if_neg (by omega), if_neg (by simp),
    if_neg hinitial, (lines_of_run run).1]

def pressedTrace : List (MonitorState × MonitorAction) :=
  let line := displaySample (fun _ _ => .zero) (received 10) (received 15)
    oneSecond
  [(.start (received 10), .look),
    ({ previous := received 10, phase := .second 0 }, .look),
    ({ previous := received 10, phase := .napping 0 }, .nap),
    ({ previous := received 10, phase := .slept }, .look),
    ({ previous := received 10, phase := .sampling },
      .sample (received 15) oneSecond),
    ({ previous := received 15, lines := [line] }, .look),
    ({ previous := received 15, phase := .second 0, lines := [line] }, .look),
    ({ previous := received 15, phase := .napping 0, lines := [line] }, .ctrlC),
    ({ previous := received 15, stopRequested := true, phase := .napping 0,
        lines := [line] }, .nap),
    ({ previous := received 15, stopRequested := true, phase := .slept,
        lines := [line] }, .look),
    ({ previous := received 15, stopRequested := true, phase := .summing,
        lines := [line] }, .finish (received 15) oneSecond)]

def pressedEnd : MonitorState where
  previous := received 15
  phase := .returned
  lines := [displaySample (fun _ _ => .zero) (received 10) (received 15)
    oneSecond]
  summary := some (displaySummary (fun _ _ => .zero) (received 10)
    (received 15) oneSecond)

theorem run_pressed :
    Run (MonitorStep (fun _ _ => .zero) (received 10) 1)
      (.start (received 10)) pressedTrace pressedEnd :=
  (((((((((((Run.refl _).tail (.look rfl)).tail (.lookAgain rfl)).tail
    (.nap rfl)).tail (.lookLast rfl)).tail (.sample _ _ rfl)).tail
    (.look rfl)).tail (.lookAgain rfl)).tail (.ctrlC nofun)).tail
    (.nap rfl)).tail (.lookLast rfl)).tail (.finish _ _ rfl)

theorem monitor_of_run_pressed :
    (pressedTrace.take 4).countP (fun entry => entry.2.isNap) = 1 ∧
    1 ≤ pressedTrace.countP (fun entry => entry.2.isNap) ∧
      pressedTrace.countP (fun entry => entry.2.isNap) ≤ 2 :=
  have hname : "eth0".toList ≠ [] := by decide
  have hshown :=
    (monitor_of_run hname (by decide) (by decide) (by decide) run_pressed rfl).2
  ⟨hshown.1 (pressedTrace.take 4) _ _ _ (pressedTrace.drop 5) rfl, hshown.2⟩

/-! ## Stopping -/

/-- What the loop still does once the flag is up. -/
def MonitorPhase.closing : MonitorPhase → Nat
  | .top => 2
  | .second _ => 3
  | .napping _ => 4
  | .slept => 2
  | .sampling => 3
  | .summing => 1
  | .returned => 0

def MonitorPhase.pending : MonitorPhase → Nat
  | .napping _ | .sampling => 1
  | _ => 0

def MonitorPhase.due : MonitorPhase → Nat
  | .returned => 0
  | _ => 1

theorem closing_forHead (intervalSeconds passed : Nat) :
    (forHead intervalSeconds passed).closing ≤ 3 := by
  unfold forHead
  split_ifs
  · exact le_rfl
  · exact Nat.le_succ 2

theorem pending_forHead (intervalSeconds passed : Nat) :
    (forHead intervalSeconds passed).pending = 0 := by
  unfold forHead
  split_ifs <;> rfl

def Stopping (state : MonitorState) : Prop :=
  state.stopRequested = true ∨ state.phase = .returned

theorem Stopping.step (h : Stopping state)
    (step : MonitorStep ratio initial intervalSeconds state action next) :
    Stopping next ∧
      next.phase.closing + (if !action.isCtrlC then 1 else 0) ≤
        state.phase.closing ∧
      next.phase.pending +
          (if action.isNap || action.isSample then 1 else 0) ≤
        state.phase.pending := by
  cases step with
  | ctrlC hrunning => exact ⟨.inl rfl, le_rfl, le_rfl⟩
  | finish final totalElapsed hsumming =>
      rw [hsumming]
      exact ⟨.inr rfl, le_rfl, le_rfl⟩
  | look hphase =>
      have hstop := h.resolve_right (by rw [hphase]; exact nofun)
      rw [if_pos hstop, hphase]
      exact ⟨.inl hstop, le_rfl, le_rfl⟩
  | lookAgain hphase =>
      have hstop := h.resolve_right (by rw [hphase]; exact nofun)
      rw [if_pos hstop, hphase]
      exact ⟨.inl hstop, le_rfl, le_rfl⟩
  | nap hphase =>
      have hstop := h.resolve_right (by rw [hphase]; exact nofun)
      rw [hphase]
      exact ⟨.inl hstop, Nat.succ_le_succ (closing_forHead _ _),
        Nat.succ_le_succ (pending_forHead _ _).le⟩
  | lookLast hphase =>
      have hstop := h.resolve_right (by rw [hphase]; exact nofun)
      rw [if_pos hstop, hphase]
      exact ⟨.inl hstop, le_rfl, le_rfl⟩
  | sample current elapsedSeconds hphase =>
      have hstop := h.resolve_right (by rw [hphase]; exact nofun)
      rw [hphase]
      exact ⟨.inl hstop, le_rfl, le_rfl⟩

theorem due_le_one (phase : MonitorPhase) : phase.due ≤ 1 := by
  cases phase <;> simp [MonitorPhase.due]

theorem due_step
    (step : MonitorStep ratio initial intervalSeconds state action next) :
    next.phase.due + (if action.isFinish then 1 else 0) ≤ state.phase.due := by
  have hbound := due_le_one next.phase
  cases step with
  | ctrlC hrunning => exact le_rfl
  | finish final totalElapsed hphase =>
      rw [hphase]
      exact le_rfl
  | look hphase | lookAgain hphase | nap hphase | lookLast hphase
  | sample current elapsedSeconds hphase =>
      rw [hphase]
      exact hbound

def Live (ratio : UInt64 → Double → Double) (initial : NetworkStats)
    (intervalSeconds : Nat) (state : MonitorState) : Prop :=
  ∃ action next, action.isCtrlC = false ∧
    MonitorStep ratio initial intervalSeconds state action next

theorem live_of_running (h : state.phase ≠ .returned) :
    Live ratio initial intervalSeconds state := by
  cases hphase : state.phase with
  | top => exact ⟨.look, _, rfl, .look hphase⟩
  | second passed => exact ⟨.look, _, rfl, .lookAgain hphase⟩
  | napping passed => exact ⟨.nap, _, rfl, .nap hphase⟩
  | slept => exact ⟨.look, _, rfl, .lookLast hphase⟩
  | sampling => exact ⟨.sample {} .zero, _, rfl, .sample {} .zero hphase⟩
  | summing => exact ⟨.finish {} .zero, _, rfl, .finish {} .zero hphase⟩
  | returned => exact absurd hphase h

/-- Once the flag is up, the monitoring takes at most one more nap or shows one
more line, besides the one reading of the summary, and four more actions in
all; and it can take them. -/
theorem monitor_stops (hstop : state.stopRequested = true)
    (run : Run (MonitorStep ratio initial intervalSeconds) state trace last) :
    trace.countP (fun entry => !entry.2.isCtrlC) ≤ 4 ∧
      trace.countP (fun entry => entry.2.isNap || entry.2.isSample) ≤ 1 ∧
      trace.countP (fun entry => entry.2.isFinish) ≤ 1 ∧
      (last.phase ≠ .returned → Live ratio initial intervalSeconds last) := by
  have hclosing := run.countP_add_le Stopping (fun action => !action.isCtrlC)
    (fun state => state.phase.closing) (fun _ _ _ h step => (h.step step).1)
    (fun _ _ _ h step => (h.step step).2.1) (.inl hstop)
  have hpending := run.countP_add_le Stopping
    (fun action => action.isNap || action.isSample)
    (fun state => state.phase.pending) (fun _ _ _ h step => (h.step step).1)
    (fun _ _ _ h step => (h.step step).2.2) (.inl hstop)
  have hdue := run.countP_add_le (fun _ => True) MonitorAction.isFinish
    (fun state => state.phase.due) (fun _ _ _ _ _ => trivial)
    (fun _ _ _ _ step => due_step step) trivial
  have hlast := due_le_one state.phase
  have hfour : state.phase.closing ≤ 4 := by
    cases state.phase <;> simp [MonitorPhase.closing]
  have hone : state.phase.pending ≤ 1 := by
    cases state.phase <;> simp [MonitorPhase.pending]
  exact ⟨by omega, by omega, by omega, live_of_running⟩

theorem monitor_stops_napping :
    ((pressedTrace.drop 8).countP fun entry =>
      entry.2.isNap || entry.2.isSample) ≤ 1 := by
  have run : Run (MonitorStep (fun _ _ => .zero) (received 10) 1) _
      (pressedTrace.drop 8) pressedEnd :=
    (((Run.refl _).tail (.nap rfl)).tail (.lookLast rfl)).tail
      (.finish _ _ rfl)
  exact (monitor_stops rfl run).2.1

end SlipNet.Monitoring
