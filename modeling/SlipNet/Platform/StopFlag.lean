import SlipNet.Foundation.Runs
import SlipNet.Platform.ByteCount

/-!
# The stop flag and the capture loops

Ctrl+C sets the stop flag, and a capture tells the user so, but neither loop
looks at the flag.  A capture ends with the pass in which the flag is set only
if that pass is its last one anyway.  An iteration is a pass of the loop with
the look at the clock behind it, where a stop flag would be looked at as well.
-/

namespace SlipNet.Capture

open SlipNet.Foundation

structure Capturing where
  result : PacketCaptureResult
  running : Bool := true
  stopRequested : Bool := false
  /-- The packets at the end of the pass in which the flag was set. -/
  atStop : Option (List CapturedPacket) := none

structure Iteration (Reply : Type) where
  reply : Reply
  /-- The signal handler runs during the pass. -/
  ctrlC : Bool
  /-- The deadline has passed at the end of the pass. -/
  expired : Bool

namespace CaptureLoop

variable {Frame Reply : Type} (loop : CaptureLoop Frame)
  (config : PacketCaptureConfig) (signal : Reply → Signal Frame)

def next (state : Capturing) (iteration : Iteration Reply) : Capturing :=
  let passed := loop.pass config state.result (signal iteration.reply)
  { result :=
      if passed.2 && iteration.expired then { passed.1 with success := true }
      else passed.1
    running := passed.2 && !iteration.expired
    stopRequested := state.stopRequested || iteration.ctrlC
    atStop :=
      if iteration.ctrlC && !state.stopRequested then some passed.1.packets
      else state.atStop }

def Step (state : Capturing) (iteration : Iteration Reply)
    (state' : Capturing) : Prop :=
  state.running = true ∧ state' = loop.next config signal state iteration

/-- The pass ends the capture whatever the flag is. -/
def Final (result : PacketCaptureResult) : Signal Frame → Prop
  | .idle => False
  | .leave => True
  | .fail _ => True
  | .frame frame => loop.admitsFrame config frame = true ∧
      result.packets.length ≥ config.maxPackets.toNat

/-- The flag is set in the last iteration only. -/
def StopsAnyway (state : Capturing) (iteration : Iteration Reply) : Prop :=
  iteration.ctrlC = true → iteration.expired = true ∨
    loop.Final config state.result (signal iteration.reply)

variable {loop config signal} {state state' : Capturing}
  {trace : List (Capturing × Iteration Reply)}

theorem pass_snd_eq_false_iff {result : PacketCaptureResult}
    {signal : Signal Frame} :
    (loop.pass config result signal).2 = false ↔
      loop.Final config result signal := by
  cases signal with
  | idle => simp [pass, Final]
  | leave => simp [pass, Final]
  | fail error => simp [pass, Final]
  | frame frame =>
      rw [Final, admitsFrame, pass]
      dsimp only
      split_ifs with hadmits hfull
      · simp_all
      · simp_all
      · simp_all

/-! ## The loop as it runs -/

theorem receive_append_of_run {rest : List (Signal Frame)}
    (run : Run (loop.Step config signal) state trace state')
    (hrunning : state'.running = true) :
    loop.receive config state.result
        (trace.map (fun entry => signal entry.2.reply) ++ rest) =
      loop.receive config state'.result rest := by
  induction run generalizing rest with
  | refl => rfl
  | @tail t u iteration trace run last ih =>
      obtain ⟨ht, rfl⟩ := last
      simp only [next, Bool.and_eq_true, Bool.not_eq_true'] at hrunning
      rw [List.map_append, List.append_assoc, ih ht, List.map_singleton,
        List.singleton_append, receive, if_pos hrunning.1]
      simp [next, hrunning.2]

theorem receive_of_run
    (run : Run (loop.Step config signal) state trace state')
    (hstate : state.running = true) (hended : state'.running = false) :
    loop.receive config state.result
        (trace.map fun entry => signal entry.2.reply) = state'.result := by
  cases run with
  | refl => exact absurd (hstate.symm.trans hended) (by decide)
  | @tail t u iteration trace run last =>
      obtain ⟨ht, rfl⟩ := last
      rw [List.map_append, receive_append_of_run run ht, List.map_singleton,
        receive]
      by_cases hpass :
          (loop.pass config t.result (signal iteration.reply)).2 = true
      · have hexpired : iteration.expired = true := by
          simpa [next, hpass] using hended
        rw [if_pos hpass]
        simp [receive, next, hpass, hexpired]
      · rw [if_neg hpass]
        simp [next, eq_false_of_ne_true hpass]

end CaptureLoop

/-! ## Leaving at the flag -/

/-- Where the flag is set, the loop has been left with the packets it had. -/
def LeavesAtStop (state : Capturing) : Prop :=
  state.stopRequested = true →
    state.running = false ∧ state.atStop = some state.result.packets

namespace CaptureLoop

variable {Frame Reply : Type} {loop : CaptureLoop Frame}
  {config : PacketCaptureConfig} {signal : Reply → Signal Frame}

theorem leavesAtStop_next_iff {state state' : Capturing}
    {iteration : Iteration Reply} (h : LeavesAtStop state)
    (hstep : loop.Step config signal state iteration state') :
    LeavesAtStop state' ↔ loop.StopsAnyway config signal state iteration := by
  obtain ⟨hrunning, rfl⟩ := hstep
  -- a state that is still running has not seen the flag
  have hclear : state.stopRequested = false := by
    by_contra hset
    exact absurd (hrunning.symm.trans (h (eq_true_of_ne_false hset)).1)
      (by decide)
  have hpackets : (loop.next config signal state iteration).result.packets =
      (loop.pass config state.result (signal iteration.reply)).1.packets := by
    unfold next
    dsimp only
    split_ifs <;> rfl
  rw [LeavesAtStop, StopsAnyway, ← pass_snd_eq_false_iff, hpackets]
  simp only [next, hclear, Bool.false_or, Bool.not_false, Bool.and_true]
  cases iteration.ctrlC <;> cases iteration.expired <;> simp

theorem everywhere_leavesAtStop_iff {start : PacketCaptureResult}
    {trace : List (Capturing × Iteration Reply)} {last : Capturing}
    (run : Run (loop.Step config signal) { result := start } trace last) :
    Everywhere LeavesAtStop trace last ↔
      Throughout (loop.StopsAnyway config signal) trace :=
  run.everywhere_iff (fun _ => True) LeavesAtStop _ (fun _ _ _ _ _ => trivial)
    (fun _ _ _ _ h hstep => leavesAtStop_next_iff h hstep) trivial
    (fun h => by cases h)

end CaptureLoop

/-- On neither platform the flag ends a capture: exactly the runs leave the
loop at the flag in which it is set in an iteration that is the last one. -/
theorem leavesAtStop_iff {config : PacketCaptureConfig}
    {start : PacketCaptureResult}
    {linuxTrace : List (Capturing × Iteration Linux.Reply)}
    {windowsTrace : List (Capturing × Iteration Windows.Reply)}
    {linuxLast windowsLast : Capturing}
    (hlinux : Run (Linux.captureLoop.Step config Linux.Reply.signal)
      { result := start } linuxTrace linuxLast)
    (hwindows : Run (Windows.captureLoop.Step config Windows.Reply.signal)
      { result := start } windowsTrace windowsLast) :
    (Everywhere LeavesAtStop linuxTrace linuxLast ↔ Throughout
      (Linux.captureLoop.StopsAnyway config Linux.Reply.signal) linuxTrace) ∧
    (Everywhere LeavesAtStop windowsTrace windowsLast ↔ Throughout
      (Windows.captureLoop.StopsAnyway config Windows.Reply.signal)
      windowsTrace) :=
  ⟨CaptureLoop.everywhere_leavesAtStop_iff hlinux,
    CaptureLoop.everywhere_leavesAtStop_iff hwindows⟩

def onlyIteration {Reply : Type} (iteration : Iteration Reply) :
    List (Capturing × Iteration Reply) :=
  [({ result := {} }, iteration)]

theorem leavesAtStop_iff_ended :
    (Everywhere LeavesAtStop (onlyIteration ⟨Linux.Reply.timedOut, true, false⟩)
        (Linux.captureLoop.next udpConfig Linux.Reply.signal { result := {} }
          ⟨.timedOut, true, false⟩) ↔
      Throughout (Linux.captureLoop.StopsAnyway udpConfig Linux.Reply.signal)
        (onlyIteration ⟨.timedOut, true, false⟩)) ∧
    (Everywhere LeavesAtStop (onlyIteration ⟨Windows.Reply.timeout, true, true⟩)
        (Windows.captureLoop.next udpConfig Windows.Reply.signal
          { result := {} } ⟨.timeout, true, true⟩) ↔
      Throughout
        (Windows.captureLoop.StopsAnyway udpConfig Windows.Reply.signal)
        (onlyIteration ⟨.timeout, true, true⟩)) :=
  leavesAtStop_iff ((Run.refl _).tail ⟨rfl, rfl⟩)
    ((Run.refl _).tail ⟨rfl, rfl⟩)

/-- Ctrl+C interrupts `select`, and the next frame is appended. -/
theorem not_leavesAtStop_interrupted :
    ∃ trace last, Run (Linux.captureLoop.Step udpConfig Linux.Reply.signal)
        { result := {} } trace last ∧
      last.atStop = some [] ∧
      last.result.packets = [Linux.udpFrame.decode] ∧
      ¬ Everywhere LeavesAtStop trace last := by
  refine ⟨_, _, ((Run.refl _).tail
    (a := ⟨.interrupted, true, false⟩) ⟨rfl, rfl⟩).tail
    (a := ⟨.frame Linux.udpFrame, false, false⟩) ⟨rfl, rfl⟩,
    by decide, by decide, ?_⟩
  intro h
  exact absurd (h.2 (by decide)).1 (by decide)

end SlipNet.Capture
