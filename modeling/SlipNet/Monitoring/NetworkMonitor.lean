import SlipNet.Foundation.ResetCounter
import SlipNet.Standard.Strings
import Mathlib.Tactic

/-!
# The network monitor

The monitor reads the counters of an interface once an interval, shows the
increase since the reading before, and at the end the increase from the first
reading to the last.  A counter that fell is taken to have started again at
zero, also from end to end, so what was counted before a reset is missing from
the summary.
-/

namespace SlipNet.Monitoring

open SlipNet.Foundation
open SlipNet.Standard

structure NetworkStats where
  interfaceName : Str := []
  ipv4Address : Str := []
  up : Bool := false
  rxPackets : UInt64 := 0
  txPackets : UInt64 := 0
  rxBytes : UInt64 := 0
  txBytes : UInt64 := 0
  rxErrors : UInt64 := 0
  txErrors : UInt64 := 0
  rxDropped : UInt64 := 0
  txDropped : UInt64 := 0
  deriving DecidableEq, Repr

structure NetworkStatsDelta where
  rxPackets : UInt64 := 0
  txPackets : UInt64 := 0
  rxBytes : UInt64 := 0
  txBytes : UInt64 := 0
  rxErrors : UInt64 := 0
  txErrors : UInt64 := 0
  rxDropped : UInt64 := 0
  txDropped : UInt64 := 0
  rxPacketsPerSecond : Double := .zero
  txPacketsPerSecond : Double := .zero
  rxBytesPerSecond : Double := .zero
  txBytesPerSecond : Double := .zero
  deriving DecidableEq, Repr

/-! ## Increases -/

/-- `value <= 0.0` for a double: a zero of either sign, or a negative number
that is no NaN. -/
def nonPositive (value : Double) : Bool :=
  value.bits = 0 ||
    0x8000000000000000 ≤ value.bits && value.bits ≤ 0xFFF0000000000000

def counterDelta (current previous : UInt64) : UInt64 :=
  if current < previous then current else current - previous

/-- `ratio` converts a counter to a double and divides it. -/
def calculateDelta (ratio : UInt64 → Double → Double)
    (previous current : NetworkStats) (elapsedSeconds : Double) :
    NetworkStatsDelta :=
  if nonPositive elapsedSeconds then {}
  else
    let rxPackets := counterDelta current.rxPackets previous.rxPackets
    let txPackets := counterDelta current.txPackets previous.txPackets
    let rxBytes := counterDelta current.rxBytes previous.rxBytes
    let txBytes := counterDelta current.txBytes previous.txBytes
    { rxPackets := rxPackets
      txPackets := txPackets
      rxBytes := rxBytes
      txBytes := txBytes
      rxErrors := counterDelta current.rxErrors previous.rxErrors
      txErrors := counterDelta current.txErrors previous.txErrors
      rxDropped := counterDelta current.rxDropped previous.rxDropped
      txDropped := counterDelta current.txDropped previous.txDropped
      rxPacketsPerSecond := ratio rxPackets elapsedSeconds
      txPacketsPerSecond := ratio txPackets elapsedSeconds
      rxBytesPerSecond := ratio rxBytes elapsedSeconds
      txBytesPerSecond := ratio txBytes elapsedSeconds }

/-! ## Monitoring -/

def displaySample (ratio : UInt64 → Double → Double)
    (previous current : NetworkStats) (elapsedSeconds : Double) :
    NetworkStatsDelta :=
  calculateDelta ratio previous current elapsedSeconds

def displaySummary (ratio : UInt64 → Double → Double)
    (initial final : NetworkStats) (elapsedSeconds : Double) :
    NetworkStatsDelta :=
  calculateDelta ratio initial final elapsedSeconds

/-- What the machine tells during one monitoring.  A sample comes with the time
since the one before it. -/
structure Readings where
  available : Bool
  initial : NetworkStats
  samples : List (NetworkStats × Double)
  final : NetworkStats
  totalElapsed : Double

/-- The loop up to the stop request. -/
def displaySamples (ratio : UInt64 → Double → Double)
    (previous : NetworkStats) :
    List (NetworkStats × Double) → List NetworkStatsDelta
  | [] => []
  | (current, elapsedSeconds) :: samples =>
      displaySample ratio previous current elapsedSeconds ::
        displaySamples ratio current samples

/-- The lines and the summary, or the message where it returns `false`. -/
def monitor (ratio : UInt64 → Double → Double) (readings : Readings)
    (interfaceName : Str) (intervalSeconds : Int) :
    Except Str (List NetworkStatsDelta × NetworkStatsDelta) :=
  if interfaceName = [] then
    .error "\n[!] Network interface is empty.\n".toList
  else if intervalSeconds ≤ 0 ∨ intervalSeconds > 3600 then
    .error ("\n[!] Monitoring interval must be between " ++
      "1 and 3600 seconds.\n").toList
  else if !readings.available then
    .error "\n[!] Network monitoring backend is unavailable.\n".toList
  else if readings.initial.interfaceName = [] then
    .error ("\n[!] Unable to access network interface:\n    ".toList ++
      interfaceName ++ ['\n'])
  else
    .ok (displaySamples ratio readings.initial readings.samples,
      displaySummary ratio readings.initial readings.final
        readings.totalElapsed)

/-! ## The counters -/

inductive Counter
  | rxPackets
  | txPackets
  | rxBytes
  | txBytes
  | rxErrors
  | txErrors
  | rxDropped
  | txDropped
  deriving DecidableEq, Repr

def NetworkStats.counter (stats : NetworkStats) : Counter → UInt64
  | .rxPackets => stats.rxPackets
  | .txPackets => stats.txPackets
  | .rxBytes => stats.rxBytes
  | .txBytes => stats.txBytes
  | .rxErrors => stats.rxErrors
  | .txErrors => stats.txErrors
  | .rxDropped => stats.rxDropped
  | .txDropped => stats.txDropped

def NetworkStatsDelta.counter (stats : NetworkStatsDelta) : Counter → UInt64
  | .rxPackets => stats.rxPackets
  | .txPackets => stats.txPackets
  | .rxBytes => stats.rxBytes
  | .txBytes => stats.txBytes
  | .rxErrors => stats.rxErrors
  | .txErrors => stats.txErrors
  | .rxDropped => stats.rxDropped
  | .txDropped => stats.txDropped

variable {ratio : UInt64 → Double → Double} {counter : Counter}

theorem counter_calculateDelta {previous current : NetworkStats}
    {elapsedSeconds : Double} (helapsed : nonPositive elapsedSeconds = false) :
    (calculateDelta ratio previous current elapsedSeconds).counter counter =
      counterDelta (current.counter counter) (previous.counter counter) := by
  rw [calculateDelta, if_neg (by simp [helapsed])]
  cases counter <;> rfl

theorem toNat_counterDelta (current previous : UInt64) :
    (counterDelta current previous).toNat =
      increase current.toNat previous.toNat := by
  unfold counterDelta increase
  split_ifs with h h' h'
  · rfl
  · exact absurd (UInt64.lt_iff_toNat_lt.mp h) h'
  · exact absurd (UInt64.lt_iff_toNat_lt.mpr h') h
  · exact UInt64.toNat_sub_of_le _ _ (UInt64.not_lt.mp h)

def shownTotal (counter : Counter) (samples : List NetworkStatsDelta) : Nat :=
  (samples.map fun sample => (sample.counter counter).toNat).sum

def laterReadings (counter : Counter) (samples : List (NetworkStats × Double)) :
    List Nat :=
  samples.map fun sample => (sample.1.counter counter).toNat

theorem shownTotal_displaySamples {previous : NetworkStats}
    {samples : List (NetworkStats × Double)}
    (helapsed : ∀ sample ∈ samples, nonPositive sample.2 = false) :
    shownTotal counter (displaySamples ratio previous samples) =
      totalIncrease (previous.counter counter).toNat
        (laterReadings counter samples) := by
  induction samples generalizing previous with
  | nil => rfl
  | cons sample samples ih =>
      rw [List.forall_mem_cons] at helapsed
      have hrest := @ih sample.1 helapsed.2
      unfold shownTotal at hrest ⊢
      rw [displaySamples, List.map_cons, List.sum_cons, hrest, displaySample,
        counter_calculateDelta helapsed.1, toNat_counterDelta]
      rfl

theorem lastReading_laterReadings (previous : NetworkStats)
    (samples : List (NetworkStats × Double)) :
    ((lastReading previous (samples.map Prod.fst)).counter counter).toNat =
      lastReading (previous.counter counter).toNat
        (laterReadings counter samples) := by
  induction samples generalizing previous with
  | nil => rfl
  | cons sample samples ih => exact ih sample.1

/-! ## The summary -/

/-- The summary shows the total of the lines for a counter exactly if it never
resets, or resets once from where it stood at first and ends below that. -/
theorem displaySummary_eq_shownTotal_iff {initial : NetworkStats}
    {samples : List (NetworkStats × Double)} {totalElapsed : Double}
    (helapsed : ∀ sample ∈ samples, nonPositive sample.2 = false)
    (htotal : nonPositive totalElapsed = false) :
    ((displaySummary ratio initial
        (lastReading initial (samples.map Prod.fst)) totalElapsed).counter
          counter).toNat =
        shownTotal counter (displaySamples ratio initial samples) ↔
      NeverResets (initial.counter counter).toNat
          (laterReadings counter samples) ∨
        ResetsUnmoved (initial.counter counter).toNat
          (laterReadings counter samples) := by
  rw [displaySummary, counter_calculateDelta htotal, toNat_counterDelta,
    lastReading_laterReadings, shownTotal_displaySamples helapsed,
    increase_eq_totalIncrease_iff]

def oneSecond : Double := ⟨0x3FF0000000000000⟩

def received (packets : UInt64) : NetworkStats :=
  { interfaceName := "eth0".toList, up := true, rxPackets := packets }

/-- The interface restarts before any packet was counted. -/
theorem displaySummary_eq_shownTotal_idleRestart :
    let samples := [(received 10, oneSecond), (received 5, oneSecond),
      (received 7, oneSecond)]
    ((displaySummary (fun _ _ => .zero) (received 10)
        (lastReading (received 10) (samples.map Prod.fst)) oneSecond).counter
          .rxPackets).toNat =
      shownTotal .rxPackets
        (displaySamples (fun _ _ => .zero) (received 10) samples) := by
  intro samples
  have helapsed : ∀ sample ∈ samples, nonPositive sample.2 = false := by decide
  have hunmoved : ResetsUnmoved 10 [10, 5, 7] := by
    refine ⟨[10], 5, [7], rfl, by decide, by decide, ?_, by decide⟩
    unfold NeverResets
    decide
  exact (displaySummary_eq_shownTotal_iff helapsed (by decide)).mpr
    (.inr hunmoved)

/-- The interface restarts once: the lines show twelve packets, the summary
two. -/
theorem not_displaySummary_eq_shownTotal_restart :
    let samples := [(received 5, oneSecond), (received 12, oneSecond)]
    (∀ sample ∈ samples, nonPositive sample.2 = false) ∧
      ((displaySummary (fun _ _ => .zero) (received 10)
        (lastReading (received 10) (samples.map Prod.fst)) oneSecond).counter
          .rxPackets).toNat = 2 ∧
      shownTotal .rxPackets (displaySamples (fun _ _ => .zero) (received 10)
        samples) = 12 := by
  refine ⟨by decide, by decide, by decide⟩

end SlipNet.Monitoring
