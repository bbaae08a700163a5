import SlipNet.Capture.PacketCapture
import SlipNet.Foundation.BoundedCollection
import SlipNet.Foundation.Numbering

/-!
# The receive loop of a capture

Both capture files run the same loop: a pass brings nothing, ends the capture
or brings a frame, which is counted, decoded and filtered, and appended unless
the list is full.  What differs are the calls that a pass makes, how a frame is
decoded and whether the file filters itself.
-/

namespace SlipNet.Capture

open SlipNet.Foundation
open SlipNet.Standard

inductive Signal (Frame : Type)
  | idle
  | leave
  | fail (error : Str)
  | frame (frame : Frame)

structure CaptureLoop (Frame : Type) where
  size : Frame → UInt64
  decode : Frame → CapturedPacket
  admits : CapturedPacket → Str → Bool
  length_decode : ∀ frame, (decode frame).length = size frame

namespace CaptureLoop

variable {Frame : Type} (loop : CaptureLoop Frame)
  (config : PacketCaptureConfig)

/-- The body of the loop, and whether it goes on. -/
def pass (result : PacketCaptureResult) :
    Signal Frame → PacketCaptureResult × Bool
  | .idle => (result, true)
  | .leave => ({ result with success := true }, false)
  | .fail error => ({ result with error := error }, false)
  | .frame frame =>
      let packet := loop.decode frame
      let counted :=
        { result with totalBytes := result.totalBytes + loop.size frame }
      if !loop.admits packet config.filter then (counted, true)
      else if counted.packets.length ≥ config.maxPackets.toNat then
        ({ counted with success := true }, false)
      else ({ counted with packets := counted.packets ++ [packet] }, true)

/-- The loop; the deadline has passed where the signals end. -/
def receive (result : PacketCaptureResult) :
    List (Signal Frame) → PacketCaptureResult
  | [] => { result with success := true }
  | signal :: signals =>
      if (loop.pass config result signal).2 then
        receive (loop.pass config result signal).1 signals
      else (loop.pass config result signal).1

def framesOf : List (Signal Frame) → List Frame
  | [] => []
  | .idle :: signals => framesOf signals
  | .leave :: _ => []
  | .fail _ :: _ => []
  | .frame frame :: signals => frame :: framesOf signals

def admitsFrame (frame : Frame) : Bool :=
  loop.admits (loop.decode frame) config.filter

def appended (room : Nat) (signals : List (Signal Frame)) : List Frame :=
  collected (loop.admitsFrame config) room (framesOf signals)

/-- The frames it counts and appends no packet for. -/
def dropped (room : Nat) (signals : List (Signal Frame)) : List Frame :=
  discarded (loop.admitsFrame config) room (framesOf signals)

def bytes (frames : List Frame) : Nat :=
  (frames.map fun frame => (loop.size frame).toNat).sum

variable {loop config} {result : PacketCaptureResult}
  {signals : List (Signal Frame)}

@[simp] theorem bytes_nil : loop.bytes [] = 0 := rfl

@[simp] theorem bytes_cons (frame : Frame) (frames : List Frame) :
    loop.bytes (frame :: frames) =
      (loop.size frame).toNat + loop.bytes frames := rfl

structure Returns (loop : CaptureLoop Frame) (config : PacketCaptureConfig)
    (start result : PacketCaptureResult) (signals : List (Signal Frame)) :
    Prop where
  packets : result.packets = start.packets ++
    (loop.appended config (config.maxPackets.toNat - start.packets.length)
      signals).map loop.decode
  totalBytes : result.totalBytes.toNat = (start.totalBytes.toNat +
    (loop.bytes (loop.appended config
        (config.maxPackets.toNat - start.packets.length) signals) +
      loop.bytes (loop.dropped config
        (config.maxPackets.toNat - start.packets.length) signals))) % 2 ^ 64

theorem returns_of_framesOf_nil (h : framesOf signals = [])
    (start : PacketCaptureResult) :
    Returns loop config start { start with success := true } signals := by
  have hlt := start.totalBytes.toNat_lt
  constructor
  · simp [appended, h]
  · simp [appended, dropped, h, discarded, Nat.mod_eq_of_lt hlt]

/-! ## One frame -/

variable (loop) in
def counted (result : PacketCaptureResult) (frame : Frame) :
    PacketCaptureResult :=
  { result with totalBytes := result.totalBytes + loop.size frame }

variable {frame : Frame}

theorem receive_rejected (h : loop.admitsFrame config frame = false) :
    loop.receive config result (.frame frame :: signals) =
      loop.receive config (loop.counted result frame) signals := by
  rw [admitsFrame] at h
  simp [receive, pass, h, counted]

theorem receive_full (h : loop.admitsFrame config frame = true)
    (hfull : result.packets.length ≥ config.maxPackets.toNat) :
    loop.receive config result (.frame frame :: signals) =
      { loop.counted result frame with success := true } := by
  rw [admitsFrame] at h
  simp [receive, pass, h, hfull, counted]

theorem receive_appended (h : loop.admitsFrame config frame = true)
    (hroom : result.packets.length < config.maxPackets.toNat) :
    loop.receive config result (.frame frame :: signals) =
      loop.receive config { loop.counted result frame with
        packets := result.packets ++ [loop.decode frame] } signals := by
  rw [admitsFrame] at h
  simp [receive, pass, h, Nat.not_le.mpr hroom, counted]

theorem toNat_counted (result : PacketCaptureResult) (frame : Frame)
    (rest : Nat) :
    ((loop.counted result frame).totalBytes.toNat + rest) % 2 ^ 64 =
      (result.totalBytes.toNat + ((loop.size frame).toNat + rest)) %
        2 ^ 64 := by
  rw [counted, UInt64.toNat_add, Nat.mod_add_mod, Nat.add_assoc]

theorem returns_receive (hstart : result.success = false)
    (h : (loop.receive config result signals).success = true) :
    Returns loop config result (loop.receive config result signals)
      signals := by
  induction signals generalizing result with
  | nil => exact returns_of_framesOf_nil rfl result
  | cons signal signals ih =>
      cases signal with
      | idle =>
          obtain ⟨hpackets, hbytes⟩ := ih hstart h
          exact ⟨hpackets, hbytes⟩
      | leave => exact returns_of_framesOf_nil rfl result
      | fail error => exact absurd (hstart.symm.trans h) Bool.false_ne_true
      | frame frame =>
          by_cases hadmits : loop.admitsFrame config frame = true
          · by_cases hfull : result.packets.length ≥ config.maxPackets.toNat
            · have hroom : config.maxPackets.toNat - result.packets.length =
                  0 := by omega
              rw [receive_full hadmits hfull]
              constructor
              · simp [counted, appended, hroom]
              · have hsize := @toNat_counted _ loop result frame 0
                simp only [appended, dropped, framesOf, hroom, collected_zero,
                  discarded_zero_cons_of_pos hadmits, bytes_nil, bytes_cons,
                  Nat.zero_add]
                rw [← hsize, Nat.add_zero,
                  Nat.mod_eq_of_lt (UInt64.toNat_lt _)]
            · rw [receive_appended hadmits (Nat.lt_of_not_ge hfull)] at h ⊢
              obtain ⟨hpackets, hbytes⟩ := ih (by exact hstart) h
              have hroom : config.maxPackets.toNat - result.packets.length =
                  config.maxPackets.toNat -
                    (result.packets ++ [loop.decode frame]).length + 1 := by
                rw [List.length_append, List.length_singleton]
                omega
              constructor
              · rw [hpackets, hroom]
                simp only [appended, framesOf,
                  collected_cons_of_pos hadmits, List.map_cons,
                  List.append_assoc, List.singleton_append]
              · rw [hbytes, hroom]
                simp only [appended, dropped, framesOf,
                  collected_cons_of_pos hadmits,
                  discarded_succ_cons_of_pos hadmits, bytes_cons]
                rw [toNat_counted, Nat.add_assoc ((loop.size frame).toNat)]
          · have hrejected := eq_false_of_ne_true hadmits
            rw [receive_rejected hrejected] at h ⊢
            obtain ⟨hpackets, hbytes⟩ := ih (by exact hstart) h
            constructor
            · rw [hpackets]
              simp only [appended, framesOf, collected_cons_of_neg hrejected,
                counted]
            · rw [hbytes]
              simp only [appended, dropped, framesOf,
                collected_cons_of_neg hrejected,
                discarded_cons_of_neg hrejected, bytes_cons]
              rw [toNat_counted, Nat.add_left_comm (loop.bytes _)]
              rfl

/-! ## The bytes of the packets -/

def CountsPackets (result : PacketCaptureResult) : Prop :=
  result.totalBytes.toNat =
    (result.packets.map fun packet => packet.length.toNat).sum

theorem sum_length_decode (frames : List Frame) :
    ((frames.map loop.decode).map fun packet => packet.length.toNat).sum =
      loop.bytes frames := by
  induction frames with
  | nil => rfl
  | cons frame frames ih =>
      rw [List.map_cons, List.map_cons, List.sum_cons, ih, bytes_cons,
        loop.length_decode]

/-- The frames the capture drops have no bytes, as far as 64 bits can tell. -/
def DropsNoBytes (loop : CaptureLoop Frame) (config : PacketCaptureConfig)
    (signals : List (Signal Frame)) : Prop :=
  2 ^ 64 ∣ loop.bytes
      (loop.dropped config config.maxPackets.toNat signals) ∧
    loop.bytes (loop.appended config config.maxPackets.toNat signals) < 2 ^ 64

theorem countsPackets_iff {start : PacketCaptureResult}
    (hpackets : start.packets = []) (hbytes : start.totalBytes = 0)
    (h : Returns loop config start result signals) :
    CountsPackets result ↔ DropsNoBytes loop config signals := by
  have hreturned := h.packets
  have hcounted := h.totalBytes
  rw [hpackets, List.nil_append, List.length_nil, Nat.sub_zero] at hreturned
  rw [hpackets, hbytes, List.length_nil, Nat.sub_zero, UInt64.toNat_zero,
    Nat.zero_add] at hcounted
  rw [CountsPackets, hcounted, hreturned, sum_length_decode]
  exact add_mod_eq_left_iff (by decide)

end CaptureLoop

end SlipNet.Capture
