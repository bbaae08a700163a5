import SlipNet.Platform.NpcapCapture

/-!
# The byte count of a capture

Both loops add a frame's length before they know whether its packet is kept.
The count is that of the returned packets exactly if no frame is dropped: on
Linux neither by the filter nor at the full list, on Windows not at the full
list.
-/

namespace SlipNet.Capture

open SlipNet.Foundation
open SlipNet.Standard

/-! ## Linux -/

namespace Linux

def captureLoop : CaptureLoop Frame where
  size frame := frame.received.length
  decode := Frame.decode
  admits := filterMatches
  length_decode frame := (decodedFrom_decode frame).length

def Reply.signal : Reply → Signal Frame
  | .interrupted => .idle
  | .failed error => .fail ("Packet capture select() failed: ".toList ++ error)
  | .timedOut => .leave
  | .nothing => .idle
  | .frame received => .frame received

theorem receive_eq (config : PacketCaptureConfig) (result : PacketCaptureResult)
    (replies : List Reply) :
    receive config result replies =
      captureLoop.receive config result (replies.map Reply.signal) := by
  induction replies generalizing result with
  | nil => rfl
  | cons reply replies ih =>
      cases reply with
      | interrupted => exact ih result
      | failed error => rfl
      | timedOut => rfl
      | nothing => exact ih result
      | frame frame =>
          rw [List.map_cons, receive]
          by_cases hadmits : captureLoop.admitsFrame config frame = true
          · have hmatches : filterMatches frame.decode config.filter = true :=
              hadmits
            by_cases hfull : result.packets.length ≥ config.maxPackets.toNat
            · rw [Reply.signal, CaptureLoop.receive_full hadmits hfull]
              simp only [hmatches, hfull, Bool.not_true, Bool.false_eq_true,
                if_false, if_true]
              rfl
            · rw [Reply.signal, CaptureLoop.receive_appended hadmits
                (Nat.lt_of_not_ge hfull), ← ih]
              simp only [hmatches, hfull, Bool.not_true, Bool.false_eq_true,
                if_false]
              rfl
          · have hmatches : filterMatches frame.decode config.filter = false :=
              eq_false_of_ne_true hadmits
            rw [Reply.signal, CaptureLoop.receive_rejected
              (eq_false_of_ne_true hadmits), ← ih]
            simp only [hmatches, Bool.not_false, if_true]
            rfl

theorem of_success_capturePackets {machine : CaptureMachine}
    {config : PacketCaptureConfig}
    (h : (capturePackets machine config).success = true) :
    ∃ start : PacketCaptureResult, start.success = false ∧
      start.packets = [] ∧ start.totalBytes = 0 ∧
      capturePackets machine config = captureLoop.receive config start
        (machine.replies.map Reply.signal) := by
  by_cases hopens : Opens machine config
  · rw [capturePackets_of_opens hopens]
    exact ⟨started config, rfl, rfl, rfl, receive_eq _ _ _⟩
  · exact absurd ((success_of_not_opens hopens).symm.trans h)
      Bool.false_ne_true

end Linux

/-! ## Windows -/

namespace Windows

/-- Npcap has filtered the frames already. -/
def captureLoop : CaptureLoop Frame where
  size frame := frame.received.length
  decode := Frame.decode
  admits _ _ := true
  length_decode := length_decode

def Reply.signal : Reply → Signal Frame
  | .timeout => .idle
  | .interrupted => .leave
  | .failed error => .fail ("Npcap capture failed: ".toList ++ error)
  | .nothing => .idle
  | .frame received => .frame received

theorem receive_eq (config : PacketCaptureConfig) (result : PacketCaptureResult)
    (replies : List Reply) :
    receive config result replies =
      captureLoop.receive config result (replies.map Reply.signal) := by
  induction replies generalizing result with
  | nil => rfl
  | cons reply replies ih =>
      cases reply with
      | timeout => exact ih result
      | interrupted => rfl
      | failed error => rfl
      | nothing => exact ih result
      | frame frame =>
          rw [List.map_cons, receive, Reply.signal]
          by_cases hfull : result.packets.length ≥ config.maxPackets.toNat
          · rw [CaptureLoop.receive_full rfl hfull]
            simp only [hfull, if_true]
            rfl
          · rw [CaptureLoop.receive_appended rfl (Nat.lt_of_not_ge hfull), ← ih]
            simp only [hfull, if_false]
            rfl

theorem of_success_capturePackets {machine : CaptureMachine}
    {config : PacketCaptureConfig}
    (h : (capturePackets machine config).success = true) :
    ∃ start : PacketCaptureResult, start.success = false ∧
      start.packets = [] ∧ start.totalBytes = 0 ∧
      capturePackets machine config = captureLoop.receive config start
        (machine.replies.map Reply.signal) := by
  by_cases hopens : Opens machine config
  · rw [capturePackets_of_opens hopens]
    exact ⟨started config, rfl, rfl, rfl, receive_eq _ _ _⟩
  · exact absurd ((success_of_not_opens hopens).symm.trans h)
      Bool.false_ne_true

end Windows

/-! ## The count -/

/-- A successful capture counts the bytes of the packets it returns exactly if
it drops no frame that has bytes: on Linux one the filter rejects or one that
arrives at the full list, on Windows the latter. -/
theorem countsPackets_capturePackets_iff {linux : Linux.CaptureMachine}
    {windows : Windows.CaptureMachine} {config : PacketCaptureConfig} :
    ((Linux.capturePackets linux config).success = true →
      (CaptureLoop.CountsPackets (Linux.capturePackets linux config) ↔
        Linux.captureLoop.DropsNoBytes config
          (linux.replies.map Linux.Reply.signal))) ∧
    ((Windows.capturePackets windows config).success = true →
      (CaptureLoop.CountsPackets (Windows.capturePackets windows config) ↔
        Windows.captureLoop.DropsNoBytes config
          (windows.replies.map Windows.Reply.signal))) := by
  constructor
  · intro hlinux
    obtain ⟨start, hstart, hpackets, hbytes, hloop⟩ :=
      Linux.of_success_capturePackets hlinux
    rw [hloop] at hlinux ⊢
    exact CaptureLoop.countsPackets_iff hpackets hbytes
      (CaptureLoop.returns_receive hstart hlinux)
  · intro hwindows
    obtain ⟨start, hstart, hpackets, hbytes, hloop⟩ :=
      Windows.of_success_capturePackets hwindows
    rw [hloop] at hwindows ⊢
    exact CaptureLoop.countsPackets_iff hpackets hbytes
      (CaptureLoop.returns_receive hstart hwindows)

def udpConfig : PacketCaptureConfig where
  interfaceName := "eth0".toList
  durationSeconds := 10
  filter := "UDP".toList
  maxPackets := 10000

theorem countsPackets_capturePackets_iff_udp :
    (CaptureLoop.CountsPackets
        (Linux.capturePackets (Linux.ready [.frame Linux.udpFrame]) udpConfig) ↔
      Linux.captureLoop.DropsNoBytes udpConfig
        ([.frame Linux.udpFrame].map Linux.Reply.signal)) ∧
    (CaptureLoop.CountsPackets
        (Windows.capturePackets (Windows.ready [.timeout]) udpConfig) ↔
      Windows.captureLoop.DropsNoBytes udpConfig
        ([.timeout].map Windows.Reply.signal)) :=
  have hcounts := @countsPackets_capturePackets_iff
    (Linux.ready [.frame Linux.udpFrame]) (Windows.ready [.timeout]) udpConfig
  ⟨hcounts.1 (by decide), hcounts.2 (by decide)⟩

/-- A filtered frame is counted. -/
theorem not_countsPackets_filtered :
    (Linux.capturePackets
        (Linux.ready [.frame Linux.arpFrame, .frame Linux.udpFrame])
        udpConfig).success = true ∧
      ¬ CaptureLoop.CountsPackets
        (Linux.capturePackets
          (Linux.ready [.frame Linux.arpFrame, .frame Linux.udpFrame])
          udpConfig) := by
  unfold CaptureLoop.CountsPackets
  decide

end SlipNet.Capture
