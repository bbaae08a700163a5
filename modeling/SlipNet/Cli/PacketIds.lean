import SlipNet.Capture.RoundTrip
import SlipNet.Cli.PacketCommands
import SlipNet.Foundation.Numbering
import SlipNet.Platform.NpcapCapture

/-!
# The ids of the packets

`capture` numbers the packets of the backend before its own filter drops some
of them.  The ids that are left run from one without a gap exactly if no packet
is dropped in front of one that is kept, counted modulo the ids there are.
-/

namespace SlipNet.Cli

open SlipNet.Foundation
open SlipNet.Standard
open SlipNet.Capture

/-- The packets the backend hands over, if the request gets there and the
capture succeeds. -/
def handedOver (backend : CaptureBackend) (interfaceName : Str)
    (durationSeconds : Int32) (filter : Str) : List CapturedPacket :=
  match captureRequest backend interfaceName durationSeconds filter with
  | .error _ => []
  | .ok config =>
      if (backend.capturePackets config).success then
        (backend.capturePackets config).packets
      else []

def accepts (filter : Str) (captured : CapturedPacket) : Bool :=
  matchesFilter (captured.toPacket 0) filter

def ids (packets : List Packet) : List Nat :=
  packets.map fun packet => packet.id.toNat

/-! ## Ids of the copies -/

theorem length_copyPackets (filter : Str) (id : UInt64)
    (captured : List CapturedPacket) :
    (copyPackets filter id captured).length =
      captured.countP (accepts filter) := by
  induction captured generalizing id with
  | nil => rfl
  | cons packet captured ih =>
      have hkept : matchesFilter (packet.toPacket id) filter =
          accepts filter packet := rfl
      rw [copyPackets]
      simp only [hkept]
      by_cases haccepts : accepts filter packet = true
      · rw [if_pos haccepts, List.length_cons, ih,
          List.countP_cons_of_pos haccepts]
      · rw [if_neg haccepts, ih, List.countP_cons_of_neg haccepts]

theorem ids_copyPackets (filter : Str) (number : Nat)
    (captured : List CapturedPacket) :
    ids (copyPackets filter (UInt64.ofNat number) captured) =
      keptNumbers (2 ^ 64) (accepts filter) number captured := by
  induction captured generalizing number with
  | nil => rfl
  | cons packet captured ih =>
      have hkept : matchesFilter (packet.toPacket (UInt64.ofNat number))
          filter = accepts filter packet := rfl
      have hnext : UInt64.ofNat number + 1 = UInt64.ofNat (number + 1) :=
        (UInt64.ofNat_add number 1).symm
      rw [copyPackets, keptNumbers]
      simp only [hkept, hnext]
      by_cases haccepts : accepts filter packet = true
      · rw [if_pos haccepts, if_pos haccepts, ← ih, ids, List.map_cons]
        congr 1
      · rw [if_neg haccepts, if_neg haccepts, ih]

theorem ids_copyPackets_iff (filter : Str) (captured : List CapturedPacket) :
    ids (copyPackets filter 1 captured) =
        List.range' 1 (copyPackets filter 1 captured).length ↔
      captured.countP (accepts filter) < 2 ^ 64 ∧
        DropsMultiples (2 ^ 64) (accepts filter) 0 captured := by
  have hids := ids_copyPackets filter 1 captured
  rw [length_copyPackets]
  have hnumbers := @keptNumbers_eq_range'_iff _ (2 ^ 64) (accepts filter) 0
    captured 1 (by decide) (by decide)
  rw [Nat.add_comm 1 (captured.countP _), Nat.succ_le_iff] at hnumbers
  exact hids ▸ hnumbers

/-! ## The capture -/

variable {backend : CaptureBackend} {time : LocalTime} {outcome : WriteOutcome}
  {disk : Disk} {interfaceName : Str} {durationSeconds : Int32} {filter : Str}

theorem filter_of_captureRequest {config : PacketCaptureConfig}
    (h : captureRequest backend interfaceName durationSeconds filter =
      .ok config) : config.filter = upper filter := by
  unfold captureRequest at h
  dsimp only at h
  split_ifs at h
  cases h
  rfl

theorem packets_capture :
    (capture backend time outcome disk interfaceName durationSeconds
      filter).packets =
      copyPackets (upper filter) 1
        (handedOver backend interfaceName durationSeconds filter) := by
  unfold capture handedOver
  cases hrequest : captureRequest backend interfaceName durationSeconds
      filter with
  | error message => rfl
  | ok config =>
      dsimp only
      rw [Linux.packets_finishCapture, filter_of_captureRequest hrequest]

theorem disk_capture_of_report {summary : CaptureSummary}
    (hwritten : outcome = .complete)
    (h : (capture backend time outcome disk interfaceName durationSeconds
      filter).report = .ok summary) :
    ∃ interfaceName' durationSeconds' filter',
      (capture backend time outcome disk interfaceName durationSeconds
        filter).disk summary.outputFile =
      some (captureText interfaceName' durationSeconds' filter'
        (capture backend time outcome disk interfaceName durationSeconds
          filter).packets) := by
  unfold capture finishCapture at h ⊢
  cases hrequest : captureRequest backend interfaceName durationSeconds
      filter with
  | error message =>
      rw [hrequest] at h
      cases h
  | ok config =>
      rw [hrequest] at h
      dsimp only at h ⊢
      by_cases hsuccess : (backend.capturePackets config).success = true
      · simp only [hsuccess, Bool.not_true, Bool.false_eq_true,
          if_false] at h ⊢
        subst hwritten
        cases h
        exact ⟨config.interfaceName, config.durationSeconds, config.filter,
          Function.update_self ..⟩
      · simp only [hsuccess, Bool.not_false, if_true] at h
        cases h

theorem packets_reconcile (capture : CaptureData) :
    (reconcile capture).packets = capture.packets := by
  unfold reconcile
  dsimp only
  split_ifs <;> rfl

theorem packets_parseCapture_captureText (interfaceName : Str)
    (durationSeconds : Int32) (filter : Str) (packets : List Packet) :
    (parseCapture
      (captureText interfaceName durationSeconds filter packets)).packets =
      packets.map Packet.sanitized := by
  rw [parseCapture, packets_reconcile, loadLines_captureText,
    flush_loadLines_packets]
  simp [Loader.flush, headerOf]

/-! ## The inspector -/

/-- Each id up to that of the last packet selects one packet of the file. -/
def SelectsOne (disk : Disk) (file : Str) (capture : CaptureData) : Prop :=
  ∀ last ∈ capture.packets.getLast?, ∀ id, 1 ≤ id → id ≤ last.id →
    ∃ packet, capture.packets.filter (fun other => other.id = id) = [packet] ∧
      inspectFile disk file id = .packet packet

theorem selectsOne_of_ids {file : Str} {capture : CaptureData} {count : Nat}
    (hload : loadCapture disk file = some capture)
    (hids : ids capture.packets = List.range' 1 count) :
    SelectsOne disk file capture := by
  intro last hlast id hpos hle
  have hmem {packet : Packet} (h : packet ∈ capture.packets) :
      packet.id.toNat ∈ List.range' 1 count :=
    hids ▸ List.mem_map_of_mem h
  have hlastle : last.id.toNat < 1 + count :=
    (List.mem_range'_1.mp (hmem (List.mem_of_mem_getLast? hlast))).2
  have hidmem : id.toNat ∈ ids capture.packets := by
    rw [hids, List.mem_range'_1]
    have hidpos : 1 ≤ id.toNat := UInt64.le_iff_toNat_le.mp hpos
    have hidle : id.toNat ≤ last.id.toNat := UInt64.le_iff_toNat_le.mp hle
    omega
  obtain ⟨packet, hpacket, hid⟩ := List.mem_map.mp hidmem
  have hnodup : (capture.packets.map Packet.id).Nodup := by
    have hnumbers : ((capture.packets.map Packet.id).map
        UInt64.toNat).Nodup := by
      rw [List.map_map, show capture.packets.map (UInt64.toNat ∘ Packet.id) =
        List.range' 1 count from hids]
      exact List.nodup_range'
    exact List.Nodup.of_map _ hnumbers
  obtain ⟨found, hfilter, hfind⟩ := exists_filter_eq_singleton hnodup
    (List.mem_map.mpr ⟨packet, hpacket, UInt64.toNat_inj.mp hid⟩)
  refine ⟨found, hfilter, ?_⟩
  have hzero : id > 0 := UInt64.lt_iff_toNat_lt.mpr
    (UInt64.le_iff_toNat_le.mp hpos)
  simp only [inspectFile, hload, hzero, hfind, if_true]

/-- The packets returned and those of a file that is written whole are numbered
from one, and the inspector finds each of them. -/
structure NumberedFromOne (outcome : WriteOutcome) (captured : Captured) :
    Prop where
  returned : ids captured.packets = List.range' 1 captured.packets.length
  saved : outcome = .complete → ∀ summary, captured.report = .ok summary →
    ∃ capture, loadCapture captured.disk summary.outputFile = some capture ∧
      ids capture.packets = List.range' 1 captured.packets.length ∧
      SelectsOne captured.disk summary.outputFile capture

theorem ids_sanitized (packets : List Packet) :
    ids (packets.map Packet.sanitized) = ids packets := by
  simp [ids, Packet.sanitized, Function.comp_def]

theorem numberedFromOne_of_written {captured : Captured}
    (hids : ids captured.packets = List.range' 1 captured.packets.length)
    (hwritten : outcome = .complete → ∀ summary,
      captured.report = .ok summary → ∃ interfaceName durationSeconds filter,
        captured.disk summary.outputFile = some (captureText interfaceName
          durationSeconds filter captured.packets)) :
    NumberedFromOne outcome captured := by
  refine ⟨hids, fun hcomplete summary hreport => ?_⟩
  obtain ⟨interfaceName, durationSeconds, filter, htext⟩ :=
    hwritten hcomplete summary hreport
  have hload := congrArg (Option.map parseCapture) htext
  have hsaved : ids (parseCapture (captureText interfaceName durationSeconds
      filter captured.packets)).packets =
      List.range' 1 captured.packets.length := by
    rw [packets_parseCapture_captureText, ids_sanitized, hids]
  exact ⟨_, hload, hsaved, selectsOne_of_ids hload hsaved⟩

/-- The ids have no gap exactly if fewer packets than there are ids are kept
and no other is handed over in front of one. -/
theorem numberedFromOne_capture_iff (backend : CaptureBackend)
    (time : LocalTime) (outcome : WriteOutcome) (disk : Disk)
    (interfaceName : Str) (durationSeconds : Int32) (filter : Str) :
    NumberedFromOne outcome (capture backend time outcome disk interfaceName
        durationSeconds filter) ↔
      (handedOver backend interfaceName durationSeconds filter).countP
          (accepts (upper filter)) < 2 ^ 64 ∧
        DropsMultiples (2 ^ 64) (accepts (upper filter)) 0
          (handedOver backend interfaceName durationSeconds filter) := by
  rw [← ids_copyPackets_iff, ← @packets_capture backend time outcome disk]
  constructor
  · intro h
    exact h.returned
  · intro hids
    exact numberedFromOne_of_written hids fun hcomplete _ =>
      disk_capture_of_report hcomplete

def ipv6Frame : Windows.Frame where
  timestamp := "2025-01-01 00:00:00.000".toList
  bytes := List.replicate 12 0xFF ++
    [0x86, 0xDD, 0x60, 0, 0, 0, 0, 0, 6, 64] ++ List.replicate 32 0xFE
  fits := by decide

def tcpFrame : Windows.Frame where
  timestamp := "2025-01-01 00:00:00.001".toList
  bytes := List.replicate 12 0xFF ++
    [0x08, 0x00, 0x45, 0, 0, 20, 0, 0, 0, 0, 64, 6, 0, 0, 10, 0, 0, 1, 10, 0,
      0, 2]
  fits := by decide

/-- Npcap hands over TCP over IPv6 as well, which decodes as IPv6: the packet
that is kept has the id 2, and no packet has the id 1. -/
theorem not_numberedFromOne_ipv6 :
    ¬ NumberedFromOne .complete (capture
      (Windows.backend (Windows.ready [.frame ipv6Frame, .frame tcpFrame]))
      ⟨2025, 1, 1, 0, 0, 10⟩ .complete (fun _ => none) "eth0".toList 10
      "TCP".toList) := by
  intro h
  exact absurd h.returned (by decide)

end SlipNet.Cli
