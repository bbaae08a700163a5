import SlipNet.Capture.CaptureFile
import SlipNet.Foundation.Folds
import Mathlib.Tactic

/-!
# Metadata of a loaded capture

A capture file is a header and the blocks behind its `[PACKET]` lines.  The
header states a packet count and a byte count, and `loadCapture` replaces a
count by what it parsed only where the header leaves zero.  Saved byte counts
add the positive lengths, the loader adds every length.
-/

namespace SlipNet.Capture

open SlipNet.Foundation
open SlipNet.Standard

/-- The counts are those `saveCapture` computes for the packets. -/
structure MetadataAgrees (capture : CaptureData) : Prop where
  packetCount : capture.packetCount = UInt64.ofNat capture.packets.length
  totalBytes : capture.totalBytes = savedBytes capture.packets

/-! ## What a text states -/

def valueOf (key line : Str) : Option Str :=
  match findChar '=' line with
  | none => none
  | some separator =>
      if line.take separator = key then some (line.drop (separator + 1))
      else none

/-- The numbers the lines give the key, the last one if there are several, and
zero without one. -/
def statedSize (key : Str) (lines : List Str) : UInt64 :=
  (lines.filterMap fun line =>
    (valueOf key line).map stoullOrZero).getLast?.getD 0

def statedLength (block : List Str) : Int32 :=
  (block.filterMap fun line =>
    (valueOf "length".toList line).map stoiOrZero).getLast?.getD 0

def packetLine : Str := "[PACKET]".toList

def sections (text : Str) : List (List Str) :=
  (getlines '\n' text).splitOn packetLine

def header (text : Str) : List Str := (sections text).headD []

def blocks (text : Str) : List (List Str) := (sections text).tail

def statedLengths (text : Str) : List Int32 := (blocks text).map statedLength

def positiveSum (lengths : List Int32) : Int :=
  (lengths.map fun length => max 0 length.toInt).sum

def negativeSum (lengths : List Int32) : Int :=
  (lengths.map fun length => min 0 length.toInt).sum

/-- The header states no packet count or the right one. -/
def CountAgrees (text : Str) : Prop :=
  statedSize "packets".toList (header text) = 0 ∨
    statedSize "packets".toList (header text) =
      UInt64.ofNat (blocks text).length

/-- The header states the right byte count, or none and the negative lengths
make no difference. -/
def BytesAgree (text : Str) : Prop :=
  if statedSize "bytes".toList (header text) = 0 then
    2 ^ 64 ∣ negativeSum (statedLengths text)
  else
    statedSize "bytes".toList (header text) =
      UInt64.ofInt (positiveSum (statedLengths text))

/-! ## Lines of the header and of a block -/

def headerStep (capture : CaptureData) (line : Str) : CaptureData :=
  match findChar '=' line with
  | none => capture
  | some separator =>
      loadMetadata capture (line.take separator) (line.drop (separator + 1))

def blockStep (packet : Packet) (line : Str) : Packet :=
  match findChar '=' line with
  | none => packet
  | some separator =>
      loadField packet (line.take separator) (line.drop (separator + 1))

def blockPacket (block : List Str) : Packet := block.foldl blockStep {}

section Lines

variable {capture : CaptureData} {packet : Packet} {line : Str}

theorem loadLine_packetLine (loader : Loader) :
    loadLine loader packetLine = ⟨loader.flush, {}, true⟩ := by
  rw [loadLine, if_neg (by decide), if_neg (by decide)]
  exact if_pos rfl

theorem loadLine_of_ne (h : line ≠ packetLine) (loader : Loader) :
    loadLine loader line =
      match findChar '=' line with
      | none => loader
      | some separator =>
          if !loader.insidePacket then
            { loader with
              capture := loadMetadata loader.capture (line.take separator)
                (line.drop (separator + 1)) }
          else
            { loader with
              currentPacket := loadField loader.currentPacket
                (line.take separator) (line.drop (separator + 1)) } := by
  unfold loadLine
  -- an empty line and the first line of a file hold no equals sign
  by_cases hempty : line = []
  · rw [if_pos hempty, hempty]
    rfl
  rw [if_neg hempty]
  by_cases hmagic : line = "SLIPNET_CAPTURE_V2".toList
  · rw [if_pos hmagic, hmagic]
    rfl
  rw [if_neg hmagic]
  exact if_neg h

theorem loadLine_header (h : line ≠ packetLine) :
    loadLine ⟨capture, packet, false⟩ line =
      ⟨headerStep capture line, packet, false⟩ := by
  rw [loadLine_of_ne h, headerStep]
  cases findChar '=' line <;> rfl

theorem loadLine_block (h : line ≠ packetLine) :
    loadLine ⟨capture, packet, true⟩ line =
      ⟨capture, blockStep packet line, true⟩ := by
  rw [loadLine_of_ne h, blockStep]
  cases findChar '=' line <;> rfl

variable {lines : List Str}

theorem foldl_header (h : packetLine ∉ lines) :
    lines.foldl loadLine ⟨capture, packet, false⟩ =
      ⟨lines.foldl headerStep capture, packet, false⟩ := by
  induction lines generalizing capture with
  | nil => rfl
  | cons line lines ih =>
      rw [List.mem_cons, not_or] at h
      rw [List.foldl_cons, loadLine_header (Ne.symm h.1), ih h.2]
      rfl

theorem foldl_block (h : packetLine ∉ lines) :
    lines.foldl loadLine ⟨capture, packet, true⟩ =
      ⟨capture, lines.foldl blockStep packet, true⟩ := by
  induction lines generalizing packet with
  | nil => rfl
  | cons line lines ih =>
      rw [List.mem_cons, not_or] at h
      rw [List.foldl_cons, loadLine_block (Ne.symm h.1), ih h.2]
      rfl

theorem flush_foldl_blocks {blocks : List (List Str)}
    (h : ∀ block ∈ blocks, packetLine ∉ block) (loader : Loader) :
    (blocks.foldl (fun loader block =>
        block.foldl loadLine (loadLine loader packetLine)) loader).flush =
      { loader.flush with
        packets := loader.flush.packets ++ blocks.map blockPacket } := by
  induction blocks generalizing loader with
  | nil => simp
  | cons block blocks ih =>
      rw [List.foldl_cons, ih fun b hb => h b (List.mem_cons_of_mem _ hb),
        loadLine_packetLine, foldl_block (h block List.mem_cons_self)]
      simp [Loader.flush, blockPacket]

end Lines

theorem flush_loadLines (text : Str) :
    (loadLines {} text).flush =
      { (header text).foldl headerStep {} with
        packets := ((header text).foldl headerStep {}).packets ++
          (blocks text).map blockPacket } := by
  have hfree : ∀ piece ∈ sections text, packetLine ∉ piece :=
    fun _ => notMem_of_mem_splitOn
  have hheader : packetLine ∉ header text := by
    obtain ⟨first, rest, hsplit⟩ :=
      List.exists_cons_of_ne_nil
        (List.splitOn_ne_nil packetLine (getlines '\n' text))
    refine hfree _ ?_
    rw [header, sections, hsplit]
    exact List.mem_cons_self
  have hrun : (header text).foldl loadLine {} =
      ⟨(header text).foldl headerStep {}, {}, false⟩ := foldl_header hheader
  have hflush := flush_foldl_blocks
    (fun block hblock => hfree block (List.mem_of_mem_tail hblock))
    ((header text).foldl loadLine {})
  rw [loadLines, foldl_splitOn loadLine (getlines '\n' text)]
  refine hflush.trans ?_
  rw [hrun]
  rfl

/-! ## The stated numbers reach the capture -/

theorem packetCount_loadMetadata (capture : CaptureData) (key value : Str) :
    (loadMetadata capture key value).packetCount =
      if key = "packets".toList then stoullOrZero value
      else capture.packetCount := by
  by_cases hkey : key = "packets".toList
  · rw [if_pos hkey, hkey]
    rfl
  · unfold loadMetadata
    rw [if_neg hkey, if_neg hkey]
    split_ifs <;> rfl

theorem totalBytes_loadMetadata (capture : CaptureData) (key value : Str) :
    (loadMetadata capture key value).totalBytes =
      if key = "bytes".toList then stoullOrZero value
      else capture.totalBytes := by
  by_cases hkey : key = "bytes".toList
  · rw [if_pos hkey, hkey]
    rfl
  · unfold loadMetadata
    rw [if_neg hkey, if_neg hkey]
    split_ifs <;> rfl

theorem length_loadField (packet : Packet) (key value : Str) :
    (loadField packet key value).length =
      if key = "length".toList then stoiOrZero value
      else packet.length := by
  by_cases hkey : key = "length".toList
  · rw [if_pos hkey, hkey]
    rfl
  · unfold loadField
    rw [if_neg hkey, if_neg hkey]
    split_ifs <;> rfl

theorem packetCount_headerStep (capture : CaptureData) (line : Str) :
    (headerStep capture line).packetCount =
      ((valueOf "packets".toList line).map stoullOrZero).getD
        capture.packetCount := by
  unfold headerStep valueOf
  cases findChar '=' line with
  | none => rfl
  | some separator =>
      dsimp only
      rw [packetCount_loadMetadata]
      split_ifs <;> rfl

theorem totalBytes_headerStep (capture : CaptureData) (line : Str) :
    (headerStep capture line).totalBytes =
      ((valueOf "bytes".toList line).map stoullOrZero).getD
        capture.totalBytes := by
  unfold headerStep valueOf
  cases findChar '=' line with
  | none => rfl
  | some separator =>
      dsimp only
      rw [totalBytes_loadMetadata]
      split_ifs <;> rfl

theorem packets_headerStep (capture : CaptureData) (line : Str) :
    (headerStep capture line).packets = capture.packets := by
  unfold headerStep
  cases findChar '=' line with
  | none => rfl
  | some separator =>
      dsimp only
      unfold loadMetadata
      split_ifs <;> rfl

theorem length_blockStep (packet : Packet) (line : Str) :
    (blockStep packet line).length =
      ((valueOf "length".toList line).map stoiOrZero).getD
        packet.length := by
  unfold blockStep valueOf
  cases findChar '=' line with
  | none => rfl
  | some separator =>
      dsimp only
      rw [length_loadField]
      split_ifs <;> rfl

theorem length_blockPacket (block : List Str) :
    (blockPacket block).length = statedLength block :=
  foldl_last Packet.length length_blockStep

theorem packetCount_flush (text : Str) :
    (loadLines {} text).flush.packetCount =
      statedSize "packets".toList (header text) := by
  rw [flush_loadLines]
  exact foldl_last CaptureData.packetCount packetCount_headerStep

theorem totalBytes_flush (text : Str) :
    (loadLines {} text).flush.totalBytes =
      statedSize "bytes".toList (header text) := by
  rw [flush_loadLines]
  exact foldl_last CaptureData.totalBytes totalBytes_headerStep

theorem packets_flush (text : Str) :
    (loadLines {} text).flush.packets = (blocks text).map blockPacket := by
  have hnone : ((header text).foldl headerStep {}).packets = [] :=
    foldl_keeps CaptureData.packets packets_headerStep
  rw [flush_loadLines, hnone]
  rfl

theorem lengths_flush (text : Str) :
    (loadLines {} text).flush.packets.map Packet.length =
      statedLengths text := by
  rw [packets_flush, List.map_map]
  exact List.map_congr_left fun block _ => length_blockPacket block

/-! ## Byte counts of any lengths -/

theorem parsedBytes_eq_ofInt (totalBytes : UInt64) (packets : List Packet) :
    parsedBytes totalBytes packets = totalBytes +
      UInt64.ofInt (positiveSum (packets.map Packet.length)) +
      UInt64.ofInt (negativeSum (packets.map Packet.length)) := by
  induction packets generalizing totalBytes with
  | nil => exact ((UInt64.add_zero _).trans (UInt64.add_zero _)).symm
  | cons packet packets ih =>
      have hlength : sizeOfLength packet.length =
          UInt64.ofInt (max 0 packet.length.toInt) +
            UInt64.ofInt (min 0 packet.length.toInt) := by
        rw [← UInt64.ofInt_add, max_add_min, Int.zero_add]
        rfl
      have hrest := ih (totalBytes + sizeOfLength packet.length)
      rw [parsedBytes] at hrest
      rw [parsedBytes, List.foldl_cons, hrest, hlength]
      simp only [positiveSum, negativeSum, List.map_cons, List.sum_cons,
        UInt64.ofInt_add]
      ac_rfl

theorem savedBytes_eq_ofInt (packets : List Packet) :
    savedBytes packets =
      UInt64.ofInt (positiveSum (packets.map Packet.length)) := by
  have hrun : ∀ totalBytes : UInt64, packets.foldl
      (fun totalBytes packet =>
        if 0 < packet.length then totalBytes + sizeOfLength packet.length
        else totalBytes) totalBytes =
      totalBytes +
        UInt64.ofInt (positiveSum (packets.map Packet.length)) := by
    induction packets with
    | nil => exact fun totalBytes => (UInt64.add_zero totalBytes).symm
    | cons packet packets ih =>
        intro totalBytes
        have hlength : (if 0 < packet.length then
              totalBytes + sizeOfLength packet.length else totalBytes) =
            totalBytes + UInt64.ofInt (max 0 packet.length.toInt) := by
          split_ifs with hpositive
          · have hle := (Int32.lt_iff_toInt_lt.mp hpositive).le
            rw [max_eq_right (by simpa using hle)]
            rfl
          · have hle := Int32.le_iff_toInt_le.mp (Int32.not_lt.mp hpositive)
            rw [max_eq_left (by simpa using hle)]
            exact (UInt64.add_zero totalBytes).symm
        rw [List.foldl_cons, ih, hlength, UInt64.add_assoc,
          ← UInt64.ofInt_add]
        rfl
  exact (hrun 0).trans (UInt64.zero_add _)

theorem ofInt_eq_zero_iff (n : Int) : UInt64.ofInt n = 0 ↔ 2 ^ 64 ∣ n := by
  rw [← UInt64.toNat_inj, UInt64.ofInt, UInt64.toNat_ofNat']
  simp only [UInt64.toNat_zero]
  omega

/-! ## The reconciliation -/

theorem reconcile_eq (capture : CaptureData) :
    reconcile capture =
      { capture with
        packetCount :=
          if capture.packetCount = 0 then
            UInt64.ofNat capture.packets.length
          else capture.packetCount
        totalBytes :=
          if capture.totalBytes = 0 then parsedBytes 0 capture.packets
          else capture.totalBytes } := by
  unfold reconcile
  by_cases hcount : capture.packetCount = 0 <;>
    by_cases hbytes : capture.totalBytes = 0 <;>
    simp [hcount, hbytes]

theorem packetCount_agrees_iff (text : Str) :
    (parseCapture text).packetCount =
      UInt64.ofNat (parseCapture text).packets.length ↔ CountAgrees text := by
  rw [parseCapture, reconcile_eq]
  dsimp only
  rw [packetCount_flush, packets_flush, List.length_map, CountAgrees]
  split_ifs with hzero
  · exact iff_of_true rfl (.inl hzero)
  · exact (or_iff_right hzero).symm

theorem totalBytes_agrees_iff (text : Str) :
    (parseCapture text).totalBytes = savedBytes (parseCapture text).packets ↔
      BytesAgree text := by
  rw [parseCapture, reconcile_eq]
  dsimp only
  rw [totalBytes_flush, savedBytes_eq_ofInt, parsedBytes_eq_ofInt,
    lengths_flush, BytesAgree]
  split_ifs with hzero
  · rw [UInt64.zero_add, ← ofInt_eq_zero_iff]
    exact UInt64.add_eq_left
  · exact Iff.rfl

/-- The counts of a loaded capture are those of its packets exactly if the
header of the file states none or the right ones, and a byte count that is not
stated is not spoilt by negative lengths. -/
theorem loadCapture_metadataAgrees_iff {disk : Disk} {file : Str}
    {capture : CaptureData} (hloaded : loadCapture disk file = some capture) :
    ∃ text, disk file = some text ∧
      (MetadataAgrees capture ↔ CountAgrees text ∧ BytesAgree text) := by
  obtain ⟨text, htext, rfl⟩ := Option.map_eq_some_iff.mp hloaded
  refine ⟨text, htext, ?_⟩
  rw [← packetCount_agrees_iff, ← totalBytes_agrees_iff]
  exact ⟨fun h => ⟨h.packetCount, h.totalBytes⟩, fun h => ⟨h.1, h.2⟩⟩

theorem loadCapture_metadataAgrees_unstated :
    let text := "packets=0\n[PACKET]\nlength=60\n[PACKET]\nlength=0\n".toList
    MetadataAgrees (parseCapture text) := by
  intro text
  have hloaded : loadCapture (fun _ => some text) [] =
      some (parseCapture text) := rfl
  obtain ⟨read, hread, hagrees⟩ := loadCapture_metadataAgrees_iff hloaded
  obtain rfl : text = read := Option.some.inj hread
  exact hagrees.mpr ⟨by unfold CountAgrees; decide,
    by unfold BytesAgree; decide⟩

/-- A stale packet count stays, and a negative length is subtracted from the
byte count. -/
theorem not_metadataAgrees_stale :
    let text :=
      "packets=5\n[PACKET]\nlength=60\n[PACKET]\nlength=-10\n".toList
    ∃ capture, loadCapture (fun _ => some text) [] = some capture ∧
      capture.packetCount = 5 ∧ capture.packets.length = 2 ∧
      capture.totalBytes = 50 ∧ savedBytes capture.packets = 60 ∧
      ¬ MetadataAgrees capture := by
  refine ⟨_, rfl, by decide, by decide, by decide, by decide, fun h => ?_⟩
  exact absurd h.packetCount (by decide)

end SlipNet.Capture
