import SlipNet.Capture.CaptureFile
import Mathlib.Tactic

/-!
# Capture files round-trip

No sanitized string contains a newline, so every field is framed by its own
line, and no key contains an equals sign, so the first one separates key from
value.  The loader is followed line by line through one packet block and then,
by induction on the packets, through the whole file.
-/

namespace SlipNet.Capture

open SlipNet.Foundation
open SlipNet.Standard

/-! ## Sanitized strings -/

theorem newline_notMem_sanitize (value : Str) : '\n' ∉ sanitize value := by
  intro h
  obtain ⟨c, -, hc⟩ := List.mem_map.mp h
  by_cases hbad : c = '\n' ∨ c = '\r' ∨ c = '='
  · rw [if_pos hbad] at hc
    exact absurd hc (by decide)
  · rw [if_neg hbad] at hc
    exact hbad (.inl hc)

theorem sanitize_eq_self {value : Str} (hnewline : '\n' ∉ value)
    (hreturn : '\r' ∉ value) (hequals : '=' ∉ value) :
    sanitize value = value := by
  conv_rhs => rw [← List.map_id value]
  refine List.map_congr_left fun c hc => if_neg ?_
  rintro (rfl | rfl | rfl)
  · exact hnewline hc
  · exact hreturn hc
  · exact hequals hc

def Packet.sanitized (packet : Packet) : Packet :=
  { packet with
    timestamp := sanitize packet.timestamp
    source := sanitize packet.source
    destination := sanitize packet.destination
    protocol := sanitize packet.protocol }

/-! ## Printed values -/

theorem newline_notMem_decimal (n : Nat) : '\n' ∉ decimal n :=
  notMem_decimal (by decide)

theorem stoiOrZero_printInt (value : Int32) :
    stoiOrZero (printInt value.toInt) = value := by
  have hrange : InIntRange value.toInt := by
    have hlow := value.le_toInt
    have hhigh := value.toInt_lt
    constructor <;> omega
  rw [stoiOrZero, stoi_printInt hrange]
  exact Int32.ofInt_toInt value

theorem stoullOrZero_decimal (value : UInt64) :
    stoullOrZero (decimal value.toNat) = value := by
  rw [stoullOrZero, stoull_decimal, Option.getD_some]

theorem stoullOrZero_decimal_uint16 (value : UInt16) :
    (stoullOrZero (decimal value.toNat)).toUInt16 = value := by
  rw [← UInt16.toNat_toUInt64 value, stoullOrZero_decimal,
    UInt16.toUInt16_toUInt64]

theorem stoullOrZero_decimal_uint8 (value : UInt8) :
    (stoullOrZero (decimal value.toNat)).toUInt8 = value := by
  rw [← UInt8.toNat_toUInt64 value, stoullOrZero_decimal,
    UInt8.toUInt8_toUInt64]

/-! ## One line at a time -/

theorem loadLines_nil (loader : Loader) : loadLines loader [] = loader := rfl

theorem loadLines_line (loader : Loader) {line : Str} (h : '\n' ∉ line)
    (rest : Str) :
    loadLines loader (line ++ '\n' :: rest) =
      loadLines (loadLine loader line) rest := by
  rw [loadLines, getlines_append_cons h]
  rfl

theorem loadLine_keyValue (loader : Loader) {key : Str} (h : '=' ∉ key)
    (value : Str) :
    loadLine loader (key ++ '=' :: value) =
      if !loader.insidePacket then
        { loader with capture := loadMetadata loader.capture key value }
      else
        { loader with
          currentPacket := loadField loader.currentPacket key value } := by
  have hmem : '=' ∈ key ++ '=' :: value := by simp
  have hempty : key ++ '=' :: value ≠ [] := by simp
  have hmagic : key ++ '=' :: value ≠ "SLIPNET_CAPTURE_V2".toList := by
    intro e
    rw [e] at hmem
    exact absurd hmem (by decide)
  have hpacket : key ++ '=' :: value ≠ "[PACKET]".toList := by
    intro e
    rw [e] at hmem
    exact absurd hmem (by decide)
  have hvalue : (key ++ '=' :: value).drop (key.length + 1) = value := by
    rw [← List.drop_drop, List.drop_left]
    rfl
  rw [loadLine, if_neg hempty, if_neg hmagic, if_neg hpacket,
    findChar_append h]
  simp only [List.take_left, hvalue]

/-- One written field is one line for the loader. -/
theorem loadLines_writeField (loader : Loader) (name : String) {value : Str}
    (hname : '\n' ∉ name.toList)
    (hvalue : '\n' ∉ value) (rest : Str) :
    loadLines loader (writeField name value ++ rest) =
      loadLines (loadLine loader (name.toList ++ '=' :: value)) rest := by
  have hline : '\n' ∉ name.toList ++ '=' :: value := by
    simp [hname, hvalue]
  have htext : writeField name value ++ rest =
      (name.toList ++ '=' :: value) ++ '\n' :: rest := by
    simp [writeField]
  rw [htext, loadLines_line loader hline]

section Fields

variable (name : String) {value : Str} (hequals : '=' ∉ name.toList)
  (hname : '\n' ∉ name.toList) (hvalue : '\n' ∉ value) (rest : Str)

include hequals hname hvalue

theorem loadLines_metadata (capture : CaptureData) :
    loadLines { capture := capture } (writeField name value ++ rest) =
      loadLines { capture := loadMetadata capture name.toList value }
        rest := by
  rw [loadLines_writeField _ name hname hvalue,
    loadLine_keyValue _ hequals]
  rfl

theorem loadLines_field (capture : CaptureData) (packet : Packet) :
    loadLines ⟨capture, packet, true⟩ (writeField name value ++ rest) =
      loadLines ⟨capture, loadField packet name.toList value, true⟩
        rest := by
  rw [loadLines_writeField _ name hname hvalue,
    loadLine_keyValue _ hequals]
  rfl

end Fields

theorem loadLines_emptyLine (loader : Loader) (rest : Str) :
    loadLines loader ("\n".toList ++ rest) = loadLines loader rest := by
  have hline := loadLines_line loader (List.not_mem_nil (a := '\n')) rest
  rwa [loadLine, if_pos rfl] at hline

theorem loadLines_magic (loader : Loader) (rest : Str) :
    loadLines loader ("SLIPNET_CAPTURE_V2\n".toList ++ rest) =
      loadLines loader rest := by
  have htext : "SLIPNET_CAPTURE_V2\n".toList ++ rest =
      "SLIPNET_CAPTURE_V2".toList ++ '\n' :: rest := by simp
  rw [htext, loadLines_line loader (by decide), loadLine,
    if_neg (by decide), if_pos rfl]

theorem loadLines_open (loader : Loader) (rest : Str) :
    loadLines loader ("[PACKET]\n".toList ++ rest) =
      loadLines ⟨loader.flush, {}, true⟩ rest := by
  have htext : "[PACKET]\n".toList ++ rest =
      "[PACKET]".toList ++ '\n' :: rest := by simp
  rw [htext, loadLines_line loader (by decide), loadLine,
    if_neg (by decide), if_neg (by decide), if_pos rfl]

/-! ## One packet block -/

theorem loadLines_packetText (loader : Loader) (packet : Packet)
    (rest : Str) :
    loadLines loader (packetText packet ++ rest) =
      loadLines ⟨loader.flush, packet.sanitized, true⟩ rest := by
  have hdecoded : '\n' ∉ (if packet.decoded then "true".toList
      else "false".toList) := by
    cases packet.decoded <;> decide
  unfold packetText
  simp only [List.append_assoc]
  rw [loadLines_open,
    loadLines_field "id" (by decide) (by decide)
      (newline_notMem_decimal _),
    loadLines_field "timestamp" (by decide) (by decide)
      (newline_notMem_sanitize _),
    loadLines_field "source" (by decide) (by decide)
      (newline_notMem_sanitize _),
    loadLines_field "destination" (by decide) (by decide)
      (newline_notMem_sanitize _),
    loadLines_field "protocol" (by decide) (by decide)
      (newline_notMem_sanitize _),
    loadLines_field "source_port" (by decide) (by decide)
      (newline_notMem_decimal _),
    loadLines_field "destination_port" (by decide) (by decide)
      (newline_notMem_decimal _),
    loadLines_field "ttl" (by decide) (by decide)
      (newline_notMem_decimal _),
    loadLines_field "length" (by decide) (by decide)
      (notMem_printInt (by decide) (by decide) _),
    loadLines_field "decoded" (by decide) (by decide) hdecoded,
    loadLines_emptyLine]
  have hbool : parseBool (if packet.decoded then "true".toList
      else "false".toList) = packet.decoded := by
    cases packet.decoded <;> decide
  congr 1
  simpa [loadField, Packet.sanitized, stoullOrZero_decimal,
    stoullOrZero_decimal_uint16, stoullOrZero_decimal_uint8,
    stoiOrZero_printInt] using hbool

/-! ## The whole file -/

theorem flush_loadLines_packets (loader : Loader) (packets : List Packet) :
    (loadLines loader (packets.flatMap packetText)).flush =
      { loader.flush with
        packets :=
          loader.flush.packets ++ packets.map Packet.sanitized } := by
  induction packets generalizing loader with
  | nil => simp [loadLines_nil]
  | cons packet packets ih =>
      rw [List.flatMap_cons, loadLines_packetText, ih]
      simp [Loader.flush]

def headerOf (interfaceName : Str) (durationSeconds : Int32) (filter : Str)
    (packets : List Packet) : CaptureData where
  interfaceName := sanitize interfaceName
  duration := durationSeconds
  filter := sanitize filter
  packetCount := UInt64.ofNat packets.length
  totalBytes := savedBytes packets

theorem loadLines_captureText (interfaceName : Str) (durationSeconds : Int32)
    (filter : Str) (packets : List Packet) :
    loadLines {}
        (captureText interfaceName durationSeconds filter packets) =
      loadLines
        { capture := headerOf interfaceName durationSeconds filter packets }
        (packets.flatMap packetText) := by
  unfold captureText
  simp only [List.append_assoc]
  rw [loadLines_magic,
    loadLines_metadata "interface" (by decide) (by decide)
      (newline_notMem_sanitize _),
    loadLines_metadata "duration" (by decide) (by decide)
      (notMem_printInt (by decide) (by decide) _),
    loadLines_metadata "filter" (by decide) (by decide)
      (newline_notMem_sanitize _),
    loadLines_metadata "packets" (by decide) (by decide)
      (newline_notMem_decimal _),
    loadLines_metadata "bytes" (by decide) (by decide)
      (newline_notMem_decimal _),
    loadLines_emptyLine]
  have hcount := stoullOrZero_decimal (UInt64.ofNat packets.length)
  congr 1
  simpa [loadMetadata, headerOf, stoiOrZero_printInt,
    stoullOrZero_decimal] using hcount

/-! ## Byte counts -/

def lengthSum (packets : List Packet) : Nat :=
  (packets.map fun packet => packet.length.toInt.toNat).sum

theorem sizeOfLength_eq {length : Int32} (h : 0 ≤ length) :
    sizeOfLength length = UInt64.ofNat length.toInt.toNat := by
  have hnonneg : 0 ≤ length.toInt := by
    simpa using Int32.le_iff_toInt_le.mp h
  have hsmall := length.toInt_lt
  apply UInt64.toNat_inj.mp
  rw [sizeOfLength, UInt64.ofInt, UInt64.toNat_ofNat', UInt64.toNat_ofNat']
  omega

theorem parsedBytes_eq {packets : List Packet}
    (h : ∀ packet ∈ packets, 0 ≤ packet.length) (totalBytes : UInt64) :
    parsedBytes totalBytes packets =
      totalBytes + UInt64.ofNat (lengthSum packets) := by
  induction packets generalizing totalBytes with
  | nil => simp [parsedBytes, lengthSum]
  | cons packet packets ih =>
      have hrest := ih (fun p hp => h p (by simp [hp]))
        (totalBytes + sizeOfLength packet.length)
      rw [parsedBytes] at hrest
      rw [parsedBytes, List.foldl_cons, hrest,
        sizeOfLength_eq (h packet (by simp)), UInt64.add_assoc,
        ← UInt64.ofNat_add]
      rfl

theorem savedBytes_eq_parsedBytes {packets : List Packet}
    (h : ∀ packet ∈ packets, 0 ≤ packet.length) :
    savedBytes packets = parsedBytes 0 packets := by
  refine List.foldl_ext _ _ _ fun totalBytes packet hmem => ?_
  by_cases hpos : 0 < packet.length
  · rw [if_pos hpos]
  · have hzero : packet.length = 0 :=
      Int32.le_antisymm (Int32.not_lt.mp hpos) (h packet hmem)
    rw [if_neg hpos, hzero]
    exact (UInt64.add_zero totalBytes).symm

theorem savedBytes_eq {packets : List Packet}
    (h : ∀ packet ∈ packets, 0 ≤ packet.length) :
    savedBytes packets = UInt64.ofNat (lengthSum packets) := by
  rw [savedBytes_eq_parsedBytes h, parsedBytes_eq h, UInt64.zero_add]

theorem reconcile_of_consistent {capture : CaptureData}
    (hcount :
      capture.packetCount = UInt64.ofNat capture.packets.length)
    (hbytes : capture.totalBytes = parsedBytes 0 capture.packets) :
    reconcile capture = capture := by
  have hcounted :
      (if capture.packetCount = 0 then
        { capture with packetCount := UInt64.ofNat capture.packets.length }
      else capture) = capture := by
    rw [← hcount, ite_self]
  simp only [reconcile, hcounted]
  split
  · rename_i hzero
    rw [hzero, ← hbytes]
  · rfl

theorem lengthSum_sanitized (packets : List Packet) :
    lengthSum (packets.map Packet.sanitized) = lengthSum packets := by
  simp [lengthSum, Packet.sanitized, Function.comp_def]

theorem parseCapture_captureText (interfaceName : Str)
    (durationSeconds : Int32) (filter : Str) {packets : List Packet}
    (h : ∀ packet ∈ packets, 0 ≤ packet.length) :
    parseCapture
        (captureText interfaceName durationSeconds filter packets) =
      { interfaceName := sanitize interfaceName
        duration := durationSeconds
        filter := sanitize filter
        packetCount := UInt64.ofNat packets.length
        totalBytes := UInt64.ofNat (lengthSum packets)
        packets := packets.map Packet.sanitized } := by
  have hsanitized : ∀ packet ∈ packets.map Packet.sanitized,
      0 ≤ packet.length := by
    intro packet hmem
    obtain ⟨original, horiginal, rfl⟩ := List.mem_map.mp hmem
    exact h original horiginal
  have hflush :
      (loadLines {}
        (captureText interfaceName durationSeconds filter packets)).flush =
      { headerOf interfaceName durationSeconds filter packets with
        packets := packets.map Packet.sanitized } := by
    rw [loadLines_captureText, flush_loadLines_packets]
    simp [Loader.flush, headerOf]
  rw [parseCapture, hflush, reconcile_of_consistent]
  · simp [headerOf, savedBytes_eq h]
  · simp [headerOf]
  · simp only [headerOf]
    rw [savedBytes_eq h, parsedBytes_eq hsanitized, lengthSum_sanitized,
      UInt64.zero_add]

/-- A capture that was written whole is loaded again with every string
sanitized and everything else unchanged, whatever the strings contain. -/
theorem loadCapture_saveCapture (disk : Disk) (file interfaceName : Str)
    (durationSeconds : Int32) (filter : Str) (packets : List Packet)
    (h : ∀ packet ∈ packets, 0 ≤ packet.length) :
    loadCapture (saveCapture .complete disk file interfaceName durationSeconds
        filter packets).1 file =
      some {
        interfaceName := sanitize interfaceName
        duration := durationSeconds
        filter := sanitize filter
        packetCount := UInt64.ofNat packets.length
        totalBytes := UInt64.ofNat (lengthSum packets)
        packets := packets.map Packet.sanitized } ∧
    ∀ value, '\n' ∉ value → '\r' ∉ value → '=' ∉ value →
      sanitize value = value := by
  refine ⟨?_, fun _ => sanitize_eq_self⟩
  simp only [saveCapture, loadCapture, Function.update_self, Option.map_some]
  rw [parseCapture_captureText interfaceName durationSeconds filter h]

/-- A hostile source address cannot open a second packet. -/
theorem loadCapture_saveCapture_hostile :
    let packets : List Packet :=
      [{ id := 7, source := "1.1.1.1\n[PACKET]\nid=9".toList, length := 60 }]
    loadCapture (saveCapture .complete (fun _ => none) "a".toList
        "eth0".toList 10 "ALL".toList packets).1 "a".toList =
      some {
        interfaceName := sanitize "eth0".toList
        duration := 10
        filter := sanitize "ALL".toList
        packetCount := UInt64.ofNat packets.length
        totalBytes := UInt64.ofNat (lengthSum packets)
        packets := packets.map Packet.sanitized } ∧
    ∀ value, '\n' ∉ value → '\r' ∉ value → '=' ∉ value →
      sanitize value = value :=
  loadCapture_saveCapture (fun _ => none) "a".toList "eth0".toList 10
    "ALL".toList _ (by decide)

end SlipNet.Capture
