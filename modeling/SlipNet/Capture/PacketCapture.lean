import SlipNet.Capture.CaptureFile
import SlipNet.Platform.FrameDecoder

/-!
# Packet capture

`PacketCapture::capture` checks its request, lets the platform's backend
capture, copies the captured packets under consecutive ids, filters them once
more and writes them to a file named after the time.
-/

namespace SlipNet.Capture

open SlipNet.Foundation
open SlipNet.Standard

structure PacketCaptureConfig where
  interfaceName : Str := []
  durationSeconds : Int32 := 10
  filter : Str := "ALL".toList
  maxPackets : UInt64 := 10000
  deriving DecidableEq, Repr

structure PacketCaptureResult where
  success : Bool := false
  error : Str := []
  interfaceName : Str := []
  durationSeconds : Int32 := 0
  filter : Str := []
  packets : List CapturedPacket := []
  totalBytes : UInt64 := 0
  deriving DecidableEq, Repr

/-- What a platform provides, with the advice compiled in for it. -/
structure CaptureBackend where
  packetCaptureAvailable : Bool
  packetCaptureBackend : Str
  advice : Str
  capturePackets : PacketCaptureConfig → PacketCaptureResult

/-! ## The name of the file -/

/-- The local time, with its numbers as they are printed. -/
structure LocalTime where
  year : Nat
  month : Nat
  day : Nat
  hour : Nat
  minute : Nat
  second : Nat
  deriving DecidableEq, Repr

def padded (width n : Nat) : Str :=
  List.replicate (width - (decimal n).length) '0' ++ decimal n

def makeOutputFile (time : LocalTime) : Str :=
  "slipnet_capture_".toList ++ decimal time.year ++ padded 2 time.month ++
    padded 2 time.day ++ '_' :: padded 2 time.hour ++ padded 2 time.minute ++
    padded 2 time.second ++ ".slipcap".toList

/-! ## Filtering and copying -/

def supportedFilters : List Str :=
  ["ALL".toList, "TCP".toList, "UDP".toList, "ICMP".toList]

def matchesFilter (packet : Packet) (filter : Str) : Bool :=
  let normalized := upper filter
  if normalized = [] ∨ normalized = "ALL".toList then true
  else if normalized = "TCP".toList ∨ normalized = "UDP".toList ∨
      normalized = "ICMP".toList then
    upper packet.protocol = normalized
  else false

def CapturedPacket.toPacket (captured : CapturedPacket) (id : UInt64) :
    Packet where
  id := id
  timestamp := captured.timestamp
  source := captured.source
  destination := captured.destination
  protocol := captured.protocol
  sourcePort := captured.sourcePort
  destinationPort := captured.destinationPort
  ttl := captured.ttl
  length := Int32.ofInt captured.length.toNat
  decoded := captured.decoded

def copyPackets (filter : Str) (packetId : UInt64) :
    List CapturedPacket → List Packet
  | [] => []
  | captured :: rest =>
      let packet := captured.toPacket packetId
      if matchesFilter packet filter then
        packet :: copyPackets filter (packetId + 1) rest
      else copyPackets filter (packetId + 1) rest

/-! ## The capture -/

structure CaptureSummary where
  interfaceName : Str
  durationSeconds : Int32
  filter : Str
  packetCount : Nat
  totalBytes : UInt64
  outputFile : Str
  deriving DecidableEq, Repr

/-- What a capture leaves behind: the packets it returns, the files, and the
summary or the message it prints. -/
structure Captured where
  packets : List Packet
  disk : Disk
  report : Except Str CaptureSummary

def captureRequest (backend : CaptureBackend) (interfaceName : Str)
    (durationSeconds : Int32) (filter : Str) :
    Except Str PacketCaptureConfig :=
  let normalizedFilter := upper filter
  if interfaceName = [] then .error "[!] Capture interface is empty.\n".toList
  else if durationSeconds ≤ 0 ∨ durationSeconds > 86400 then
    .error ("[!] Capture duration must be between " ++
      "1 and 86400 seconds.\n").toList
  else if normalizedFilter ∉ supportedFilters then
    .error ("[!] Unsupported packet filter: ".toList ++ filter ++
      "\n[*] Supported filters: ALL, TCP, UDP, ICMP\n".toList)
  else if !backend.packetCaptureAvailable then
    .error (("\n[!] Packet capture backend is unavailable.\n" ++
      "[!] Backend: ").toList ++ backend.packetCaptureBackend ++
      "\n".toList ++ backend.advice)
  else
    .ok
      { interfaceName := interfaceName
        durationSeconds := durationSeconds
        filter := normalizedFilter
        maxPackets := 10000 }

def finishCapture (time : LocalTime) (outcome : WriteOutcome) (disk : Disk)
    (config : PacketCaptureConfig) (result : PacketCaptureResult) : Captured :=
  if !result.success then
    { packets := []
      disk := disk
      report := .error ("\n[!] Packet capture failed.\n[!] ".toList ++
        result.error ++ "\n".toList) }
  else
    let packets := copyPackets config.filter 1 result.packets
    let outputFile := makeOutputFile time
    let (written, saved) := saveCapture outcome disk outputFile
      config.interfaceName config.durationSeconds config.filter packets
    { packets := packets
      disk := written
      report :=
        if !saved then
          .error ("\n[!] Failed to write capture file:\n    ".toList ++
            outputFile ++ "\n".toList)
        else
          .ok
            { interfaceName := result.interfaceName
              durationSeconds := result.durationSeconds
              filter := result.filter
              packetCount := packets.length
              totalBytes := result.totalBytes
              outputFile := outputFile } }

def capture (backend : CaptureBackend) (time : LocalTime)
    (outcome : WriteOutcome) (disk : Disk) (interfaceName : Str)
    (durationSeconds : Int32) (filter : Str) : Captured :=
  match captureRequest backend interfaceName durationSeconds filter with
  | .error message => ⟨[], disk, .error message⟩
  | .ok config =>
      finishCapture time outcome disk config (backend.capturePackets config)

/-! ## What a capture writes -/

theorem saveCapture_of_ne (outcome : WriteOutcome) (disk : Disk)
    {file other : Str} (hne : other ≠ file) (interfaceName : Str)
    (durationSeconds : Int32) (filter : Str) (packets : List Packet) :
    (saveCapture outcome disk file interfaceName durationSeconds filter
      packets).1 other = disk other := by
  unfold saveCapture
  cases outcome <;> simp [hne]

variable {backend : CaptureBackend} {time : LocalTime} {outcome : WriteOutcome}
  {disk : Disk} {interfaceName : Str} {durationSeconds : Int32} {filter : Str}

theorem disk_capture_of_ne {file : Str} (hne : file ≠ makeOutputFile time) :
    (capture backend time outcome disk interfaceName durationSeconds
      filter).disk file = disk file := by
  unfold capture finishCapture
  split
  · rfl
  · split_ifs
    · rfl
    · exact saveCapture_of_ne outcome disk hne _ _ _ _

theorem outputFile_of_report {summary : CaptureSummary}
    (h : (capture backend time outcome disk interfaceName durationSeconds
      filter).report = .ok summary) :
    summary.outputFile = makeOutputFile time := by
  unfold capture finishCapture at h
  split at h
  · cases h
  · split at h
    · cases h
    · dsimp only at h
      split at h
      · cases h
      · cases h
        rfl

end SlipNet.Capture
