import SlipNet.Standard.Integers

/-!
# Capture files

`saveCapture` streams a capture as text lines, a header of `key=value` lines
followed by one block of such lines a packet, and `loadCapture` reads the lines
back one at a time.  Files are written and read without newline translation.
-/

namespace SlipNet.Capture

open SlipNet.Foundation
open SlipNet.Standard

structure Packet where
  id : UInt64 := 0
  timestamp : Str := []
  source : Str := []
  destination : Str := []
  protocol : Str := []
  sourcePort : UInt16 := 0
  destinationPort : UInt16 := 0
  ttl : UInt8 := 0
  length : Int32 := 0
  decoded : Bool := false
  deriving DecidableEq, Repr

/-- The readable files of the file system with their contents. -/
abbrev Disk := Str → Option Str

/-- How far writing a file gets.  A write can also stop unseen: what is still
in the buffer goes to the file when the stream is closed. -/
inductive WriteOutcome where
  | notOpened
  | stopsAfter (count : Nat)
  | stopsAtClose (count : Nat)
  | complete
  deriving DecidableEq, Repr

/-! ## Saving -/

def sanitize (value : Str) : Str :=
  value.map fun c => if c = '\n' ∨ c = '\r' ∨ c = '=' then '_' else c

/-- `output << name << '=' << value << '\n'` -/
def writeField (name : String) (value : Str) : Str :=
  name.toList ++ '=' :: value ++ ['\n']

/-- `static_cast<std::size_t>(length)` -/
def sizeOfLength (length : Int32) : UInt64 := UInt64.ofInt length.toInt

def savedBytes (packets : List Packet) : UInt64 :=
  packets.foldl
    (fun totalBytes packet =>
      if 0 < packet.length then totalBytes + sizeOfLength packet.length
      else totalBytes) 0

def packetText (packet : Packet) : Str :=
  "[PACKET]\n".toList ++
  writeField "id" (decimal packet.id.toNat) ++
  writeField "timestamp" (sanitize packet.timestamp) ++
  writeField "source" (sanitize packet.source) ++
  writeField "destination" (sanitize packet.destination) ++
  writeField "protocol" (sanitize packet.protocol) ++
  writeField "source_port" (decimal packet.sourcePort.toNat) ++
  writeField "destination_port" (decimal packet.destinationPort.toNat) ++
  writeField "ttl" (decimal packet.ttl.toNat) ++
  writeField "length" (printInt packet.length.toInt) ++
  writeField "decoded" (if packet.decoded then "true".toList
    else "false".toList) ++
  "\n".toList

def captureText (interfaceName : Str) (durationSeconds : Int32)
    (filter : Str) (packets : List Packet) : Str :=
  "SLIPNET_CAPTURE_V2\n".toList ++
  writeField "interface" (sanitize interfaceName) ++
  writeField "duration" (printInt durationSeconds.toInt) ++
  writeField "filter" (sanitize filter) ++
  writeField "packets" (decimal (UInt64.ofNat packets.length).toNat) ++
  writeField "bytes" (decimal (savedBytes packets).toNat) ++
  "\n".toList ++
  packets.flatMap packetText

/-- `good()` is asked before the stream is closed. -/
def saveCapture (outcome : WriteOutcome) (disk : Disk) (file : Str)
    (interfaceName : Str) (durationSeconds : Int32) (filter : Str)
    (packets : List Packet) : Disk × Bool :=
  let text := captureText interfaceName durationSeconds filter packets
  match outcome with
  | .notOpened => (disk, false)
  | .stopsAfter count =>
      (Function.update disk file (some (text.take count)), false)
  | .stopsAtClose count =>
      (Function.update disk file (some (text.take count)), true)
  | .complete => (Function.update disk file (some text), true)

/-! ## Loading -/

structure CaptureData where
  interfaceName : Str := []
  duration : Int32 := 0
  filter : Str := []
  packetCount : UInt64 := 0
  totalBytes : UInt64 := 0
  packets : List Packet := []
  deriving DecidableEq, Repr

def parseBool (value : Str) : Bool :=
  value = "true".toList || value = "1".toList

def stoiOrZero (value : Str) : Int32 :=
  match stoi value with
  | some (parsed, _) => Int32.ofInt parsed
  | none => 0

/-- `std::stoull` and `std::stoul` with the exceptions turned into `0`. -/
def stoullOrZero (value : Str) : UInt64 := (stoull value).getD 0

def loadMetadata (capture : CaptureData) (key value : Str) : CaptureData :=
  if key = "interface".toList then { capture with interfaceName := value }
  else if key = "duration".toList then
    { capture with duration := stoiOrZero value }
  else if key = "filter".toList then { capture with filter := value }
  else if key = "packets".toList then
    { capture with packetCount := stoullOrZero value }
  else if key = "bytes".toList then
    { capture with totalBytes := stoullOrZero value }
  else capture

def loadField (packet : Packet) (key value : Str) : Packet :=
  if key = "id".toList then { packet with id := stoullOrZero value }
  else if key = "timestamp".toList then { packet with timestamp := value }
  else if key = "source".toList then { packet with source := value }
  else if key = "destination".toList then
    { packet with destination := value }
  else if key = "protocol".toList then { packet with protocol := value }
  else if key = "source_port".toList then
    { packet with sourcePort := (stoullOrZero value).toUInt16 }
  else if key = "destination_port".toList then
    { packet with destinationPort := (stoullOrZero value).toUInt16 }
  else if key = "ttl".toList then
    { packet with ttl := (stoullOrZero value).toUInt8 }
  else if key = "length".toList then
    { packet with length := stoiOrZero value }
  else if key = "decoded".toList then
    { packet with decoded := parseBool value }
  else packet

/-- The variables of the line loop. -/
structure Loader where
  capture : CaptureData := {}
  currentPacket : Packet := {}
  insidePacket : Bool := false
  deriving DecidableEq, Repr

def Loader.flush (loader : Loader) : CaptureData :=
  if loader.insidePacket then
    { loader.capture with
      packets := loader.capture.packets ++ [loader.currentPacket] }
  else loader.capture

def loadLine (loader : Loader) (line : Str) : Loader :=
  if line = [] then loader
  else if line = "SLIPNET_CAPTURE_V2".toList then loader
  else if line = "[PACKET]".toList then
    { capture := loader.flush, currentPacket := {}, insidePacket := true }
  else
    match findChar '=' line with
    | none => loader
    | some separator =>
        let key := line.take separator
        let value := line.drop (separator + 1)
        if !loader.insidePacket then
          { loader with capture := loadMetadata loader.capture key value }
        else
          { loader with
            currentPacket := loadField loader.currentPacket key value }

/-- The sum of the parsed lengths, as `loadCapture` accumulates it. -/
def parsedBytes (totalBytes : UInt64) (packets : List Packet) : UInt64 :=
  packets.foldl
    (fun totalBytes packet => totalBytes + sizeOfLength packet.length)
    totalBytes

/-- Missing metadata is taken from the packets. -/
def reconcile (capture : CaptureData) : CaptureData :=
  let counted :=
    if capture.packetCount = 0 then
      { capture with packetCount := UInt64.ofNat capture.packets.length }
    else capture
  if counted.totalBytes = 0 then
    { counted with
      totalBytes := parsedBytes counted.totalBytes counted.packets }
  else counted

def loadLines (loader : Loader) (text : Str) : Loader :=
  (getlines '\n' text).foldl loadLine loader

def parseCapture (text : Str) : CaptureData :=
  reconcile (loadLines {} text).flush

/-- `none` when the file does not open. -/
def loadCapture (disk : Disk) (file : Str) : Option CaptureData :=
  (disk file).map parseCapture

end SlipNet.Capture
