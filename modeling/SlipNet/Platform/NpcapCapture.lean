import SlipNet.Platform.CaptureLoop
import SlipNet.Platform.ReceiveLoop

/-!
# The Windows capture

`capturePackets` resolves the interface to an Npcap device, lets Npcap filter
and receives frames until the deadline.  What the library calls return is a
parameter.  Friendly names are given as the file narrows them.  The Linux loop
and this one are the same loop over different calls.
-/

namespace SlipNet.Capture

open SlipNet.Foundation
open SlipNet.Standard

namespace Windows

/-! ## The device -/

structure Device where
  name : Option Str
  description : Option Str
  deriving DecidableEq, Repr

structure Adapter where
  friendlyName : Option Str
  adapterName : Option Str
  deriving DecidableEq, Repr

def adapterGuid (adapters : List Adapter) (requested : Str) : Str :=
  match adapters.find? fun adapter =>
    adapter.adapterName.isSome && adapter.friendlyName = some requested with
  | some adapter => adapter.adapterName.getD []
  | none => []

/-- The device is found by its name, its description or the identifier of the
adapter; `none` is an enumeration that fails. -/
def resolveNpcapInterface (devices : Option (List Device))
    (adapters : Option (List Adapter)) (requested : Str) : Str :=
  match devices with
  | none => []
  | some devices =>
      match devices.find? fun device => device.name = some requested,
        devices.find? fun device => device.description = some requested,
        adapters with
      | some device, _, _ => device.name.getD []
      | none, some device, _ => device.name.getD []
      | none, none, none => []
      | none, none, some adapters =>
          let guid := adapterGuid adapters requested
          if guid = [] then []
          else
            match devices.find? fun device =>
              device.name.any fun name => (find guid name).isSome with
            | some device => device.name.getD []
            | none => []

/-! ## The filter -/

def normalizeFilter (filter : Str) : Str := upper filter

/-- The expression to compile, `none` for no filter; an unknown filter is
refused. -/
def filterExpression (filter : Str) : Except Unit (Option Str) :=
  let normalized := normalizeFilter filter
  if normalized = [] ∨ normalized = "ALL".toList then .ok none
  else if normalized = "TCP".toList then .ok (some "tcp".toList)
  else if normalized = "UDP".toList then .ok (some "udp".toList)
  else if normalized = "ICMP".toList then .ok (some "icmp".toList)
  else if normalized = "IP".toList then .ok (some "ip".toList)
  else .error ()

/-- `installs` tells whether an expression compiles and is taken. -/
def applyFilter (installs : Str → Bool) (filter : Str) : Bool :=
  match filterExpression filter with
  | .ok none => true
  | .ok (some expression) => installs expression
  | .error () => false

/-! ## Frames -/

/-- A frame that `pcap_next_ex` hands over; its length is `caplen`. -/
structure Frame where
  timestamp : Str
  bytes : Bytes
  fits : bytes.length < 2 ^ 32

def Frame.received (frame : Frame) : CapturedPacket :=
  { timestamp := frame.timestamp, length := .ofNat frame.bytes.length }

theorem exists_decodeTransport (transport : Bytes) (ip : IPv4Header)
    (packet : CapturedPacket) :
    ∃ result, decodeTransport transport ip packet = some result ∧
      result.length = packet.length := by
  unfold decodeTransport
  split_ifs with htcp hroom hudp hroom hicmp
  · obtain ⟨tcp, htcp⟩ := exists_tcpHeader hroom
    rw [htcp]
    dsimp only [Option.bind_eq_bind, Option.bind_some]
    split_ifs
    · exact ⟨_, rfl, rfl⟩
    · exact ⟨_, rfl, rfl⟩
  · exact ⟨_, rfl, rfl⟩
  · obtain ⟨udp, hudp⟩ := exists_udpHeader hroom
    rw [hudp]
    exact ⟨_, rfl, rfl⟩
  · exact ⟨_, rfl, rfl⟩
  · exact ⟨_, rfl, rfl⟩
  · exact ⟨_, rfl, rfl⟩

theorem exists_decodeIPv4 (data : Bytes) (packet : CapturedPacket) :
    ∃ result, decodeIPv4 data packet = some result ∧
      result.length = packet.length := by
  unfold decodeIPv4
  split_ifs with hshort
  · exact ⟨packet, rfl, rfl⟩
  · obtain ⟨ip, hip⟩ := exists_ipv4Header (Nat.le_of_not_lt hshort)
    rw [hip]
    dsimp only [Option.bind_eq_bind, Option.bind_some]
    split_ifs with hversion hheader
    · exact ⟨packet, rfl, rfl⟩
    · exact ⟨packet, rfl, rfl⟩
    · exact exists_decodeTransport _ ip (packet.withAddresses ip)

theorem exists_decodePacket (data : Bytes) (packet : CapturedPacket) :
    ∃ result, decodePacket data packet = some result ∧
      result.length = packet.length := by
  unfold decodePacket
  split_ifs with hshort
  · exact ⟨packet, rfl, rfl⟩
  · obtain ⟨etherType, htype⟩ : ∃ value, wordAt data 12 = some value :=
      exists_wordAt (Nat.le_of_not_lt hshort)
    rw [htype]
    dsimp only [Option.bind_eq_bind, Option.bind_some]
    split_ifs
    · exact exists_decodeIPv4 _ packet
    · exact ⟨_, rfl, rfl⟩
    · exact ⟨_, rfl, rfl⟩
    · exact ⟨_, rfl, rfl⟩

theorem isSome_decodePacket (frame : Frame) :
    (decodePacket frame.bytes frame.received).isSome = true := by
  obtain ⟨_, hresult, _⟩ := exists_decodePacket frame.bytes frame.received
  rw [hresult]
  rfl

def Frame.decode (frame : Frame) : CapturedPacket :=
  (decodePacket frame.bytes frame.received).get (isSome_decodePacket frame)

theorem length_decode (frame : Frame) :
    frame.decode.length = frame.received.length := by
  obtain ⟨result, hresult, hlength⟩ :=
    exists_decodePacket frame.bytes frame.received
  have hdecode : frame.decode = result := by
    unfold Frame.decode
    simp only [hresult, Option.get_some]
  rw [hdecode, hlength]

/-! ## The loop -/

/-- What `pcap_next_ex` returns in one pass of the loop. -/
inductive Reply
  | timeout
  /-- `PCAP_ERROR_BREAK` -/
  | interrupted
  | failed (error : Str)
  /-- A packet without a header or without data. -/
  | nothing
  | frame (frame : Frame)

def receive (config : PacketCaptureConfig) (result : PacketCaptureResult) :
    List Reply → PacketCaptureResult
  | [] => { result with success := true }
  | .timeout :: replies => receive config result replies
  | .interrupted :: _ => { result with success := true }
  | .failed error :: _ =>
      { result with error := "Npcap capture failed: ".toList ++ error }
  | .nothing :: replies => receive config result replies
  | .frame frame :: replies =>
      let packet := frame.decode
      let counted :=
        { result with totalBytes := result.totalBytes + frame.received.length }
      if counted.packets.length ≥ config.maxPackets.toNat then
        { counted with success := true }
      else
        receive config
          { counted with packets := counted.packets ++ [packet] } replies

/-- What the library calls around the loop return; an error is its text. -/
structure CaptureMachine where
  enumerationError : Option Str
  devices : Option (List Device)
  adapters : Option (List Adapter)
  openError : Str → Option Str
  isEthernet : Bool
  installs : Str → Bool
  replies : List Reply

def capturePackets (machine : CaptureMachine) (config : PacketCaptureConfig) :
    PacketCaptureResult :=
  let result : PacketCaptureResult :=
    { interfaceName := config.interfaceName
      durationSeconds := config.durationSeconds
      filter := config.filter }
  if config.interfaceName = [] then
    { result with error := "Capture interface is empty.".toList }
  else if config.durationSeconds ≤ 0 then
    { result with
      error := "Capture duration must be greater than zero.".toList }
  else
    match machine.enumerationError with
    | some error =>
        { result with
          error := "Npcap interface enumeration failed: ".toList ++ error }
    | none =>
        let npcapInterface := resolveNpcapInterface machine.devices
          machine.adapters config.interfaceName
        if npcapInterface = [] then
          { result with
            error := "Npcap interface not found: ".toList ++
              config.interfaceName }
        else
          match machine.openError (cStr npcapInterface) with
          | some error =>
              { result with
                error := "Npcap could not open interface: ".toList ++ error }
          | none =>
              if !machine.isEthernet then
                { result with
                  error := ("Unsupported network datalink. SlipNet " ++
                    "currently requires Ethernet.").toList }
              else if !applyFilter machine.installs config.filter then
                { result with
                  error := "Unable to apply packet filter: ".toList ++
                    config.filter }
              else receive config result machine.replies

def Opens (machine : CaptureMachine) (config : PacketCaptureConfig) : Prop :=
  let npcapInterface := resolveNpcapInterface machine.devices machine.adapters
    config.interfaceName
  config.interfaceName ≠ [] ∧ 0 < config.durationSeconds ∧
    machine.enumerationError = none ∧ npcapInterface ≠ [] ∧
    machine.openError (cStr npcapInterface) = none ∧
    machine.isEthernet = true ∧
    applyFilter machine.installs config.filter = true

def started (config : PacketCaptureConfig) : PacketCaptureResult :=
  { interfaceName := config.interfaceName
    durationSeconds := config.durationSeconds
    filter := config.filter }

theorem capturePackets_of_opens {machine : CaptureMachine}
    {config : PacketCaptureConfig} (h : Opens machine config) :
    capturePackets machine config =
      receive config (started config) machine.replies := by
  obtain ⟨hname, hduration, henumeration, hdevice, hopen, hlink, hfilter⟩ := h
  unfold capturePackets
  dsimp only
  rw [if_neg hname, if_neg (Int32.not_le.mpr hduration), henumeration]
  dsimp only
  rw [if_neg hdevice, hopen]
  dsimp only
  rw [hlink, hfilter, if_neg (by decide), if_neg (by decide), started]

theorem success_of_not_opens {machine : CaptureMachine}
    {config : PacketCaptureConfig} (h : ¬ Opens machine config) :
    (capturePackets machine config).success = false := by
  unfold capturePackets
  dsimp only
  by_cases hname : config.interfaceName = []
  · rw [if_pos hname]
  by_cases hduration : config.durationSeconds ≤ 0
  · rw [if_neg hname, if_pos hduration]
  rw [if_neg hname, if_neg hduration]
  cases henumeration : machine.enumerationError with
  | some error => rfl
  | none =>
      dsimp only
      by_cases hdevice : resolveNpcapInterface machine.devices
          machine.adapters config.interfaceName = []
      · rw [if_pos hdevice]
      rw [if_neg hdevice]
      cases hopen : machine.openError (cStr (resolveNpcapInterface
          machine.devices machine.adapters config.interfaceName)) with
      | some error => rfl
      | none =>
          dsimp only
          by_cases hlink : (!machine.isEthernet) = true
          · rw [if_pos hlink]
          by_cases hfilter :
              (!applyFilter machine.installs config.filter) = true
          · rw [if_neg hlink, if_pos hfilter]
          rw [Bool.not_eq_true, Bool.not_eq_false'] at hlink hfilter
          exact absurd ⟨hname, Int32.not_le.mp hduration, henumeration,
            hdevice, hopen, hlink, hfilter⟩ h

def packetCaptureAvailable (machine : CaptureMachine) : Bool :=
  machine.devices.any fun devices => !devices.isEmpty

def backend (machine : CaptureMachine) : CaptureBackend where
  packetCaptureAvailable := packetCaptureAvailable machine
  packetCaptureBackend := "Windows / Npcap".toList
  advice :=
    "[*] Install Npcap with WinPcap compatibility enabled.\n".toList
  capturePackets := capturePackets machine

def ready (replies : List Reply) : CaptureMachine where
  enumerationError := none
  devices := some [⟨some "eth0".toList, none⟩]
  adapters := none
  openError := fun _ => none
  isEthernet := true
  installs := fun _ => true
  replies := replies

end Windows

end SlipNet.Capture
