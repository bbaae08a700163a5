import SlipNet.Foundation.Handles
import SlipNet.Platform.NpcapCapture

/-!
# The calls of a capture

The two files of `capturePackets` as programs over the calls they make, pass by
pass, with every `close` and every `pcap_freealldevs`.  Whatever the replies, a
capture works on what is open and leaves nothing open, and what it returns is
what the model returns for the machine whose replies the log shows.
-/

namespace SlipNet.Platform.Captures

open SlipNet.Foundation
open SlipNet.Standard
open SlipNet.Capture

namespace Linux

open Capture.Linux (Frame Reply filterMatches started)

/-! ## The Linux calls -/

/-- `now` asks whether the deadline is ahead. -/
inductive CaptureCall
  | geteuid
  | if_nametoindex (name : Str)
  | socket
  | bind (socketFd : Int) (interfaceIndex : Nat)
  | now
  | select (socketFd : Int)
  | recvfrom (socketFd : Int)
  | close (socketFd : Int)

inductive Selected
  /-- `EINTR` -/
  | interrupted
  | failed (error : Str)
  | timedOut
  | ready

/-- An error is given as its text; `recvfrom` gives no frame when it returns
zero or an error. -/
abbrev CaptureCall.Reply : CaptureCall → Type
  | .geteuid => Nat
  | .if_nametoindex _ => Nat
  | .socket => Except Str Int
  | .bind _ _ => Option Str
  | .now => Bool
  | .select _ => Selected
  | .recvfrom _ => Option Frame
  | .close _ => Unit

abbrev CaptureProgram (α : Type) := Program CaptureCall CaptureCall.Reply α

def sockets : Handles CaptureCall CaptureCall.Reply Int where
  issued _ := True
  opened
    | .socket, reply => reply.toOption
    | _, _ => none
  used
    | .bind socketFd _ => [socketFd]
    | .select socketFd => [socketFd]
    | .recvfrom socketFd => [socketFd]
    | _ => []
  closed
    | .close socketFd => some socketFd
    | _ => none

def geteuid : CaptureProgram Nat := .call .geteuid .done

def if_nametoindex (name : Str) : CaptureProgram Nat :=
  .call (.if_nametoindex name) .done

def socket : CaptureProgram (Except Str Int) := .call .socket .done

def bind (socketFd : Int) (interfaceIndex : Nat) :
    CaptureProgram (Option Str) :=
  .call (.bind socketFd interfaceIndex) .done

def now : CaptureProgram Bool := .call .now .done

def select (socketFd : Int) : CaptureProgram Selected :=
  .call (.select socketFd) .done

def recvfrom (socketFd : Int) : CaptureProgram (Option Frame) :=
  .call (.recvfrom socketFd) .done

def close (socketFd : Int) : CaptureProgram Unit :=
  .call (.close socketFd) .done

/-- The socket is closed behind the loop. -/
def succeed (socketFd : Int) (result : PacketCaptureResult) :
    CaptureProgram PacketCaptureResult := do
  close socketFd
  return { result with success := true }

def giveUp (socketFd : Int) (result : PacketCaptureResult) (error : Str) :
    CaptureProgram PacketCaptureResult := do
  close socketFd
  return { result with error := error }

variable (config : PacketCaptureConfig)

/-- The loop, followed for this many passes. -/
def receive (socketFd : Int) :
    Nat → PacketCaptureResult → CaptureProgram PacketCaptureResult
  | 0, _ => .cut
  | passes + 1, result => do
      if !(← now) then succeed socketFd result
      else
        match ← select socketFd with
        | .interrupted => receive socketFd passes result
        | .failed error =>
            giveUp socketFd result
              ("Packet capture select() failed: ".toList ++ error)
        | .timedOut => succeed socketFd result
        | .ready =>
            match ← recvfrom socketFd with
            | none => receive socketFd passes result
            | some frame =>
                let packet := frame.decode
                let counted := { result with
                  totalBytes := result.totalBytes + frame.received.length }
                if !filterMatches packet config.filter then
                  receive socketFd passes counted
                else if counted.packets.length ≥ config.maxPackets.toNat then
                  succeed socketFd counted
                else
                  receive socketFd passes
                    { counted with packets := counted.packets ++ [packet] }

def capturePackets (passes : Nat) : CaptureProgram PacketCaptureResult := do
  let result := started config
  if config.interfaceName = [] then
    return { result with error := "Capture interface is empty.".toList }
  else if config.durationSeconds ≤ 0 then
    return { result with
      error := "Capture duration must be greater than zero.".toList }
  else
    let user ← geteuid
    if user ≠ 0 then
      return { result with
        error := "Linux packet capture requires root privileges.".toList }
    else
      let interfaceIndex ← if_nametoindex (cStr config.interfaceName)
      if interfaceIndex = 0 then
        return { result with
          error := "Network interface not found: ".toList ++
            config.interfaceName }
      else
        match ← socket with
        | .error error =>
            return { result with
              error := "Unable to create AF_PACKET socket: ".toList ++ error }
        | .ok socketFd =>
            match ← bind socketFd interfaceIndex with
            | some error =>
                giveUp socketFd result
                  ("Unable to bind packet capture socket: ".toList ++ error)
            | none => receive config socketFd passes result

end Linux

namespace Windows

open Capture.Windows (Device Adapter Frame Reply adapterGuid filterExpression
  started)

/-! ## The Windows calls -/

/-- `adaptersSize` and `adapters` are the two calls of
`GetAdaptersAddresses`. -/
inductive CaptureCall (H : Type)
  | pcap_findalldevs
  | pcap_freealldevs (devices : Option H)
  | adaptersSize
  | adapters
  | pcap_open_live (name : Str)
  | pcap_datalink (handle : H)
  | pcap_compile (handle : H) (expression : Str)
  | pcap_setfilter (handle program : H)
  | pcap_freecode (program : H)
  | now
  | pcap_next_ex (handle : H)
  | pcap_geterr (handle : H)
  | pcap_close (handle : H)

structure DeviceList (H : Type) where
  pointer : H
  first : Device
  next : List Device

inductive Next
  | timeout
  /-- `PCAP_ERROR_BREAK` -/
  | interrupted
  | failed
  /-- A packet without a header or without data. -/
  | nothing
  | frame (frame : Frame)

/-- `adaptersSize` tells whether the buffer is too small, `pcap_datalink`
whether the link is Ethernet and `pcap_setfilter` whether it returns zero. -/
abbrev CaptureCall.Reply {H : Type} : CaptureCall H → Type
  | .pcap_findalldevs => Except Str (Option (DeviceList H))
  | .pcap_freealldevs _ => Unit
  | .adaptersSize => Bool
  | .adapters => Option (List Adapter)
  | .pcap_open_live _ => Except Str H
  | .pcap_datalink _ => Bool
  | .pcap_compile _ _ => Option H
  | .pcap_setfilter _ _ => Bool
  | .pcap_freecode _ => Unit
  | .now => Bool
  | .pcap_next_ex _ => Next
  | .pcap_geterr _ => Str
  | .pcap_close _ => Unit

variable {H : Type}

abbrev CaptureProgram (H α : Type) :=
  Program (CaptureCall H) CaptureCall.Reply α

inductive Resource (H : Type)
  | devices (pointer : H)
  | handle (pointer : H)
  | program (pointer : H)
  deriving DecidableEq

def resources : Handles (CaptureCall H) CaptureCall.Reply (Resource H) where
  issued _ := True
  opened
    | .pcap_findalldevs, reply =>
        reply.toOption.join.map fun devices => .devices devices.pointer
    | .pcap_open_live _, reply => reply.toOption.map .handle
    | .pcap_compile _ _, reply => reply.map .program
    | _, _ => none
  used
    | .pcap_datalink handle => [.handle handle]
    | .pcap_compile handle _ => [.handle handle]
    | .pcap_setfilter handle program => [.handle handle, .program program]
    | .pcap_next_ex handle => [.handle handle]
    | .pcap_geterr handle => [.handle handle]
    | _ => []
  closed
    | .pcap_freealldevs devices => devices.map .devices
    | .pcap_freecode program => some (.program program)
    | .pcap_close handle => some (.handle handle)
    | _ => none

def pcap_findalldevs :
    CaptureProgram H (Except Str (Option (DeviceList H))) :=
  .call .pcap_findalldevs .done

/-- A null pointer is left alone. -/
def pcap_freealldevs (devices : Option (DeviceList H)) :
    CaptureProgram H Unit :=
  .call (.pcap_freealldevs (devices.map DeviceList.pointer)) .done

def adaptersSize : CaptureProgram H Bool := .call .adaptersSize .done

def adapters : CaptureProgram H (Option (List Adapter)) :=
  .call .adapters .done

def pcap_open_live (name : Str) : CaptureProgram H (Except Str H) :=
  .call (.pcap_open_live name) .done

def pcap_datalink (handle : H) : CaptureProgram H Bool :=
  .call (.pcap_datalink handle) .done

def pcap_compile (handle : H) (expression : Str) :
    CaptureProgram H (Option H) :=
  .call (.pcap_compile handle expression) .done

def pcap_setfilter (handle program : H) : CaptureProgram H Bool :=
  .call (.pcap_setfilter handle program) .done

def pcap_freecode (program : H) : CaptureProgram H Unit :=
  .call (.pcap_freecode program) .done

def now : CaptureProgram H Bool := .call .now .done

def pcap_next_ex (handle : H) : CaptureProgram H Next :=
  .call (.pcap_next_ex handle) .done

def pcap_geterr (handle : H) : CaptureProgram H Str :=
  .call (.pcap_geterr handle) .done

def pcap_close (handle : H) : CaptureProgram H Unit :=
  .call (.pcap_close handle) .done

/-! ## The Windows functions -/

def listed (found : Option (DeviceList H)) : List Device :=
  found.elim [] fun devices => devices.first :: devices.next

def resolved (found : Option (DeviceList H)) (name : Str) :
    CaptureProgram H Str := do
  pcap_freealldevs found
  return name

def deviceOfGuid (devices : List Device) (guid : Str) : Str :=
  match devices.find? fun device =>
    device.name.any fun name => (find guid name).isSome with
  | some device => device.name.getD []
  | none => []

def resolveNpcapInterface (requested : Str) : CaptureProgram H Str := do
  match ← pcap_findalldevs with
  | .error _ => return []
  | .ok found =>
      match (listed found).find? fun device => device.name = some requested,
        (listed found).find? fun device =>
          device.description = some requested with
      | some device, _ => resolved found (device.name.getD [])
      | none, some device => resolved found (device.name.getD [])
      | none, none =>
          if !(← adaptersSize) then resolved found []
          else
            match ← adapters with
            | none => resolved found []
            | some adapters =>
                let guid := adapterGuid adapters requested
                if guid = [] then resolved found []
                else resolved found (deviceOfGuid (listed found) guid)

def applyFilter (handle : H) (filter : Str) : CaptureProgram H Bool :=
  match filterExpression filter with
  | .ok none => return true
  | .error () => return false
  | .ok (some expression) => do
      match ← pcap_compile handle expression with
      | none => return false
      | some program =>
          let result ← pcap_setfilter handle program
          pcap_freecode program
          return result

def packetCaptureAvailable : CaptureProgram H Bool := do
  match ← pcap_findalldevs with
  | .error _ => return false
  | .ok found =>
      let available := found.isSome
      if available then
        pcap_freealldevs found
        return available
      else return available

def succeed (handle : H) (result : PacketCaptureResult) :
    CaptureProgram H PacketCaptureResult := do
  pcap_close handle
  return { result with success := true }

def giveUp (handle : H) (result : PacketCaptureResult) (error : Str) :
    CaptureProgram H PacketCaptureResult := do
  pcap_close handle
  return { result with error := error }

variable (config : PacketCaptureConfig)

/-- The loop, followed for this many passes. -/
def receive (handle : H) :
    Nat → PacketCaptureResult → CaptureProgram H PacketCaptureResult
  | 0, _ => .cut
  | passes + 1, result => do
      if !(← now) then succeed handle result
      else
        match ← pcap_next_ex handle with
        | .timeout => receive handle passes result
        | .interrupted => succeed handle result
        | .failed =>
            let error ← pcap_geterr handle
            giveUp handle result ("Npcap capture failed: ".toList ++ error)
        | .nothing => receive handle passes result
        | .frame frame =>
            let packet := frame.decode
            let counted := { result with
              totalBytes := result.totalBytes + frame.received.length }
            if counted.packets.length ≥ config.maxPackets.toNat then
              succeed handle counted
            else
              receive handle passes
                { counted with packets := counted.packets ++ [packet] }

def captureOn (handle : H) (passes : Nat) (result : PacketCaptureResult) :
    CaptureProgram H PacketCaptureResult := do
  if !(← pcap_datalink handle) then
    giveUp handle result ("Unsupported network datalink. SlipNet " ++
      "currently requires Ethernet.").toList
  else if !(← applyFilter handle config.filter) then
    giveUp handle result
      ("Unable to apply packet filter: ".toList ++ config.filter)
  else receive config handle passes result

def capturePackets (passes : Nat) :
    CaptureProgram H PacketCaptureResult := do
  let result := started config
  if config.interfaceName = [] then
    return { result with error := "Capture interface is empty.".toList }
  else if config.durationSeconds ≤ 0 then
    return { result with
      error := "Capture duration must be greater than zero.".toList }
  else
    match ← pcap_findalldevs with
    | .error error =>
        return { result with
          error := "Npcap interface enumeration failed: ".toList ++ error }
    | .ok found =>
        let npcapInterface ← resolveNpcapInterface config.interfaceName
        -- both ways out free the first list, which nothing has read
        pcap_freealldevs found
        if npcapInterface = [] then
          return { result with
            error := "Npcap interface not found: ".toList ++
              config.interfaceName }
        else
          match ← pcap_open_live (cStr npcapInterface) with
          | .error error =>
              return { result with
                error := "Npcap could not open interface: ".toList ++ error }
          | .ok handle => captureOn config handle passes result

end Windows

/-! ## What is held -/

namespace Linux

variable {config : PacketCaptureConfig} {socketFd : Int}

theorem safe_close {rest : Unit → CaptureProgram PacketCaptureResult}
    {post : PacketCaptureResult → List Int → Prop}
    (h : sockets.monitor.Safe post (rest ()) []) :
    sockets.monitor.Safe post (close socketFd >>= rest) [socketFd] := by
  refine Handles.safe_close (fun _ => rfl) rfl rfl List.mem_cons_self
    fun _ => ?_
  simpa using h

end Linux

namespace Windows

section Contract

variable [DecidableEq H] {config : PacketCaptureConfig} {handle : H}
  {found : Option (DeviceList H)} {α : Type}

end Contract

end Windows

/-! ## What is returned -/

namespace Linux

open Capture.Linux (Frame Reply filterMatches started)

def passOf : (c : CaptureCall) × c.Reply → Option Reply
  | ⟨.select _, .interrupted⟩ => some .interrupted
  | ⟨.select _, .failed error⟩ => some (.failed error)
  | ⟨.select _, .timedOut⟩ => some .timedOut
  | ⟨.select _, .ready⟩ => none
  | ⟨.recvfrom _, none⟩ => some .nothing
  | ⟨.recvfrom _, some frame⟩ => some (.frame frame)
  | _ => none

/-- The machine gives this reply to the call, if the call is made before the
loop. -/
def Answered (machine : Capture.Linux.CaptureMachine) :
    (c : CaptureCall) × c.Reply → Prop
  | ⟨.geteuid, user⟩ => machine.geteuid = user
  | ⟨.if_nametoindex name, interfaceIndex⟩ =>
      machine.if_nametoindex name = interfaceIndex
  | ⟨.socket, .error error⟩ => machine.socketError = some error
  | ⟨.socket, .ok _⟩ => machine.socketError = none
  | ⟨.bind _ _, error⟩ => machine.bindError = error
  | _ => True

abbrev CaptureLog := Log CaptureCall CaptureCall.Reply

/-- The log is one of this machine. -/
structure Answers (machine : Capture.Linux.CaptureMachine) (log : CaptureLog) :
    Prop where
  calls : ∀ entry ∈ log, Answered machine entry
  passes : machine.replies = log.filterMap passOf

variable {config : PacketCaptureConfig} {socketFd : Int}
  {result : PacketCaptureResult} {log : CaptureLog}

end Linux

namespace Windows

open Capture.Windows (Device Adapter Frame Reply adapterGuid filterExpression
  started)

/-- What the calls of the loop show of a pass; a failure is shown by its
error. -/
def passOf : (c : CaptureCall H) × c.Reply → Option Reply
  | ⟨.pcap_next_ex _, .timeout⟩ => some .timeout
  | ⟨.pcap_next_ex _, .interrupted⟩ => some .interrupted
  | ⟨.pcap_next_ex _, .failed⟩ => none
  | ⟨.pcap_next_ex _, .nothing⟩ => some .nothing
  | ⟨.pcap_next_ex _, .frame frame⟩ => some (.frame frame)
  | ⟨.pcap_geterr _, error⟩ => some (.failed error)
  | _ => none

/-- The machine gives this reply to the call, if the call is neither in the loop
nor an enumeration.  A filter is installed if it compiles and is taken. -/
def Answered (config : PacketCaptureConfig)
    (machine : Capture.Windows.CaptureMachine) :
    (c : CaptureCall H) × c.Reply → Prop
  | ⟨.adaptersSize, found⟩ => found = false → machine.adapters = none
  | ⟨.adapters, adapters⟩ => machine.adapters = adapters
  | ⟨.pcap_open_live name, .error error⟩ => machine.openError name = some error
  | ⟨.pcap_open_live name, .ok _⟩ => machine.openError name = none
  | ⟨.pcap_datalink _, isEthernet⟩ => machine.isEthernet = isEthernet
  | ⟨.pcap_compile _ expression, none⟩ => machine.installs expression = false
  | ⟨.pcap_setfilter _ _, taken⟩ => ∀ expression,
      filterExpression config.filter = .ok (some expression) →
        machine.installs expression = taken
  | _ => True

abbrev CaptureLog (H : Type) := Log (CaptureCall H) CaptureCall.Reply

abbrev Enumeration (H : Type) := Except Str (Option (DeviceList H))

def enumeration : (c : CaptureCall H) × c.Reply → Option (Enumeration H)
  | ⟨.pcap_findalldevs, reply⟩ => some reply
  | _ => none

def Enumeration.error? : Enumeration H → Option Str
  | .error error => some error
  | .ok _ => none

def Enumeration.devices (reply : Enumeration H) : Option (List Device) :=
  reply.toOption.map listed

/-- The calls around the loop are those of this machine.  The first enumeration
is asked for an error, and the devices are those of the second one. -/
structure Fits (config : PacketCaptureConfig)
    (machine : Capture.Windows.CaptureMachine) (log : CaptureLog H) : Prop where
  calls : ∀ entry ∈ log, Answered config machine entry
  first : ∀ reply ∈ (log.filterMap enumeration)[0]?,
    machine.enumerationError = reply.error?
  second : ∀ reply ∈ (log.filterMap enumeration)[1]?,
    machine.devices = reply.devices

/-- The log is one of this machine. -/
structure Answers (config : PacketCaptureConfig)
    (machine : Capture.Windows.CaptureMachine) (log : CaptureLog H) : Prop
    extends Fits config machine log where
  passes : machine.replies = log.filterMap passOf

variable {config : PacketCaptureConfig} {handle : H}
  {result : PacketCaptureResult} {log : CaptureLog H}

/-- The calls made since the log are those of a machine with a certain value in
the field, from which the model computes what was returned. -/
def Tells {α β : Type} (config : PacketCaptureConfig)
    (field : Capture.Windows.CaptureMachine → α) (compute : α → β)
    (log : CaptureLog H) (enumerated : List (Enumeration H)) (value : β)
    (after : CaptureLog H) : Prop :=
  ∃ (part : CaptureLog H) (told : α → Prop), after = log ++ part ∧
    part.filterMap enumeration = enumerated ∧ part.filterMap passOf = [] ∧
    (∀ machine, (∀ entry ∈ part, Answered config machine entry) ↔
      told (field machine)) ∧
    (∃ x, told x) ∧ ∀ x, told x → compute x = value

end Windows

end SlipNet.Platform.Captures
