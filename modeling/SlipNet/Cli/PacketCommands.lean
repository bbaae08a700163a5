import SlipNet.Capture.PacketCapture
import SlipNet.Cli.CommandParser
import SlipNet.Foundation.Runs

/-!
# pkt|:capture and pkt|:inspect

A capture is written to a file named after the time.  An inspection reads the
file it is given, or else a fixed one that no capture writes, so the latest
capture is never what an inspection without a file shows.
-/

namespace SlipNet.Cli

open SlipNet.Foundation
open SlipNet.Standard
open SlipNet.Capture

/-! ## pkt|:capture -/

structure CaptureSurroundings where
  activeInterface : Str
  backend : CaptureBackend
  time : LocalTime
  outcome : WriteOutcome

def captureArguments (activeInterface : Str) (arguments : List Str) :
    Except Str (Str × Int32 × Str) :=
  if arguments.length > 3 then
    .error ("\n[!] Too many arguments.\n\nUsage:\n  pkt|:capture\n" ++
      "  pkt|:capture <interface>\n  pkt|:capture <interface> <seconds>\n" ++
      "  pkt|:capture <interface> <seconds> <filter>\n\nFilters:\n  ALL\n" ++
      "  TCP\n  UDP\n  ICMP\n").toList
  else
    let interfaceName := arguments[0]?.getD activeInterface
    if arguments = [] ∧ interfaceName = [] then
      .error "\n[!] Unable to detect an active interface.\n".toList
    else
      match stoi (arguments[1]?.getD "10".toList) with
      | none =>
          .error ("\n[!] Invalid duration.\n" ++
            "[*] Duration must be an integer.\n[*] Example:\n" ++
            "    pkt|:capture eth1 10\n").toList
      | some (seconds, _) =>
          let filter := upper (arguments[2]?.getD "ALL".toList)
          if seconds < 1 ∨ seconds > 86400 then
            .error ("\n[!] Duration must be between " ++
              "1 and 86400 seconds.\n").toList
          else if filter ≠ "ALL".toList ∧ filter ≠ "TCP".toList ∧
              filter ≠ "UDP".toList ∧ filter ≠ "ICMP".toList then
            .error ("\n[!] Unsupported filter: ".toList ++ filter ++
              "\n[*] Supported filters: ALL, TCP, UDP, ICMP\n".toList)
          else .ok (interfaceName, Int32.ofInt seconds, filter)

structure ProtocolCounts where
  tcpCount : Nat
  udpCount : Nat
  icmpCount : Nat
  otherCount : Nat
  deriving DecidableEq, Repr

def countProtocols (packets : List Packet) : ProtocolCounts where
  tcpCount := packets.countP (·.protocol = "TCP".toList)
  udpCount := packets.countP (·.protocol = "UDP".toList)
  icmpCount := packets.countP (·.protocol = "ICMP".toList)
  otherCount := packets.countP fun packet =>
    packet.protocol ≠ "TCP".toList ∧ packet.protocol ≠ "UDP".toList ∧
      packet.protocol ≠ "ICMP".toList

structure CaptureStatistics where
  packetCount : Nat
  totalBytes : UInt64
  protocols : ProtocolCounts
  closing : Str
  deriving DecidableEq, Repr

def captureStatistics (packets : List Packet) : CaptureStatistics where
  packetCount := packets.length
  totalBytes := parsedBytes 0 packets
  protocols := countProtocols packets
  closing :=
    if packets = [] then "\n[!] No matching IPv4 packets captured.\n".toList
    else "\n[+] Packet capture completed successfully.\n".toList

def handlePacketCapture (surroundings : CaptureSurroundings) (disk : Disk)
    (arguments : List Str) : Except Str (Captured × CaptureStatistics) := do
  let (interfaceName, seconds, filter) ←
    captureArguments surroundings.activeInterface arguments
  let captured := capture surroundings.backend surroundings.time
    surroundings.outcome disk interfaceName seconds filter
  return (captured, captureStatistics captured.packets)

/-! ## pkt|:inspect -/

inductive Inspection
  | unreadable (file : Str)
  | packet (packet : Packet)
  | notFound (packetId : UInt64) (lastId : Option UInt64)
  | dashboard (file : Str) (capture : CaptureData) (protocols : ProtocolCounts)
      (decodedCount : Nat)
  deriving DecidableEq, Repr

def inspectFile (disk : Disk) (file : Str) (packetId : UInt64) : Inspection :=
  match loadCapture disk file with
  | none => .unreadable file
  | some capture =>
      if packetId > 0 then
        match capture.packets.find? fun packet => packet.id = packetId with
        | some packet => .packet packet
        | none => .notFound packetId (capture.packets.getLast?.map Packet.id)
      else
        .dashboard file
          { capture with
            totalBytes :=
              if capture.totalBytes = 0 then parsedBytes 0 capture.packets
              else capture.totalBytes }
          (countProtocols capture.packets)
          (capture.packets.countP Packet.decoded)

def defaultFile : Str := "data/last_capture.txt".toList

def isNumeric (argument : Str) : Bool :=
  argument ≠ [] && argument.all isdigit

/-- The file to read and the packet to show; zero stands for all of them. -/
def inspectRequest : List Str → Except Str (Str × UInt64)
  | [] => .ok (defaultFile, 0)
  | [argument] =>
      if isNumeric argument then
        match stoull argument with
        | none => .error "\n[!] Invalid packet ID.\n".toList
        | some packetId =>
            if packetId = 0 then
              .error "\n[!] Packet ID must be greater than zero.\n".toList
            else .ok (defaultFile, packetId)
      else .ok (argument, 0)
  | _ =>
      .error ("\n[!] Too many arguments.\n\nUsage:\n  pkt|:inspect\n" ++
        "  pkt|:inspect <ID>\n  pkt|:inspect <file>\n").toList

def handlePacketInspect (disk : Disk) (arguments : List Str) :
    Except Str Inspection := do
  let (file, packetId) ← inspectRequest arguments
  return inspectFile disk file packetId

/-! ## Runs -/

/-- The files, and the latest capture that was written without an error: the
name of its file and its packets. -/
structure PacketSession where
  disk : Disk
  latest : Option (Str × List Packet) := none

/-- A line at the prompt, with what a capture would meet. -/
structure PacketTurn where
  input : Str
  surroundings : CaptureSurroundings

def PacketSession.record (session : PacketSession) (captured : Captured) :
    PacketSession where
  disk := captured.disk
  latest :=
    match captured.report with
    | .error _ => session.latest
    | .ok summary => some (summary.outputFile, captured.packets)

/-- No command but `pkt|:capture` writes a file. -/
def PacketSession.next (session : PacketSession) (turn : PacketTurn) :
    PacketSession :=
  let command := parse turn.input
  match command.type with
  | .packetCapture =>
      match handlePacketCapture turn.surroundings session.disk
        command.arguments with
      | .error _ => session
      | .ok (captured, _) => session.record captured
  | _ => session

def PacketStep (session : PacketSession) (turn : PacketTurn)
    (next : PacketSession) : Prop :=
  next = session.next turn

/-- `pkt|:inspect` without an argument or with the ID of a packet. -/
def AsksForLatest (command : ParsedCommand) : Prop :=
  command.type = .packetInspect ∧
    (command.arguments = [] ∨ ∃ argument packetId,
      command.arguments = [argument] ∧ isNumeric argument = true ∧
        stoull argument = some packetId ∧ packetId ≠ 0)

/-- The inspection displays the capture, or one packet of it, or that it has no
such packet. -/
def Shows (packets : List Packet) : Inspection → Prop
  | .unreadable _ => False
  | .packet packet => packet ∈ packets
  | .notFound packetId _ => ∀ packet ∈ packets, packet.id ≠ packetId
  | .dashboard _ capture _ _ => capture.packets = packets

/-- An inspection of the latest capture reads its file and displays it. -/
def InspectsLatest (session : PacketSession) (turn : PacketTurn) : Prop :=
  ∀ file packets, session.latest = some (file, packets) →
    AsksForLatest (parse turn.input) →
    ∃ packetId inspection,
      inspectRequest (parse turn.input).arguments = .ok (file, packetId) ∧
      handlePacketInspect session.disk (parse turn.input).arguments =
        .ok inspection ∧ Shows packets inspection

/-- The latest capture is not asked for after there has been one. -/
def AsksBeforeCapture (session : PacketSession) (turn : PacketTurn) : Prop :=
  AsksForLatest (parse turn.input) → session.latest = none

theorem head?_makeOutputFile (time : LocalTime) :
    (makeOutputFile time).head? = some 's' := by
  have hprefix : "slipnet_capture_".toList.head? = some 's' := by decide
  unfold makeOutputFile
  simp only [List.append_assoc, List.head?_append, hprefix, Option.some_or]

theorem makeOutputFile_ne (time : LocalTime) :
    makeOutputFile time ≠ defaultFile := by
  intro h
  have hhead := head?_makeOutputFile time
  rw [h] at hhead
  exact absurd hhead (by decide)

/-- A turn does nothing to the files, or it is one capture. -/
theorem next_cases (session : PacketSession) (turn : PacketTurn) :
    session.next turn = session ∨ ∃ interfaceName seconds filter,
      session.next turn = session.record
        (capture turn.surroundings.backend turn.surroundings.time
          turn.surroundings.outcome session.disk interfaceName seconds
          filter) := by
  unfold PacketSession.next handlePacketCapture
  dsimp only
  split
  · cases captureArguments turn.surroundings.activeInterface
        (parse turn.input).arguments with
    | error message => exact .inl rfl
    | ok request =>
        obtain ⟨interfaceName, seconds, filter⟩ := request
        exact .inr ⟨interfaceName, seconds, filter, rfl⟩
  · exact .inl rfl

structure DefaultUntouched (content : Option Str) (session : PacketSession) :
    Prop where
  kept : session.disk defaultFile = content
  latest_ne : ∀ file packets, session.latest = some (file, packets) →
    file ≠ defaultFile

theorem defaultUntouched_next {content : Option Str} {session : PacketSession}
    (h : DefaultUntouched content session) (turn : PacketTurn) :
    DefaultUntouched content (session.next turn) := by
  rcases next_cases session turn with hnext |
    ⟨interfaceName, seconds, filter, hnext⟩
  · rwa [hnext]
  · rw [hnext]
    constructor
    · exact (disk_capture_of_ne (makeOutputFile_ne _).symm).trans h.kept
    · intro file packets hlatest
      unfold PacketSession.record at hlatest
      dsimp only at hlatest
      split at hlatest
      · exact h.latest_ne file packets hlatest
      · next summary hreport =>
          cases hlatest
          rw [outputFile_of_report hreport]
          exact makeOutputFile_ne _

theorem inspectRequest_of_asks {command : ParsedCommand}
    (h : AsksForLatest command) :
    ∃ packetId, inspectRequest command.arguments =
      .ok (defaultFile, packetId) := by
  obtain ⟨_, hnone | ⟨argument, packetId, hone, hnumeric, hread, hne⟩⟩ := h
  · exact ⟨0, by rw [hnone, inspectRequest]⟩
  · refine ⟨packetId, ?_⟩
    rw [hone, inspectRequest, if_pos hnumeric, hread]
    exact if_neg hne

theorem inspectsLatest_iff_asksBeforeCapture {content : Option Str}
    {session : PacketSession} (h : DefaultUntouched content session)
    (turn : PacketTurn) :
    InspectsLatest session turn ↔ AsksBeforeCapture session turn := by
  constructor
  · intro hinspects hasks
    cases hlatest : session.latest with
    | none => rfl
    | some latest =>
        obtain ⟨file, packets⟩ := latest
        obtain ⟨_, _, hrequest, _⟩ := hinspects file packets hlatest hasks
        obtain ⟨_, hdefault⟩ := inspectRequest_of_asks hasks
        rw [hdefault] at hrequest
        cases hrequest
        exact absurd rfl (h.latest_ne _ packets hlatest)
  · intro hearly file packets hlatest hasks
    rw [hearly hasks] at hlatest
    cases hlatest

section
variable {disk : Disk} {last : PacketSession}
  {trace : List (PacketSession × PacketTurn)}

theorem defaultUntouched_start (disk : Disk) :
    DefaultUntouched (disk defaultFile) { disk := disk } :=
  ⟨rfl, fun _ _ h => by cases h⟩

theorem defaultUntouched_of_step {content : Option Str}
    {session next : PacketSession} {turn : PacketTurn}
    (h : DefaultUntouched content session)
    (hstep : PacketStep session turn next) : DefaultUntouched content next := by
  rw [hstep]
  exact defaultUntouched_next h turn

/-- Where no such file was there before, an inspection of the latest capture
finds none. -/
theorem unreadable_of_asks (run : Run PacketStep { disk := disk } trace last)
    (hfresh : disk defaultFile = none) :
    Throughout (fun session turn => AsksForLatest (parse turn.input) →
      handlePacketInspect session.disk (parse turn.input).arguments =
        .ok (.unreadable defaultFile)) trace := by
  refine run.throughout (DefaultUntouched (disk defaultFile)) _
    (fun _ _ _ h hstep => defaultUntouched_of_step h hstep) ?_
    (defaultUntouched_start disk)
  intro session turn h hasks
  obtain ⟨packetId, hrequest⟩ := inspectRequest_of_asks hasks
  have hload : loadCapture session.disk defaultFile = none := by
    rw [loadCapture, h.kept, hfresh]
    rfl
  rw [handlePacketInspect, hrequest]
  simp [inspectFile, hload]

/-- The latest capture is inspected all along exactly the runs that never ask
for it once there is one. -/
theorem inspectsLatest_iff (run : Run PacketStep { disk := disk } trace last) :
    Throughout InspectsLatest trace ↔ Throughout AsksBeforeCapture trace := by
  have hsame := run.throughout (DefaultUntouched (disk defaultFile))
    (fun session turn =>
      InspectsLatest session turn ↔ AsksBeforeCapture session turn)
    (fun _ _ _ h hstep => defaultUntouched_of_step h hstep)
    (fun _ turn h => inspectsLatest_iff_asksBeforeCapture h turn)
    (defaultUntouched_start disk)
  exact forall₂_congr hsame

end

def PacketTurn.typed (input : String) : PacketTurn where
  input := input.toList
  surroundings :=
    { activeInterface := "eth0".toList
      backend :=
        { packetCaptureAvailable := true
          packetCaptureBackend := "Linux AF_PACKET".toList
          advice := []
          capturePackets := fun config =>
            { success := true
              interfaceName := config.interfaceName
              durationSeconds := config.durationSeconds
              filter := config.filter
              packets :=
                [{ protocol := "ARP".toList, length := 42, decoded := true }]
              totalBytes := 42 } }
      time := ⟨2025, 1, 1, 0, 0, 10⟩
      outcome := .complete }

theorem inspectsLatest_iff_aroundCapture :
    let start : PacketSession := { disk := fun _ => none }
    let captured := start.next (.typed "pkt|:capture eth0 1")
    let trace := [(start, .typed "pkt|:inspect"),
      (start, .typed "pkt|:capture eth0 1"), (captured, .typed "pkt|:inspect")]
    (Throughout InspectsLatest trace ↔ Throughout AsksBeforeCapture trace) ∧
      ¬ Throughout AsksBeforeCapture trace := by
  intro start captured trace
  have run : Run PacketStep start trace captured :=
    .tail (.tail (.tail (.refl _) rfl) rfl) rfl
  refine ⟨inspectsLatest_iff run, fun hearly => ?_⟩
  exact absurd (hearly (captured, .typed "pkt|:inspect") (by simp [trace])
    ⟨by decide, .inl (by decide)⟩) (by decide)

theorem not_inspectsLatest_afterCapture :
    let start : PacketSession := { disk := fun _ => none }
    let captured := start.next (.typed "pkt|:capture eth0 1")
    Run PacketStep start [(start, .typed "pkt|:capture eth0 1"),
        (captured, .typed "pkt|:inspect")] captured ∧
      ¬ Throughout InspectsLatest [(start, .typed "pkt|:capture eth0 1"),
        (captured, .typed "pkt|:inspect")] := by
  intro start captured
  constructor
  · show Run PacketStep start ([] ++ [(start, .typed "pkt|:capture eth0 1")] ++
      [(captured, .typed "pkt|:inspect")]) captured
    exact .tail (.tail (.refl _) rfl) rfl
  · intro hall
    have huntouched := defaultUntouched_next
      (defaultUntouched_start fun _ => none) (.typed "pkt|:capture eth0 1")
    have hearly := (inspectsLatest_iff_asksBeforeCapture huntouched _).mp
      (hall (captured, .typed "pkt|:inspect") (by simp))
    have hasks : AsksForLatest (parse "pkt|:inspect".toList) :=
      ⟨by decide, .inl (by decide)⟩
    exact absurd (hearly hasks) (by decide)

end SlipNet.Cli
