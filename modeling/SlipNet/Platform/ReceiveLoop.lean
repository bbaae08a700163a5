import SlipNet.Capture.PacketCapture

/-!
# The Linux capture

`capturePackets` opens a packet socket and receives frames until the deadline,
decoding and filtering each of them.  What `select` and `recvfrom` reply in one
pass of the loop after the other is a parameter; where the replies end, the
deadline has passed.  A failure of `select` loses the whole capture.
-/

namespace SlipNet.Capture.Linux

open SlipNet.Standard

def filterMatches (packet : CapturedPacket) (filter : Str) : Bool :=
  if filter = [] ∨ filter = "ALL".toList ∨ filter = "all".toList then true
  else
    let normalized := upper filter
    if normalized = "TCP".toList then packet.protocol = "TCP".toList
    else if normalized = "UDP".toList then packet.protocol = "UDP".toList
    else if normalized = "ICMP".toList then packet.protocol = "ICMP".toList
    else if normalized = "IP".toList then
      packet.protocol = "TCP".toList || packet.protocol = "UDP".toList ||
        packet.protocol = "ICMP".toList
    else true

/-! ## Decoder outputs -/

def protocolNames : List Str :=
  ["TCP".toList, "UDP".toList, "ICMP".toList, "IPv4".toList, "ARP".toList,
    "IPv6".toList, "OTHER".toList]

/-- What decoding leaves alone, and the protocols it can leave behind. -/
structure DecodedFrom (packet result : CapturedPacket) : Prop where
  timestamp : result.timestamp = packet.timestamp
  length : result.length = packet.length
  protocol : result.protocol = packet.protocol ∨
    result.protocol ∈ protocolNames

theorem DecodedFrom.named {packet result : CapturedPacket} (name : Str)
    (hname : name ∈ protocolNames) (hprotocol : result.protocol = name)
    (htimestamp : result.timestamp = packet.timestamp)
    (hlength : result.length = packet.length) : DecodedFrom packet result :=
  ⟨htimestamp, hlength, .inr (hprotocol ▸ hname)⟩

theorem exists_decodeTransport {data : Bytes} {ip : IPv4Header}
    (packet : CapturedPacket) :
    ∃ result, decodeTransport data ip packet = some result ∧
      DecodedFrom packet result := by
  unfold decodeTransport
  split_ifs with htcp hroom hudp hroom hicmp
  · have hread : TCP_HEADER_SIZE ≤ (data.drop ip.headerLength).length := by
      rw [List.length_drop]
      omega
    obtain ⟨tcp, htcp⟩ := exists_tcpHeader hread
    rw [htcp]
    exact ⟨_, rfl, .named "TCP".toList (by decide) rfl rfl rfl⟩
  · exact ⟨_, rfl, .named "TCP".toList (by decide) rfl rfl rfl⟩
  · have hread : UDP_HEADER_SIZE ≤ (data.drop ip.headerLength).length := by
      rw [List.length_drop]
      omega
    obtain ⟨udp, hudp⟩ := exists_udpHeader hread
    rw [hudp]
    exact ⟨_, rfl, .named "UDP".toList (by decide) rfl rfl rfl⟩
  · exact ⟨_, rfl, .named "UDP".toList (by decide) rfl rfl rfl⟩
  · exact ⟨_, rfl, .named "ICMP".toList (by decide) rfl rfl rfl⟩
  · exact ⟨_, rfl, .named "IPv4".toList (by decide) rfl rfl rfl⟩

theorem exists_decodeIPv4 (data : Bytes) (packet : CapturedPacket) :
    ∃ result, decodeIPv4 data packet = some result ∧
      DecodedFrom packet result := by
  unfold decodeIPv4
  split_ifs with hshort
  · exact ⟨packet, rfl, rfl, rfl, .inl rfl⟩
  · obtain ⟨ip, hip⟩ := exists_ipv4Header (Nat.le_of_not_lt hshort)
    rw [hip]
    dsimp only [Option.bind_eq_bind, Option.bind_some]
    split_ifs with hheader
    · exact ⟨packet, rfl, rfl, rfl, .inl rfl⟩
    · obtain ⟨result, hresult, hdecoded⟩ :=
        exists_decodeTransport (packet.withAddresses ip)
      exact ⟨result, hresult, hdecoded.timestamp, hdecoded.length,
        hdecoded.protocol⟩

theorem exists_decodeFrame (buffer : Bytes) (packet : CapturedPacket) :
    ∃ result, decodeFrame buffer packet = some result ∧
      DecodedFrom packet result := by
  unfold decodeFrame
  split_ifs with hlong
  · obtain ⟨protocol, hprotocol⟩ : ∃ value, wordAt buffer 12 = some value :=
      exists_wordAt hlong
    rw [hprotocol]
    dsimp only [Option.bind_eq_bind, Option.bind_some]
    split_ifs
    · exact exists_decodeIPv4 _ packet
    · exact ⟨_, rfl, .named "ARP".toList (by decide) rfl rfl rfl⟩
    · exact ⟨_, rfl, .named "IPv6".toList (by decide) rfl rfl rfl⟩
    · exact ⟨_, rfl, .named "OTHER".toList (by decide) rfl rfl rfl⟩
  · exact ⟨packet, rfl, rfl, rfl, .inl rfl⟩

/-- A frame that `recvfrom` stored in the buffer, with the time of its
arrival. -/
structure Frame where
  timestamp : Str
  bytes : Bytes
  ne_nil : bytes ≠ []
  fits : bytes.length ≤ 65536

def Frame.received (frame : Frame) : CapturedPacket :=
  { timestamp := frame.timestamp, length := .ofNat frame.bytes.length }

theorem isSome_decodeFrame (frame : Frame) :
    (decodeFrame frame.bytes frame.received).isSome = true := by
  obtain ⟨_, hresult, _⟩ := exists_decodeFrame frame.bytes frame.received
  rw [hresult]
  rfl

def Frame.decode (frame : Frame) : CapturedPacket :=
  (decodeFrame frame.bytes frame.received).get (isSome_decodeFrame frame)

theorem decodedFrom_decode (frame : Frame) :
    DecodedFrom frame.received frame.decode := by
  obtain ⟨result, hresult, hdecoded⟩ :=
    exists_decodeFrame frame.bytes frame.received
  have hdecode : frame.decode = result := by
    unfold Frame.decode
    simp only [hresult, Option.get_some]
  rwa [hdecode]

/-! ## The loop -/

/-- What one pass of the loop meets. -/
inductive Reply
  /-- `select` is interrupted (`EINTR`). -/
  | interrupted
  /-- `select` fails with another error. -/
  | failed (error : Str)
  /-- `select` runs out of time. -/
  | timedOut
  /-- `recvfrom` returns zero or an error. -/
  | nothing
  | frame (frame : Frame)

def receive (config : PacketCaptureConfig) (result : PacketCaptureResult) :
    List Reply → PacketCaptureResult
  | [] => { result with success := true }
  | .interrupted :: replies => receive config result replies
  | .failed error :: _ =>
      { result with
        error := "Packet capture select() failed: ".toList ++ error }
  | .timedOut :: _ => { result with success := true }
  | .nothing :: replies => receive config result replies
  | .frame frame :: replies =>
      let packet := frame.decode
      let counted :=
        { result with totalBytes := result.totalBytes + frame.received.length }
      if !filterMatches packet config.filter then
        receive config counted replies
      else if counted.packets.length ≥ config.maxPackets.toNat then
        { counted with success := true }
      else
        receive config
          { counted with packets := counted.packets ++ [packet] } replies

/-- What the system calls around the loop return; an error is its text. -/
structure CaptureMachine where
  geteuid : Nat
  if_nametoindex : Str → Nat
  socketError : Option Str
  bindError : Option Str
  replies : List Reply

def capturePackets (machine : CaptureMachine) (config : PacketCaptureConfig) :
    PacketCaptureResult :=
  let result : PacketCaptureResult :=
    { interfaceName := config.interfaceName
      durationSeconds := config.durationSeconds
      filter := config.filter }
  if config.interfaceName = [] then
    { result with error := "Capture interface is empty.".toList }
  else if config.durationSeconds ≤ 0 then
    { result with
      error := "Capture duration must be greater than zero.".toList }
  else if machine.geteuid ≠ 0 then
    { result with
      error := "Linux packet capture requires root privileges.".toList }
  else if machine.if_nametoindex (cStr config.interfaceName) = 0 then
    { result with
      error := "Network interface not found: ".toList ++ config.interfaceName }
  else
    match machine.socketError, machine.bindError with
    | some error, _ =>
        { result with
          error := "Unable to create AF_PACKET socket: ".toList ++ error }
    | none, some error =>
        { result with
          error := "Unable to bind packet capture socket: ".toList ++ error }
    | none, none => receive config result machine.replies

def backend (machine : CaptureMachine) : CaptureBackend where
  packetCaptureAvailable := machine.geteuid = 0
  packetCaptureBackend := "Linux AF_PACKET".toList
  advice := "[*] Run SlipNet with sufficient privileges.\n".toList
  capturePackets := capturePackets machine

/-- The frames in the replies until the capture ends. -/
def framesOf : List Reply → List Frame
  | [] => []
  | .interrupted :: replies => framesOf replies
  | .failed _ :: _ => []
  | .timedOut :: _ => []
  | .nothing :: replies => framesOf replies
  | .frame frame :: replies => frame :: framesOf replies

/-- The loop keeps what the filter admits, up to the bound. -/
theorem receive_spec {config : PacketCaptureConfig} {replies : List Reply}
    (hselect : ∀ error, .failed error ∉ replies)
    (result : PacketCaptureResult) :
    (receive config result replies).success = true ∧
      (receive config result replies).packets =
        result.packets ++
          (((framesOf replies).map Frame.decode).filter
            (filterMatches · config.filter)).take
            (config.maxPackets.toNat - result.packets.length) := by
  induction replies generalizing result with
  | nil => simp [receive, framesOf]
  | cons reply replies ih =>
      have hrest : ∀ error, .failed error ∉ replies :=
        fun error hmem => hselect error (List.mem_cons_of_mem reply hmem)
      cases reply with
      | interrupted => exact ih hrest result
      | failed error => exact absurd (by simp) (hselect error)
      | timedOut => simp [receive, framesOf]
      | nothing => exact ih hrest result
      | frame frame =>
          rw [receive, framesOf, List.map_cons]
          by_cases hadmitted : filterMatches frame.decode config.filter = true
          · rw [List.filter_cons_of_pos (by simpa using hadmitted)]
            simp only [hadmitted, Bool.not_true, Bool.false_eq_true, if_false]
            split_ifs with hfull
            · have hroom : config.maxPackets.toNat - result.packets.length =
                  0 := by omega
              simp [hroom]
            · obtain ⟨hsuccess, hpackets⟩ := ih hrest
                { result with
                  totalBytes := result.totalBytes + frame.received.length
                  packets := result.packets ++ [frame.decode] }
              have hroom : config.maxPackets.toNat - result.packets.length =
                  config.maxPackets.toNat - (result.packets.length + 1) + 1 :=
                by omega
              refine ⟨hsuccess, ?_⟩
              rw [hpackets, hroom, List.take_succ_cons]
              simp
          · rw [List.filter_cons_of_neg (by simpa using hadmitted)]
            simp only [hadmitted, Bool.not_false, if_true]
            exact ih hrest _

/-! ## The two filters -/

def Admits (filter : Str) (packet : CapturedPacket) : Prop :=
  upper filter = "ALL".toList ∨ packet.protocol = upper filter

instance (filter : Str) : DecidablePred (Admits filter) := fun _ =>
  inferInstanceAs (Decidable (_ ∨ _))

theorem filterMatches_iff {filter : Str}
    (hfilter : upper filter ∈ supportedFilters) (packet : CapturedPacket) :
    filterMatches packet filter = true ↔ Admits filter packet := by
  have hall (h : upper filter ≠ "ALL".toList) :
      ¬ (filter = [] ∨ filter = "ALL".toList ∨ filter = "all".toList) := by
    rintro (rfl | rfl | rfl)
    · exact absurd hfilter (by decide)
    · exact h (by decide)
    · exact h (by decide)
  unfold filterMatches Admits
  simp only [supportedFilters, List.mem_cons, List.not_mem_nil,
    or_false] at hfilter
  rcases hfilter with h | h | h | h
  · simp [h]
  · rw [if_neg (hall (by rw [h]; decide))]
    simp [h]
  · rw [if_neg (hall (by rw [h]; decide))]
    simp [h]
  · rw [if_neg (hall (by rw [h]; decide))]
    simp [h]

/-- Among the decoder's protocols the case of the letters does not matter. -/
theorem upper_protocol_iff {protocol name : Str}
    (hprotocol : protocol = [] ∨ protocol ∈ protocolNames)
    (hname : name ∈ supportedFilters) :
    upper protocol = name ↔ protocol = name := by
  have hcases : ∀ protocol ∈ [] :: protocolNames, ∀ name ∈ supportedFilters,
      upper protocol = name ↔ protocol = name := by decide
  exact hcases protocol (List.mem_cons.mpr hprotocol) name hname

theorem matchesFilter_iff {filter : Str}
    (hfilter : upper filter ∈ supportedFilters) (frame : Frame) (id : UInt64) :
    matchesFilter (frame.decode.toPacket id) filter = true ↔
      Admits filter frame.decode := by
  have hprotocol := upper_protocol_iff (decodedFrom_decode frame).protocol
    hfilter
  have hname : (frame.decode.toPacket id).protocol = frame.decode.protocol :=
    rfl
  unfold matchesFilter Admits
  by_cases hall : upper filter = "ALL".toList
  · simp [hall]
  · have hnamed : upper filter = "TCP".toList ∨ upper filter = "UDP".toList ∨
        upper filter = "ICMP".toList := by
      have hcases := hfilter
      simp only [supportedFilters, List.mem_cons, List.not_mem_nil,
        or_false] at hcases
      exact hcases.resolve_left hall
    have hne : ¬ (upper filter = [] ∨ upper filter = "ALL".toList) := by
      rintro (h | h)
      · exact absurd (h ▸ hfilter) (by decide)
      · exact hall h
    rw [if_neg hne, if_pos hnamed, decide_eq_true_iff, hname, hprotocol,
      or_iff_right hall]

/-! ## The whole capture -/

structure Copies (captured : CapturedPacket) (packet : Packet) : Prop where
  timestamp : packet.timestamp = captured.timestamp
  source : packet.source = captured.source
  destination : packet.destination = captured.destination
  protocol : packet.protocol = captured.protocol
  sourcePort : packet.sourcePort = captured.sourcePort
  destinationPort : packet.destinationPort = captured.destinationPort
  ttl : packet.ttl = captured.ttl
  length : packet.length.toInt = captured.length.toNat
  decoded : packet.decoded = captured.decoded

theorem copies_toPacket (frame : Frame) (id : UInt64) :
    Copies frame.decode (frame.decode.toPacket id) := by
  have hlength : frame.decode.length.toNat ≤ 65536 := by
    have hfits := frame.fits
    rw [(decodedFrom_decode frame).length, Frame.received, UInt64.toNat_ofNat']
    omega
  refine ⟨rfl, rfl, rfl, rfl, rfl, rfl, rfl, ?_, rfl⟩
  have hsize : Int32.size = 4294967296 := rfl
  rw [CapturedPacket.toPacket, Int32.toInt_ofInt, hsize]
  exact Int.bmod_eq_of_le (by omega) (by omega)

/-- The second filter drops none of the packets the first one kept. -/
theorem copies_copyPackets {filter : Str}
    (hfilter : upper filter ∈ supportedFilters) {frames : List Frame}
    (hadmitted : ∀ frame ∈ frames, Admits filter frame.decode) (id : UInt64) :
    List.Forall₂ Copies (frames.map Frame.decode)
      (copyPackets filter id (frames.map Frame.decode)) := by
  induction frames generalizing id with
  | nil => exact .nil
  | cons frame frames ih =>
      have hmatches := (matchesFilter_iff hfilter frame id).mpr
        (hadmitted frame (by simp))
      rw [List.map_cons, copyPackets]
      simp only [hmatches, if_true]
      exact .cons (copies_toPacket frame id)
        (ih (fun other hmem => hadmitted other (by simp [hmem])) _)

def Opens (machine : CaptureMachine) (config : PacketCaptureConfig) : Prop :=
  config.interfaceName ≠ [] ∧ 0 < config.durationSeconds ∧
    machine.geteuid = 0 ∧
    machine.if_nametoindex (cStr config.interfaceName) ≠ 0 ∧
    machine.socketError = none ∧ machine.bindError = none

def started (config : PacketCaptureConfig) : PacketCaptureResult :=
  { interfaceName := config.interfaceName
    durationSeconds := config.durationSeconds
    filter := config.filter }

theorem capturePackets_of_opens {machine : CaptureMachine}
    {config : PacketCaptureConfig} (h : Opens machine config) :
    capturePackets machine config =
      receive config (started config) machine.replies := by
  obtain ⟨hname, hduration, hroot, hindex, hsocket, hbind⟩ := h
  rw [capturePackets, if_neg hname, if_neg (Int32.not_le.mpr hduration),
    if_neg (not_not.mpr hroot), if_neg hindex, hsocket, hbind, started]

theorem success_of_not_opens {machine : CaptureMachine}
    {config : PacketCaptureConfig} (h : ¬ Opens machine config) :
    (capturePackets machine config).success = false := by
  unfold capturePackets
  dsimp only
  by_cases hname : config.interfaceName = []
  · rw [if_pos hname]
  by_cases hduration : config.durationSeconds ≤ 0
  · rw [if_neg hname, if_pos hduration]
  by_cases hroot : machine.geteuid ≠ 0
  · rw [if_neg hname, if_neg hduration, if_pos hroot]
  by_cases hindex : machine.if_nametoindex (cStr config.interfaceName) = 0
  · rw [if_neg hname, if_neg hduration, if_neg hroot, if_pos hindex]
  rw [if_neg hname, if_neg hduration, if_neg hroot, if_neg hindex]
  cases hsocket : machine.socketError with
  | some error => rfl
  | none =>
      cases hbind : machine.bindError with
      | some error => rfl
      | none =>
          exact absurd ⟨hname, Int32.not_le.mp hduration, not_not.mp hroot,
            hindex, hsocket, hbind⟩ h

def receivedFrames (machine : CaptureMachine) (interfaceName : Str)
    (durationSeconds : Int32) : List Frame :=
  if interfaceName ≠ [] ∧ 0 < durationSeconds ∧ durationSeconds ≤ 86400 ∧
      machine.geteuid = 0 ∧
      machine.if_nametoindex (cStr interfaceName) ≠ 0 ∧
      machine.socketError = none ∧ machine.bindError = none then
    framesOf machine.replies
  else []

theorem packets_capturePackets {machine : CaptureMachine}
    (hselect : ∀ error, .failed error ∉ machine.replies)
    {config : PacketCaptureConfig} (hshort : config.durationSeconds ≤ 86400) :
    (if (capturePackets machine config).success then
        (capturePackets machine config).packets else []) =
      (((receivedFrames machine config.interfaceName
          config.durationSeconds).map Frame.decode).filter
        (filterMatches · config.filter)).take config.maxPackets.toNat := by
  by_cases hopens : Opens machine config
  · have hframes : receivedFrames machine config.interfaceName
        config.durationSeconds = framesOf machine.replies := by
      obtain ⟨hname, hduration, hrest⟩ := hopens
      exact if_pos ⟨hname, hduration, hshort, hrest⟩
    obtain ⟨hsuccess, hpackets⟩ :=
      @receive_spec config machine.replies hselect (started config)
    rw [capturePackets_of_opens hopens, hsuccess, if_pos rfl, hpackets, hframes]
    simp [started]
  · have hnone : receivedFrames machine config.interfaceName
        config.durationSeconds = [] :=
      if_neg fun h => hopens ⟨h.1, h.2.1, h.2.2.2⟩
    rw [success_of_not_opens hopens, hnone, if_neg Bool.false_ne_true]
    simp

theorem packets_finishCapture (time : LocalTime) (outcome : WriteOutcome)
    (disk : Disk) (config : PacketCaptureConfig)
    (result : PacketCaptureResult) :
    (finishCapture time outcome disk config result).packets =
      copyPackets config.filter 1
        (if result.success then result.packets else []) := by
  unfold finishCapture
  cases result.success <;> rfl

theorem packets_capture {filter : Str}
    (hfilter : upper filter ∈ supportedFilters) {machine : CaptureMachine}
    (hselect : ∀ error, .failed error ∉ machine.replies) (time : LocalTime)
    (outcome : WriteOutcome) (disk : Disk) (interfaceName : Str)
    (durationSeconds : Int32) :
    (capture (backend machine) time outcome disk interfaceName
      durationSeconds filter).packets =
      copyPackets (upper filter) 1
        ((((receivedFrames machine interfaceName durationSeconds).map
          Frame.decode).filter
            (filterMatches · (upper filter))).take 10000) := by
  unfold capture captureRequest
  dsimp only
  by_cases hname : interfaceName = []
  · simp [hname, receivedFrames, copyPackets]
  · by_cases hduration : durationSeconds ≤ 0 ∨ durationSeconds > 86400
    · have hrange : ¬ (0 < durationSeconds ∧ durationSeconds ≤ 86400) := by
        rintro ⟨hpos, hshort⟩
        rcases hduration with h | h
        · exact absurd hpos (Int32.not_lt.mpr h)
        · exact absurd hshort (Int32.not_le.mpr h)
      have hnone : receivedFrames machine interfaceName durationSeconds = [] :=
        if_neg fun h => hrange ⟨h.2.1, h.2.2.1⟩
      rw [if_neg hname, if_pos hduration, hnone]
      rfl
    · rw [if_neg hname, if_neg hduration, if_neg (not_not.mpr hfilter)]
      by_cases hroot : machine.geteuid = 0
      · have hshort : durationSeconds ≤ 86400 :=
          Int32.not_lt.mp fun h => hduration (.inr h)
        have hbackend := @packets_capturePackets machine hselect
          { interfaceName := interfaceName
            durationSeconds := durationSeconds
            filter := upper filter
            maxPackets := 10000 } hshort
        rw [if_neg (by simp [backend, hroot])]
        dsimp only
        rw [packets_finishCapture]
        exact congrArg (copyPackets (upper filter) 1) hbackend
      · have hnone : receivedFrames machine interfaceName durationSeconds =
            [] := if_neg fun h => hroot h.2.2.2.1
        rw [if_pos (by simp [backend, hroot]), hnone]
        rfl

/-- As long as `select` does not fail, a capture returns the first frames the
filter admits, as they were decoded. -/
theorem capture_copies_admitted {filter : Str}
    (hfilter : upper filter ∈ supportedFilters) {machine : CaptureMachine}
    (hselect : ∀ error, .failed error ∉ machine.replies) (time : LocalTime)
    (outcome : WriteOutcome) (disk : Disk) (interfaceName : Str)
    (durationSeconds : Int32) :
    (∀ (frame : Frame) (id : UInt64), filterMatches frame.decode filter =
      matchesFilter (frame.decode.toPacket id) filter) ∧
    List.Forall₂ Copies
      ((((receivedFrames machine interfaceName durationSeconds).map
        Frame.decode).filter (Admits filter ·)).take 10000)
      (capture (backend machine) time outcome disk interfaceName
        durationSeconds filter).packets := by
  have hnames : ∀ name ∈ supportedFilters, upper name = name := by decide
  have hupper : upper (upper filter) = upper filter := hnames _ hfilter
  have hadmits (packet : CapturedPacket) :
      filterMatches packet (upper filter) = decide (Admits filter packet) := by
    rw [Bool.eq_iff_iff, filterMatches_iff (by rwa [hupper]), Admits, hupper,
      decide_eq_true_iff, Admits]
  constructor
  · intro frame id
    rw [Bool.eq_iff_iff, filterMatches_iff hfilter,
      matchesFilter_iff hfilter frame id]
  · rw [packets_capture hfilter hselect]
    simp only [hadmits, List.filter_map, ← List.map_take]
    refine copies_copyPackets (by rwa [hupper]) ?_ 1
    intro frame hmem
    have hadmitted : Admits filter frame.decode := of_decide_eq_true
      (List.mem_filter.mp (List.mem_of_mem_take hmem)).2
    rwa [Admits, hupper]

def arpFrame : Frame where
  timestamp := "2025-01-01 00:00:00.000".toList
  bytes := List.replicate 12 0xFF ++ [0x08, 0x06]
  ne_nil := by decide
  fits := by decide

def udpFrame : Frame where
  timestamp := "2025-01-01 00:00:00.001".toList
  bytes := List.replicate 12 0xFF ++
    [0x08, 0x00, 0x45, 0, 0, 20, 0, 0, 0, 0, 64, 17, 0, 0, 10, 0, 0, 1, 10, 0,
      0, 2]
  ne_nil := by decide
  fits := by decide

def ready (replies : List Reply) : CaptureMachine where
  geteuid := 0
  if_nametoindex := fun _ => 2
  socketError := none
  bindError := none
  replies := replies

theorem capture_copies_admitted_udp :
    (∀ (frame : Frame) (id : UInt64), filterMatches frame.decode "Udp".toList =
      matchesFilter (frame.decode.toPacket id) "Udp".toList) ∧
    List.Forall₂ Copies
      ((((receivedFrames
        (ready [.frame arpFrame, .interrupted, .frame udpFrame])
        "eth0".toList 10).map Frame.decode).filter
          (Admits "Udp".toList ·)).take 10000)
      (capture (backend
        (ready [.frame arpFrame, .interrupted, .frame udpFrame]))
        ⟨2025, 1, 1, 0, 0, 10⟩ .complete (fun _ => none) "eth0".toList 10
        "Udp".toList).packets :=
  capture_copies_admitted (by decide) (by simp [ready]) _ _ _ _ _

/-- `select` fails after a frame has been received. -/
theorem not_capture_copies_admitted_failed :
    ¬ List.Forall₂ Copies
      ((((receivedFrames
        (ready [.frame arpFrame, .failed "Cannot allocate memory".toList])
        "eth0".toList 10).map Frame.decode).filter
          (Admits "ALL".toList ·)).take 10000)
      (capture (backend
        (ready [.frame arpFrame, .failed "Cannot allocate memory".toList]))
        ⟨2025, 1, 1, 0, 0, 10⟩ .complete (fun _ => none) "eth0".toList 10
        "ALL".toList).packets := by
  intro hcopies
  exact absurd hcopies.length_eq (by decide)

end SlipNet.Capture.Linux
