import SlipNet.Platform.ReceiveLoop

/-!
# Encoded frames

An IPv4 packet in an Ethernet II frame, written out byte by byte: the options
decide where the transport header starts, and padding may follow the packet.
The Linux decoder recovers the fields of every unfragmented TCP, UDP or ICMP
packet that is encoded this way.
-/

namespace SlipNet.Capture

open SlipNet.Standard
open SlipNet.Network

/-! ## Encoding -/

def wordBytes (word : UInt16) : Bytes :=
  [.ofNat (word.toNat / 256), .ofNat (word.toNat % 256)]

def addressBytes (address : UInt32) : Bytes :=
  (octets address).map .ofNat

/-- What an IPv4 packet carries.  `rest` is the transport header behind the
ports, and what follows it. -/
inductive Transport
  | tcp (sourcePort destinationPort : UInt16) (rest : Bytes)
      (header : 16 ≤ rest.length)
  | udp (sourcePort destinationPort : UInt16) (rest : Bytes)
      (header : 4 ≤ rest.length)
  | icmp (message : Bytes)

namespace Transport

def bytes : Transport → Bytes
  | tcp sourcePort destinationPort rest _ =>
      wordBytes sourcePort ++ wordBytes destinationPort ++ rest
  | udp sourcePort destinationPort rest _ =>
      wordBytes sourcePort ++ wordBytes destinationPort ++ rest
  | icmp message => message

def number : Transport → UInt8
  | tcp .. => IPPROTO_TCP
  | udp .. => IPPROTO_UDP
  | icmp .. => IPPROTO_ICMP

def name : Transport → Str
  | tcp .. => "TCP".toList
  | udp .. => "UDP".toList
  | icmp .. => "ICMP".toList

def sourcePort : Transport → UInt16
  | tcp port _ _ _ => port
  | udp port _ _ _ => port
  | icmp _ => 0

def destinationPort : Transport → UInt16
  | tcp _ port _ _ => port
  | udp _ port _ _ => port
  | icmp _ => 0

end Transport

/-- An unfragmented IPv4 packet in an Ethernet II frame.  The options fill up to
ten words, and `padding` is what the frame holds behind the packet. -/
structure IPv4Frame where
  addresses : Bytes
  serviceType : UInt8
  identification : UInt16
  dontFragment : Bool
  ttl : UInt8
  checksum : UInt16
  source : UInt32
  destination : UInt32
  optionWords : Nat
  options : Bytes
  transport : Transport
  padding : Bytes
  addresses_length : addresses.length = 12
  optionWords_le : optionWords ≤ 10
  options_length : options.length = 4 * optionWords
  fits : 20 + options.length + transport.bytes.length < 65536

namespace IPv4Frame

def totalLength (frame : IPv4Frame) : UInt16 :=
  .ofNat (20 + frame.options.length + frame.transport.bytes.length)

def header (frame : IPv4Frame) : Bytes :=
  [.ofNat (0x40 + (5 + frame.optionWords)), frame.serviceType] ++
    wordBytes frame.totalLength ++ wordBytes frame.identification ++
    [if frame.dontFragment then 0x40 else 0, 0, frame.ttl,
      frame.transport.number] ++
    wordBytes frame.checksum ++ addressBytes frame.source ++
    addressBytes frame.destination

def packet (frame : IPv4Frame) : Bytes :=
  frame.header ++
    (frame.options ++ (frame.transport.bytes ++ frame.padding))

def bytes (frame : IPv4Frame) : Bytes :=
  frame.addresses ++ (wordBytes ETH_P_IP ++ frame.packet)

end IPv4Frame

/-! ## Fields read back -/

theorem word_wordBytes (word : UInt16) :
    UInt16.ofNat ((UInt8.ofNat (word.toNat / 256)).toNat * 256 +
      (UInt8.ofNat (word.toNat % 256)).toNat) = word := by
  have hlt := word.toNat_lt
  apply UInt16.toNat_inj.mp
  rw [UInt16.toNat_ofNat', UInt8.toNat_ofNat', UInt8.toNat_ofNat']
  omega

theorem wordAt_wordBytes (word : UInt16) (rest : Bytes) :
    wordAt (wordBytes word ++ rest) 0 = some word :=
  congrArg some (word_wordBytes word)

theorem address_addressBytes (address : UInt32) :
    ofOctets (UInt8.ofNat (address.toNat / 16777216)).toNat
      (UInt8.ofNat (address.toNat / 65536 % 256)).toNat
      (UInt8.ofNat (address.toNat / 256 % 256)).toNat
      (UInt8.ofNat (address.toNat % 256)).toNat = address := by
  have hlt := address.toNat_lt
  refine Eq.trans ?_ (ofOctets_octets address)
  simp only [UInt8.toNat_ofNat']
  congr 1 <;> omega

def IPv4Frame.readHeader (frame : IPv4Frame) : IPv4Header where
  versionIhl := .ofNat (0x40 + (5 + frame.optionWords))
  ttl := frame.ttl
  protocol := frame.transport.number
  source := frame.source
  destination := frame.destination

theorem ipv4Header_packet (frame : IPv4Frame) :
    ipv4Header frame.packet = some frame.readHeader := by
  have hread : ipv4Header frame.packet = some
      ⟨.ofNat (0x40 + (5 + frame.optionWords)), frame.ttl,
        frame.transport.number,
        ofOctets (UInt8.ofNat (frame.source.toNat / 16777216)).toNat
          (UInt8.ofNat (frame.source.toNat / 65536 % 256)).toNat
          (UInt8.ofNat (frame.source.toNat / 256 % 256)).toNat
          (UInt8.ofNat (frame.source.toNat % 256)).toNat,
        ofOctets (UInt8.ofNat (frame.destination.toNat / 16777216)).toNat
          (UInt8.ofNat (frame.destination.toNat / 65536 % 256)).toNat
          (UInt8.ofNat (frame.destination.toNat / 256 % 256)).toNat
          (UInt8.ofNat (frame.destination.toNat % 256)).toNat⟩ := rfl
  rw [hread, address_addressBytes, address_addressBytes]
  rfl

theorem headerLength_readHeader (frame : IPv4Frame) :
    frame.readHeader.headerLength = 20 + frame.options.length := by
  have hread : ∀ words ≤ 10,
      (UInt8.ofNat (0x40 + (5 + words)) &&& 0x0F).toNat * 4 =
        20 + 4 * words := by decide
  rw [frame.options_length]
  exact hread frame.optionWords frame.optionWords_le

theorem length_packet (frame : IPv4Frame) : frame.packet.length =
    20 + frame.options.length + frame.transport.bytes.length +
      frame.padding.length := by
  have hheader : frame.header.length = 20 := rfl
  simp only [IPv4Frame.packet, List.length_append, hheader]
  omega

theorem drop_packet (frame : IPv4Frame) :
    frame.packet.drop (20 + frame.options.length) =
      frame.transport.bytes ++ frame.padding := by
  have hheader : frame.header.length = 20 := rfl
  rw [IPv4Frame.packet, ← List.append_assoc]
  exact List.drop_left' (by rw [List.length_append, hheader])

theorem ports_bytes (sourcePort destinationPort : UInt16)
    (rest padding : Bytes) :
    wordAt (wordBytes sourcePort ++ wordBytes destinationPort ++ rest ++
        padding) 0 = some sourcePort ∧
      wordAt (wordBytes sourcePort ++ wordBytes destinationPort ++ rest ++
        padding) 2 = some destinationPort :=
  ⟨congrArg some (word_wordBytes sourcePort),
    congrArg some (word_wordBytes destinationPort)⟩

theorem tcpHeader_bytes (sourcePort destinationPort : UInt16) {rest : Bytes}
    (hrest : 16 ≤ rest.length) (padding : Bytes) :
    ∃ reserved, tcpHeader (wordBytes sourcePort ++ wordBytes destinationPort ++
      rest ++ padding) = some ⟨sourcePort, destinationPort, reserved⟩ := by
  have hlt : 8 < (rest ++ padding).length := by
    rw [List.length_append]
    omega
  refine ⟨(rest ++ padding)[8], ?_⟩
  obtain ⟨hsource, hdestination⟩ :=
    ports_bytes sourcePort destinationPort rest padding
  have hreserved : (wordBytes sourcePort ++ wordBytes destinationPort ++ rest ++
      padding)[12]? = some (rest ++ padding)[8] :=
    List.getElem?_eq_getElem hlt
  simp only [tcpHeader, hsource, hdestination, hreserved,
    Option.bind_eq_bind, Option.bind_some]
  rfl

theorem udpHeader_bytes (sourcePort destinationPort : UInt16)
    (rest padding : Bytes) :
    udpHeader (wordBytes sourcePort ++ wordBytes destinationPort ++ rest ++
      padding) = some ⟨sourcePort, destinationPort⟩ := by
  obtain ⟨hsource, hdestination⟩ :=
    ports_bytes sourcePort destinationPort rest padding
  simp only [udpHeader, hsource, hdestination, Option.bind_eq_bind,
    Option.bind_some]
  rfl

/-! ## The decoder -/

def IPv4Frame.decoded (frame : IPv4Frame) (timestamp : Str) (length : UInt64) :
    CapturedPacket where
  timestamp := timestamp
  source := inetNtop frame.source
  destination := inetNtop frame.destination
  protocol := frame.transport.name
  sourcePort := frame.transport.sourcePort
  destinationPort := frame.transport.destinationPort
  ttl := frame.ttl
  length := length
  decoded := true

theorem decodeTransport_packet (frame : IPv4Frame) (timestamp : Str)
    (length : UInt64) :
    Linux.decodeTransport frame.packet frame.readHeader
      ((freshPacket timestamp length).withAddresses frame.readHeader) =
      some (frame.decoded timestamp length) := by
  have hlength := length_packet frame
  have hheader := headerLength_readHeader frame
  have hdrop := drop_packet frame
  unfold Linux.decodeTransport
  rw [hheader, hdrop]
  cases htransport : frame.transport with
  | tcp sourcePort destinationPort rest hrest =>
      have hprotocol : frame.readHeader.protocol = IPPROTO_TCP := by
        rw [IPv4Frame.readHeader, htransport]
        rfl
      have hroom : 20 + frame.options.length + 20 ≤ frame.packet.length := by
        rw [hlength, htransport]
        simp only [Transport.bytes, wordBytes, List.length_append,
          List.length_cons, List.length_nil]
        omega
      obtain ⟨reserved, hread⟩ := tcpHeader_bytes sourcePort destinationPort
        hrest frame.padding
      rw [if_pos hprotocol, if_pos hroom, Transport.bytes, hread]
      simp only [IPv4Frame.decoded, htransport]
      rfl
  | udp sourcePort destinationPort rest hrest =>
      have hprotocol : frame.readHeader.protocol = IPPROTO_UDP := by
        rw [IPv4Frame.readHeader, htransport]
        rfl
      have hroom : 20 + frame.options.length + 8 ≤ frame.packet.length := by
        rw [hlength, htransport]
        simp only [Transport.bytes, wordBytes, List.length_append,
          List.length_cons, List.length_nil]
        omega
      rw [if_neg (by rw [hprotocol]; decide), if_pos hprotocol, if_pos hroom,
        Transport.bytes, udpHeader_bytes]
      simp only [IPv4Frame.decoded, htransport]
      rfl
  | icmp message =>
      have hprotocol : frame.readHeader.protocol = IPPROTO_ICMP := by
        rw [IPv4Frame.readHeader, htransport]
        rfl
      rw [if_neg (by rw [hprotocol]; decide),
        if_neg (by rw [hprotocol]; decide), if_pos hprotocol]
      simp only [IPv4Frame.decoded, htransport]
      rfl

theorem decodeIPv4_packet (frame : IPv4Frame) (timestamp : Str)
    (length : UInt64) :
    Linux.decodeIPv4 frame.packet (freshPacket timestamp length) =
      some (frame.decoded timestamp length) := by
  have hlength := length_packet frame
  have hheader := headerLength_readHeader frame
  have hlong : ¬ frame.packet.length < 20 := by omega
  rw [Linux.decodeIPv4, if_neg hlong, ipv4Header_packet,
    Option.bind_eq_bind, Option.bind_some, if_neg (by omega)]
  exact decodeTransport_packet frame timestamp length

/-- The decoder never reads behind the received bytes, and it undoes the
encoding of every unfragmented TCP, UDP or ICMP packet. -/
theorem decodeFrame_encoded :
    (∀ buffer packet, (Linux.decodeFrame buffer packet).isSome = true) ∧
    ∀ (frame : IPv4Frame) (timestamp : Str) (length : UInt64),
      Linux.decodeFrame frame.bytes (freshPacket timestamp length) = some {
        timestamp := timestamp
        source := inetNtop frame.source
        destination := inetNtop frame.destination
        protocol := frame.transport.name
        sourcePort := frame.transport.sourcePort
        destinationPort := frame.transport.destinationPort
        ttl := frame.ttl
        length := length
        decoded := true } := by
  refine ⟨fun buffer packet => ?_, fun frame timestamp length => ?_⟩
  · obtain ⟨result, hresult, _⟩ := Linux.exists_decodeFrame buffer packet
    rw [hresult]
    rfl
  · have hlong : 14 ≤ frame.bytes.length := by
      rw [IPv4Frame.bytes, List.length_append, List.length_append,
        frame.addresses_length]
      simp only [wordBytes, List.length_cons, List.length_nil]
      omega
    have htype : wordAt frame.bytes 12 = some ETH_P_IP := by
      have hread : wordAt (frame.bytes.drop 12) 0 = some ETH_P_IP := by
        rw [IPv4Frame.bytes, List.drop_left' frame.addresses_length]
        exact wordAt_wordBytes ETH_P_IP frame.packet
      simpa [wordAt] using hread
    have hdrop : frame.bytes.drop 14 = frame.packet := by
      rw [IPv4Frame.bytes, ← List.append_assoc]
      exact List.drop_left' (by
        rw [List.length_append, frame.addresses_length]
        rfl)
    rw [Linux.decodeFrame, if_pos hlong, htype, Option.bind_eq_bind,
      Option.bind_some, if_pos rfl, hdrop]
    exact decodeIPv4_packet frame timestamp length

/-- A datagram to port 53 with a word of options, padded. -/
def lookupFrame : IPv4Frame where
  addresses := List.replicate 12 0xFF
  serviceType := 0
  identification := 7
  dontFragment := true
  ttl := 64
  checksum := 0
  source := 0x0A000005
  destination := 0x0A000001
  optionWords := 1
  options := [1, 1, 1, 0]
  transport := .udp 40000 53 [0, 8, 0, 0] (by decide)
  padding := [0, 0]
  addresses_length := rfl
  optionWords_le := by decide
  options_length := rfl
  fits := by decide

example : (Linux.decodeFrame lookupFrame.bytes (freshPacket [] 48)).map
    (fun packet => (packet.protocol, packet.destinationPort, packet.ttl)) =
      some ("UDP".toList, 53, 64) := by decide

end SlipNet.Capture
