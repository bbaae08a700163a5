import SlipNet.Network.Inet

/-!
# The two frame decoders

The Linux and the Windows capture file each dispatch on the EtherType of a
frame and decode an IPv4 payload.  A header struct laid over the bytes is read
as a whole; the read is `none` when it leaves the buffer, which neither decoder
ever does.  The Windows decoder also checks the IP version and the TCP header
length; the Linux one takes both on trust.  The Boolean results of the decoders
are left out: no caller reads them.
-/

namespace SlipNet.Capture

open SlipNet.Standard
open SlipNet.Network

structure CapturedPacket where
  timestamp : Str := []
  source : Str := []
  destination : Str := []
  protocol : Str := []
  sourcePort : UInt16 := 0
  destinationPort : UInt16 := 0
  ttl : UInt8 := 0
  length : UInt64 := 0
  decoded : Bool := false
  deriving DecidableEq, Repr

/-! ## Headers over bytes -/

abbrev Bytes := List UInt8

/-- A 16-bit field in network byte order. -/
def wordAt (data : Bytes) (i : Nat) : Option UInt16 := do
  let high ← data[i]?
  let low ← data[i + 1]?
  return .ofNat (high.toNat * 256 + low.toNat)

def addressAt (data : Bytes) (i : Nat) : Option UInt32 := do
  let a ← data[i]?
  let b ← data[i + 1]?
  let c ← data[i + 2]?
  let d ← data[i + 3]?
  return ofOctets a.toNat b.toNat c.toNat d.toNat

structure IPv4Header where
  versionIhl : UInt8
  ttl : UInt8
  protocol : UInt8
  source : UInt32
  destination : UInt32
  deriving DecidableEq, Repr

def IPv4Header.version (ip : IPv4Header) : UInt8 := ip.versionIhl >>> 4

def IPv4Header.headerLength (ip : IPv4Header) : Nat :=
  (ip.versionIhl &&& 0x0F).toNat * 4

def ipv4Header (data : Bytes) : Option IPv4Header := do
  let versionIhl ← data[0]?
  let ttl ← data[8]?
  let protocol ← data[9]?
  let source ← addressAt data 12
  let destination ← addressAt data 16
  return ⟨versionIhl, ttl, protocol, source, destination⟩

structure TCPHeader where
  sourcePort : UInt16
  destinationPort : UInt16
  dataOffsetReserved : UInt8
  deriving DecidableEq, Repr

def TCPHeader.headerLength (tcp : TCPHeader) : Nat :=
  (tcp.dataOffsetReserved >>> 4).toNat * 4

def tcpHeader (data : Bytes) : Option TCPHeader := do
  let sourcePort ← wordAt data 0
  let destinationPort ← wordAt data 2
  let dataOffsetReserved ← data[12]?
  return ⟨sourcePort, destinationPort, dataOffsetReserved⟩

structure UDPHeader where
  sourcePort : UInt16
  destinationPort : UInt16
  deriving DecidableEq, Repr

def udpHeader (data : Bytes) : Option UDPHeader := do
  let sourcePort ← wordAt data 0
  let destinationPort ← wordAt data 2
  return ⟨sourcePort, destinationPort⟩

/-! ## Constants of the system headers -/

abbrev ETHERNET_HEADER_SIZE : Nat := 14
abbrev IPV4_HEADER_SIZE : Nat := 20
abbrev TCP_HEADER_SIZE : Nat := 20
abbrev UDP_HEADER_SIZE : Nat := 8

abbrev ETH_P_IP : UInt16 := 0x0800
abbrev ETH_P_ARP : UInt16 := 0x0806
abbrev ETH_P_IPV6 : UInt16 := 0x86DD

def IPPROTO_ICMP : UInt8 := 1
def IPPROTO_TCP : UInt8 := 6
def IPPROTO_UDP : UInt8 := 17

def CapturedPacket.withAddresses (packet : CapturedPacket) (ip : IPv4Header) :
    CapturedPacket :=
  { packet with
    source := inetNtop ip.source
    destination := inetNtop ip.destination
    ttl := ip.ttl }

def CapturedPacket.withPorts (packet : CapturedPacket)
    (sourcePort destinationPort : UInt16) : CapturedPacket :=
  { packet with sourcePort := sourcePort, destinationPort := destinationPort }

def CapturedPacket.decodedAs (packet : CapturedPacket) (protocol : Str) :
    CapturedPacket :=
  { packet with protocol := protocol, decoded := true }

/-! ## Linux -/

namespace Linux

/-- The `switch` of `decodeIPv4`. -/
def decodeTransport (data : Bytes) (ip : IPv4Header)
    (packet : CapturedPacket) : Option CapturedPacket :=
  if ip.protocol = IPPROTO_TCP then
    if data.length ≥ ip.headerLength + TCP_HEADER_SIZE then do
      let tcp ← tcpHeader (data.drop ip.headerLength)
      return (packet.withPorts tcp.sourcePort tcp.destinationPort).decodedAs
        "TCP".toList
    else packet.decodedAs "TCP".toList
  else if ip.protocol = IPPROTO_UDP then
    if data.length ≥ ip.headerLength + UDP_HEADER_SIZE then do
      let udp ← udpHeader (data.drop ip.headerLength)
      return (packet.withPorts udp.sourcePort udp.destinationPort).decodedAs
        "UDP".toList
    else packet.decodedAs "UDP".toList
  else if ip.protocol = IPPROTO_ICMP then packet.decodedAs "ICMP".toList
  else packet.decodedAs "IPv4".toList

def decodeIPv4 (data : Bytes) (packet : CapturedPacket) :
    Option CapturedPacket :=
  if data.length < IPV4_HEADER_SIZE then packet
  else do
    let ip ← ipv4Header data
    if ip.headerLength < 20 ∨ data.length < ip.headerLength then packet
    else decodeTransport data ip (packet.withAddresses ip)

/-- The Ethernet dispatch of `capturePackets`. -/
def decodeFrame (buffer : Bytes) (packet : CapturedPacket) :
    Option CapturedPacket :=
  if buffer.length ≥ ETHERNET_HEADER_SIZE then do
    let protocol ← wordAt buffer 12
    if protocol = ETH_P_IP then
      decodeIPv4 (buffer.drop ETHERNET_HEADER_SIZE) packet
    else if protocol = ETH_P_ARP then
      return { packet with protocol := "ARP".toList, decoded := true }
    else if protocol = ETH_P_IPV6 then
      return { packet with protocol := "IPv6".toList, decoded := false }
    else return { packet with protocol := "OTHER".toList }
  else packet

end Linux

/-! ## Windows -/

namespace Windows

def decodeTransport (transport : Bytes) (ip : IPv4Header)
    (packet : CapturedPacket) : Option CapturedPacket :=
  if ip.protocol = IPPROTO_TCP then
    if transport.length ≥ TCP_HEADER_SIZE then do
      let tcp ← tcpHeader transport
      if tcp.headerLength ≥ 20 ∧ tcp.headerLength ≤ transport.length then
        return (packet.withPorts tcp.sourcePort tcp.destinationPort).decodedAs
          "TCP".toList
      else return packet.decodedAs "TCP".toList
    else packet.decodedAs "TCP".toList
  else if ip.protocol = IPPROTO_UDP then
    if transport.length ≥ UDP_HEADER_SIZE then do
      let udp ← udpHeader transport
      return (packet.withPorts udp.sourcePort udp.destinationPort).decodedAs
        "UDP".toList
    else packet.decodedAs "UDP".toList
  else if ip.protocol = IPPROTO_ICMP then packet.decodedAs "ICMP".toList
  else packet.decodedAs "IPv4".toList

def decodeIPv4 (data : Bytes) (packet : CapturedPacket) :
    Option CapturedPacket :=
  if data.length < 20 then packet
  else do
    let ip ← ipv4Header data
    if ip.version ≠ 4 then packet
    else if ip.headerLength < 20 ∨ ip.headerLength > data.length then packet
    else
      decodeTransport (data.drop ip.headerLength) ip (packet.withAddresses ip)

def decodePacket (data : Bytes) (packet : CapturedPacket) :
    Option CapturedPacket :=
  if data.length < ETHERNET_HEADER_SIZE then packet
  else do
    let etherType ← wordAt data 12
    let payload := data.drop ETHERNET_HEADER_SIZE
    if etherType = 0x0800 then decodeIPv4 payload packet
    else if etherType = 0x0806 then
      return { packet with protocol := "ARP".toList, decoded := true }
    else if etherType = 0x86DD then
      return { packet with protocol := "IPv6".toList, decoded := false }
    else return { packet with protocol := "OTHER".toList, decoded := false }

end Windows

/-! ## Reads inside the buffer -/

theorem exists_wordAt {data : Bytes} {i : Nat} (h : i + 2 ≤ data.length) :
    ∃ value, wordAt data i = some value := by
  have hhigh : i < data.length := by omega
  have hlow : i + 1 < data.length := by omega
  simp [wordAt, hhigh, hlow]

theorem exists_addressAt {data : Bytes} {i : Nat} (h : i + 4 ≤ data.length) :
    ∃ value, addressAt data i = some value := by
  have h0 : i < data.length := by omega
  have h1 : i + 1 < data.length := by omega
  have h2 : i + 2 < data.length := by omega
  have h3 : i + 3 < data.length := by omega
  simp [addressAt, h0, h1, h2, h3]

theorem exists_ipv4Header {data : Bytes} (h : 20 ≤ data.length) :
    ∃ ip, ipv4Header data = some ip := by
  have h0 : 0 < data.length := by omega
  have h8 : 8 < data.length := by omega
  have h9 : 9 < data.length := by omega
  obtain ⟨source, hsource⟩ : ∃ value, addressAt data 12 = some value :=
    exists_addressAt (by omega)
  obtain ⟨destination, hdestination⟩ :
      ∃ value, addressAt data 16 = some value := exists_addressAt (by omega)
  simp [ipv4Header, h0, h8, h9, hsource, hdestination]

theorem exists_tcpHeader {data : Bytes} (h : 20 ≤ data.length) :
    ∃ tcp, tcpHeader data = some tcp := by
  have h12 : 12 < data.length := by omega
  obtain ⟨sourcePort, hsource⟩ : ∃ value, wordAt data 0 = some value :=
    exists_wordAt (by omega)
  obtain ⟨destinationPort, hdestination⟩ : ∃ value, wordAt data 2 = some value :=
    exists_wordAt (by omega)
  simp [tcpHeader, h12, hsource, hdestination]

theorem exists_udpHeader {data : Bytes} (h : 8 ≤ data.length) :
    ∃ udp, udpHeader data = some udp := by
  obtain ⟨sourcePort, hsource⟩ : ∃ value, wordAt data 0 = some value :=
    exists_wordAt (by omega)
  obtain ⟨destinationPort, hdestination⟩ : ∃ value, wordAt data 2 = some value :=
    exists_wordAt (by omega)
  simp [udpHeader, hsource, hdestination]

/-! ## Where the decoders differ -/

def CapturedPacket.fields (packet : CapturedPacket) :
    Str × Str × Str × UInt16 × UInt16 × UInt8 × Bool :=
  (packet.protocol, packet.source, packet.destination, packet.sourcePort,
    packet.destinationPort, packet.ttl, packet.decoded)

/-- A TCP segment with ports, whose header length is below 20 or beyond the
end of the payload. -/
def TcpDiverges (data : Bytes) (ip : IPv4Header) : Prop :=
  ip.protocol = IPPROTO_TCP ∧ ip.headerLength + 20 ≤ data.length ∧
    ∃ tcp, tcpHeader (data.drop ip.headerLength) = some tcp ∧
      ¬ (20 ≤ tcp.headerLength ∧
        tcp.headerLength ≤ data.length - ip.headerLength) ∧
      (tcp.sourcePort ≠ 0 ∨ tcp.destinationPort ≠ 0)

/-- A whole IPv4 header that is not of version 4, or such a TCP segment. -/
def IPv4Diverges (data : Bytes) : Prop :=
  20 ≤ data.length ∧ ∃ ip, ipv4Header data = some ip ∧
    20 ≤ ip.headerLength ∧ ip.headerLength ≤ data.length ∧
    (ip.version ≠ 4 ∨ TcpDiverges data ip)

def FrameDiverges (frame : Bytes) : Prop :=
  14 ≤ frame.length ∧ wordAt frame 12 = some ETH_P_IP ∧
    IPv4Diverges (frame.drop 14)

/-- Both decoders stay inside the buffer, and fill the same fields exactly if
`diverges` does not hold. -/
def AgreeUnless (diverges : Prop) (linux windows : Option CapturedPacket) :
    Prop :=
  ∃ a b, linux = some a ∧ windows = some b ∧ (a.fields = b.fields ↔ ¬ diverges)

theorem AgreeUnless.same {diverges : Prop} (packet : CapturedPacket)
    (h : ¬ diverges) : AgreeUnless diverges (some packet) (some packet) :=
  ⟨packet, packet, rfl, rfl, by simp [h]⟩

theorem AgreeUnless.differ {diverges : Prop} {a b : CapturedPacket}
    (h : diverges) (hfields : a.fields ≠ b.fields) :
    AgreeUnless diverges (some a) (some b) :=
  ⟨a, b, rfl, rfl, by simp [h, hfields]⟩

/-- What only the IPv4 branches can fill is still empty. -/
def CapturedPacket.Fresh (packet : CapturedPacket) : Prop :=
  packet.sourcePort = 0 ∧ packet.destinationPort = 0 ∧ packet.decoded = false

theorem CapturedPacket.Fresh.withPorts_zero {packet : CapturedPacket}
    (h : packet.Fresh) : packet.withPorts 0 0 = packet := by
  obtain ⟨hsource, hdestination, _⟩ := h
  cases packet
  cases hsource
  cases hdestination
  rfl

theorem decodeTcp_agree {data : Bytes} {ip : IPv4Header} {tcp : TCPHeader}
    {packet : CapturedPacket} (hfresh : packet.Fresh)
    (htcp : ip.protocol = IPPROTO_TCP)
    (hroom : ip.headerLength + 20 ≤ data.length)
    (hread : tcpHeader (data.drop ip.headerLength) = some tcp) :
    AgreeUnless (TcpDiverges data ip) (Linux.decodeTransport data ip packet)
      (Windows.decodeTransport (data.drop ip.headerLength) ip packet) := by
  have hlength : (data.drop ip.headerLength).length =
      data.length - ip.headerLength := List.length_drop
  have hlinux : Linux.decodeTransport data ip packet =
      some ((packet.withPorts tcp.sourcePort tcp.destinationPort).decodedAs
        "TCP".toList) := by
    rw [Linux.decodeTransport, if_pos htcp, if_pos hroom, hread]
    rfl
  have hwindows :
      Windows.decodeTransport (data.drop ip.headerLength) ip packet =
      if tcp.headerLength ≥ 20 ∧
          tcp.headerLength ≤ data.length - ip.headerLength then
        some ((packet.withPorts tcp.sourcePort tcp.destinationPort).decodedAs
          "TCP".toList)
      else some (packet.decodedAs "TCP".toList) := by
    rw [Windows.decodeTransport, if_pos htcp,
      if_pos (show 20 ≤ (data.drop ip.headerLength).length by omega), hread,
      ← hlength]
    rfl
  rw [hlinux, hwindows]
  have hunique : ∀ other, tcpHeader (data.drop ip.headerLength) = some other →
      other = tcp := fun other hother => by
    rw [hread] at hother
    exact (Option.some.inj hother).symm
  split
  · next hoffset =>
      refine .same _ fun ⟨_, _, other, hother, hbad, _⟩ => hbad ?_
      rw [hunique other hother]
      exact hoffset
  · next hoffset =>
      by_cases hports : tcp.sourcePort ≠ 0 ∨ tcp.destinationPort ≠ 0
      · refine .differ ⟨htcp, hroom, tcp, hread, hoffset, hports⟩ fun hfields => ?_
        simp only [CapturedPacket.fields, CapturedPacket.decodedAs,
          CapturedPacket.withPorts, Prod.mk.injEq] at hfields
        rw [hfresh.1, hfresh.2.1] at hfields
        exact hports.elim (fun h => h hfields.2.2.2.1)
          (fun h => h hfields.2.2.2.2.1)
      · rw [not_or, not_not, not_not] at hports
        rw [hports.1, hports.2, hfresh.withPorts_zero]
        refine .same _ fun ⟨_, _, other, hother, _, hbad⟩ => ?_
        rw [hunique other hother, hports.1, hports.2] at hbad
        simp at hbad

theorem decodeTransport_agree {data : Bytes} {ip : IPv4Header}
    {packet : CapturedPacket} (hfresh : packet.Fresh)
    (hheader : ip.headerLength ≤ data.length) :
    AgreeUnless (TcpDiverges data ip) (Linux.decodeTransport data ip packet)
      (Windows.decodeTransport (data.drop ip.headerLength) ip packet) := by
  have hlength : (data.drop ip.headerLength).length =
      data.length - ip.headerLength := List.length_drop
  by_cases htcp : ip.protocol = IPPROTO_TCP
  · by_cases hroom : ip.headerLength + 20 ≤ data.length
    · obtain ⟨tcp, hread⟩ : ∃ tcp,
          tcpHeader (data.drop ip.headerLength) = some tcp :=
        exists_tcpHeader (by omega)
      exact decodeTcp_agree hfresh htcp hroom hread
    · rw [Linux.decodeTransport, Windows.decodeTransport, if_pos htcp,
        if_pos htcp, if_neg hroom,
        if_neg (show ¬ 20 ≤ (data.drop ip.headerLength).length by omega)]
      exact .same _ fun h => hroom h.2.1
  · have hnot : ¬ TcpDiverges data ip := fun h => htcp h.1
    rw [Linux.decodeTransport, Windows.decodeTransport, if_neg htcp,
      if_neg htcp]
    by_cases hudp : ip.protocol = IPPROTO_UDP
    · rw [if_pos hudp, if_pos hudp]
      by_cases hroom : ip.headerLength + 8 ≤ data.length
      · obtain ⟨udp, hread⟩ : ∃ udp,
            udpHeader (data.drop ip.headerLength) = some udp :=
          exists_udpHeader (by omega)
        rw [if_pos hroom, hread,
          if_pos (show 8 ≤ (data.drop ip.headerLength).length by omega)]
        exact .same _ hnot
      · rw [if_neg hroom, if_neg (show
          ¬ 8 ≤ (data.drop ip.headerLength).length by omega)]
        exact .same _ hnot
    · rw [if_neg hudp, if_neg hudp]
      split <;> exact .same _ hnot

theorem IPv4Diverges_iff {data : Bytes} {ip : IPv4Header}
    (hlength : 20 ≤ data.length) (hread : ipv4Header data = some ip)
    (hheader : 20 ≤ ip.headerLength ∧ ip.headerLength ≤ data.length) :
    IPv4Diverges data ↔ ip.version ≠ 4 ∨ TcpDiverges data ip := by
  constructor
  · rintro ⟨_, other, hother, _, _, h⟩
    rw [hread] at hother
    obtain rfl := Option.some.inj hother
    exact h
  · exact fun h => ⟨hlength, ip, hread, hheader.1, hheader.2, h⟩

theorem decoded_decodeTransport {data : Bytes} {ip : IPv4Header}
    {packet linux : CapturedPacket}
    (h : Linux.decodeTransport data ip packet = some linux) :
    linux.decoded = true := by
  unfold Linux.decodeTransport at h
  repeat' split at h
  · obtain ⟨tcp, _, h⟩ := Option.bind_eq_some_iff.mp h
    cases h
    rfl
  · cases h
    rfl
  · obtain ⟨udp, _, h⟩ := Option.bind_eq_some_iff.mp h
    cases h
    rfl
  all_goals
    cases h
    rfl

theorem decodeIPv4_agree (data : Bytes) {packet : CapturedPacket}
    (hfresh : packet.Fresh) :
    AgreeUnless (IPv4Diverges data) (Linux.decodeIPv4 data packet)
      (Windows.decodeIPv4 data packet) := by
  rw [Linux.decodeIPv4, Windows.decodeIPv4]
  by_cases hlength : data.length < 20
  · rw [if_pos hlength, if_pos hlength]
    exact .same _ fun h => not_lt.mpr h.1 hlength
  · rw [if_neg hlength, if_neg hlength]
    rw [not_lt] at hlength
    obtain ⟨ip, hread⟩ := exists_ipv4Header hlength
    rw [hread, Option.bind_eq_bind, Option.bind_some, Option.bind_some]
    by_cases hheader : ip.headerLength < 20 ∨ data.length < ip.headerLength
    · have hnot : ¬ IPv4Diverges data := by
        rintro ⟨_, other, hother, hmin, hmax, _⟩
        rw [hread] at hother
        obtain rfl := Option.some.inj hother
        omega
      rw [if_pos hheader, if_pos hheader, ite_self]
      exact .same _ hnot
    · have hbounds : 20 ≤ ip.headerLength ∧ ip.headerLength ≤ data.length := by
        omega
      rw [if_neg hheader, if_neg hheader]
      have haddresses : (packet.withAddresses ip).Fresh := hfresh
      obtain ⟨linux, windows, hlinux, hwindows, hagree⟩ :=
        decodeTransport_agree haddresses hbounds.2
      rw [hlinux, hwindows]
      by_cases hversion : ip.version = 4
      · rw [if_neg (not_not.mpr hversion)]
        refine ⟨linux, windows, rfl, rfl, ?_⟩
        rw [hagree, IPv4Diverges_iff hlength hread hbounds]
        simp [hversion]
      · rw [if_pos hversion]
        refine .differ ⟨hlength, ip, hread, hbounds.1, hbounds.2,
          .inl hversion⟩ fun hfields => ?_
        have hdecoded := decoded_decodeTransport hlinux
        simp only [CapturedPacket.fields, Prod.mk.injEq] at hfields
        rw [hdecoded, hfresh.2.2] at hfields
        simp at hfields

def freshPacket (timestamp : Str) (length : UInt64) : CapturedPacket where
  timestamp := timestamp
  length := length

/-- On every frame both decoders stay inside the buffer, and they fill the same
fields exactly if the frame does not carry a whole IPv4 header of another
version, or a TCP segment with ports and a header length out of bounds. -/
theorem decodeFrame_agree_iff (frame : Bytes) (timestamp : Str)
    (length : UInt64) :
    ∃ linux windows,
      Linux.decodeFrame frame (freshPacket timestamp length) = some linux ∧
      Windows.decodePacket frame (freshPacket timestamp length) =
        some windows ∧
      (linux.fields = windows.fields ↔ ¬ FrameDiverges frame) := by
  change AgreeUnless _ _ _
  rw [Linux.decodeFrame, Windows.decodePacket]
  by_cases hlength : frame.length < 14
  · rw [if_neg (not_le.mpr hlength), if_pos hlength]
    exact .same _ fun h => not_lt.mpr h.1 hlength
  · rw [if_pos (not_lt.mp hlength), if_neg hlength]
    rw [not_lt] at hlength
    obtain ⟨etherType, hread⟩ : ∃ value, wordAt frame 12 = some value :=
      exists_wordAt (by omega)
    rw [hread, Option.bind_eq_bind, Option.bind_some, Option.bind_some]
    by_cases hip : etherType = ETH_P_IP
    · subst hip
      have hdiverges : FrameDiverges frame ↔ IPv4Diverges (frame.drop 14) :=
        ⟨fun h => h.2.2, fun h => ⟨hlength, hread, h⟩⟩
      rw [if_pos rfl, hdiverges]
      exact decodeIPv4_agree _ ⟨rfl, rfl, rfl⟩
    · have hnot : ¬ FrameDiverges frame := by
        rintro ⟨_, hother, _⟩
        rw [hread] at hother
        exact hip (Option.some.inj hother)
      rw [if_neg hip, if_neg hip]
      repeat' split
      all_goals exact .same _ hnot

def versionSixFrame : Bytes :=
  [0, 0, 0, 0, 0, 0, 0, 0, 0, 0, 0, 0, 0x08, 0x00,
    0x65, 0, 0, 20, 0, 0, 0, 0, 64, 1, 0, 0, 10, 0, 0, 1, 10, 0, 0, 2]

theorem decodeFrame_versionSix :
    ∃ linux windows,
      Linux.decodeFrame versionSixFrame (freshPacket [] 34) = some linux ∧
      Windows.decodePacket versionSixFrame (freshPacket [] 34) =
        some windows ∧
      linux.decoded = true ∧ windows.decoded = false ∧
      linux.fields ≠ windows.fields :=
  ⟨_, _, rfl, rfl, rfl, rfl, fun h =>
    absurd (congrArg (·.2.2.2.2.2.2) h) (by decide)⟩

end SlipNet.Capture
