import SlipNet.Platform.FrameDecoder

/-!
# Where the ports come from

Neither decoder reads the fragment offset or the total length of an IPv4
header.  Behind the header of a later fragment stands a piece of somebody's
data, and behind a short packet stands Ethernet padding; both are taken for a
transport header if there are enough bytes.
-/

namespace SlipNet.Capture

open SlipNet.Standard

/-! ## What the header says -/

def totalLength (data : Bytes) : Option Nat :=
  (wordAt data 2).map UInt16.toNat

/-- The offset is the low 13 bits of its word. -/
def fragmentOffset (data : Bytes) : Option Nat :=
  (wordAt data 6).map fun word => word.toNat % 8192

/-- The bytes behind the IP header start a transport header, and its two port
fields belong to the packet. -/
def TransportThere (data : Bytes) (ip : IPv4Header) : Prop :=
  fragmentOffset data = some 0 ∧
    ∃ total, totalLength data = some total ∧ ip.headerLength + 4 ≤ total

/-- A port that is reported is a field of a transport header that is there. -/
structure PortsReal (data : Bytes) (ip : IPv4Header)
    (result : CapturedPacket) : Prop where
  source : result.sourcePort ≠ 0 → TransportThere data ip ∧
    wordAt data ip.headerLength = some result.sourcePort
  destination : result.destinationPort ≠ 0 → TransportThere data ip ∧
    wordAt data (ip.headerLength + 2) = some result.destinationPort

def PortsZero (data : Bytes) (ip : IPv4Header) : Prop :=
  wordAt data ip.headerLength = some 0 ∧
    wordAt data (ip.headerLength + 2) = some 0

/-! ## When the decoders take ports -/

def Linux.ReadsPorts (data : Bytes) (ip : IPv4Header) : Prop :=
  20 ≤ ip.headerLength ∧
    (ip.protocol = IPPROTO_TCP ∧ ip.headerLength + 20 ≤ data.length ∨
      ip.protocol = IPPROTO_UDP ∧ ip.headerLength + 8 ≤ data.length)

def Windows.ReadsPorts (data : Bytes) (ip : IPv4Header) : Prop :=
  ip.version = 4 ∧ 20 ≤ ip.headerLength ∧
    (ip.protocol = IPPROTO_TCP ∧ ip.headerLength + 20 ≤ data.length ∧
        (∃ tcp, tcpHeader (data.drop ip.headerLength) = some tcp ∧
          20 ≤ tcp.headerLength ∧
          tcp.headerLength ≤ data.length - ip.headerLength) ∨
      ip.protocol = IPPROTO_UDP ∧ ip.headerLength + 8 ≤ data.length)

def TakesPorts (reads : Prop) (data : Bytes) (ip : IPv4Header)
    (result : CapturedPacket) : Prop :=
  reads ∧ wordAt data ip.headerLength = some result.sourcePort ∧
      wordAt data (ip.headerLength + 2) = some result.destinationPort ∨
    ¬ reads ∧ result.sourcePort = 0 ∧ result.destinationPort = 0

variable {data : Bytes} {ip : IPv4Header}

theorem TakesPorts.real_iff {reads : Prop} {result : CapturedPacket}
    (h : TakesPorts reads data ip result) :
    PortsReal data ip result ↔
      TransportThere data ip ∨ ¬ reads ∨ PortsZero data ip := by
  rcases h with ⟨hreads, hsource, hdestination⟩ |
    ⟨hreads, hsource, hdestination⟩
  · constructor
    · intro hreal
      by_cases hthere : TransportThere data ip
      · exact .inl hthere
      · have hzero : result.sourcePort = 0 ∧ result.destinationPort = 0 :=
          ⟨by_contra fun h => hthere (hreal.source h).1,
            by_contra fun h => hthere (hreal.destination h).1⟩
        rw [hzero.1] at hsource
        rw [hzero.2] at hdestination
        exact .inr (.inr ⟨hsource, hdestination⟩)
    · rintro (hthere | hnot | hzero)
      · exact ⟨fun _ => ⟨hthere, hsource⟩, fun _ => ⟨hthere, hdestination⟩⟩
      · exact absurd hreads hnot
      · refine ⟨fun h => absurd ?_ h, fun h => absurd ?_ h⟩
        · exact Option.some.inj (hsource.symm.trans hzero.1)
        · exact Option.some.inj (hdestination.symm.trans hzero.2)
  · exact ⟨fun _ => .inr (.inl hreads), fun _ =>
      ⟨fun h => absurd hsource h, fun h => absurd hdestination h⟩⟩

theorem wordAt_drop (data : Bytes) (n i : Nat) :
    wordAt (data.drop n) i = wordAt data (n + i) := by
  simp [wordAt, List.getElem?_drop, Nat.add_assoc]

theorem ports_of_tcpHeader {tcp : TCPHeader}
    (h : tcpHeader (data.drop ip.headerLength) = some tcp) :
    wordAt data ip.headerLength = some tcp.sourcePort ∧
      wordAt data (ip.headerLength + 2) = some tcp.destinationPort := by
  obtain ⟨sourcePort, hsource, h⟩ := Option.bind_eq_some_iff.mp h
  obtain ⟨destinationPort, hdestination, h⟩ := Option.bind_eq_some_iff.mp h
  obtain ⟨reserved, _, h⟩ := Option.bind_eq_some_iff.mp h
  cases h
  exact ⟨(wordAt_drop data ip.headerLength 0).symm.trans hsource,
    (wordAt_drop data ip.headerLength 2).symm.trans hdestination⟩

theorem ports_of_udpHeader {udp : UDPHeader}
    (h : udpHeader (data.drop ip.headerLength) = some udp) :
    wordAt data ip.headerLength = some udp.sourcePort ∧
      wordAt data (ip.headerLength + 2) = some udp.destinationPort := by
  obtain ⟨sourcePort, hsource, h⟩ := Option.bind_eq_some_iff.mp h
  obtain ⟨destinationPort, hdestination, h⟩ := Option.bind_eq_some_iff.mp h
  cases h
  exact ⟨(wordAt_drop data ip.headerLength 0).symm.trans hsource,
    (wordAt_drop data ip.headerLength 2).symm.trans hdestination⟩

theorem length_of_ipv4Header (h : ipv4Header data = some ip) :
    20 ≤ data.length := by
  by_contra hshort
  have hlast : data[19]? = none := List.getElem?_eq_none (by omega)
  simp [ipv4Header, addressAt, hlast] at h

theorem protocol_ne {a b : UInt8} (h : ip.protocol = a) (hab : a ≠ b) :
    ip.protocol ≠ b := h ▸ hab

namespace Linux

theorem takesPorts_decodeTransport {packet : CapturedPacket}
    (hfresh : packet.Fresh) (hheader : 20 ≤ ip.headerLength) :
    ∃ result, decodeTransport data ip packet = some result ∧
      TakesPorts (ReadsPorts data ip) data ip result := by
  have hnone : ∀ name, ¬ ReadsPorts data ip →
      TakesPorts (ReadsPorts data ip) data ip (packet.decodedAs name) :=
    fun _ hreads => .inr ⟨hreads, hfresh.1, hfresh.2.1⟩
  unfold decodeTransport
  split_ifs with htcp hroom hudp hroom hicmp
  · obtain ⟨tcp, hread⟩ : ∃ tcp,
        tcpHeader (data.drop ip.headerLength) = some tcp :=
      exists_tcpHeader (by
        rw [List.length_drop]
        exact Nat.le_sub_of_add_le' hroom)
    rw [hread]
    exact ⟨_, rfl, .inl ⟨⟨hheader, .inl ⟨htcp, hroom⟩⟩,
      ports_of_tcpHeader hread⟩⟩
  · refine ⟨_, rfl, hnone _ ?_⟩
    rintro ⟨_, ⟨_, h⟩ | ⟨hudp, _⟩⟩
    · exact hroom h
    · exact protocol_ne htcp (by decide) hudp
  · obtain ⟨udp, hread⟩ : ∃ udp,
        udpHeader (data.drop ip.headerLength) = some udp :=
      exists_udpHeader (by
        rw [List.length_drop]
        exact Nat.le_sub_of_add_le' hroom)
    rw [hread]
    exact ⟨_, rfl, .inl ⟨⟨hheader, .inr ⟨hudp, hroom⟩⟩,
      ports_of_udpHeader hread⟩⟩
  · refine ⟨_, rfl, hnone _ ?_⟩
    rintro ⟨_, ⟨htcp', _⟩ | ⟨_, h⟩⟩
    · exact htcp htcp'
    · exact hroom h
  all_goals
    refine ⟨_, rfl, hnone _ ?_⟩
    rintro ⟨_, ⟨htcp', _⟩ | ⟨hudp', _⟩⟩
    · exact htcp htcp'
    · exact hudp hudp'

theorem takesPorts_decodeIPv4 {packet : CapturedPacket}
    (hfresh : packet.Fresh) (hread : ipv4Header data = some ip) :
    ∃ result, decodeIPv4 data packet = some result ∧
      TakesPorts (ReadsPorts data ip) data ip result := by
  have hlength := length_of_ipv4Header hread
  have hlong : ¬ data.length < 20 := by omega
  rw [decodeIPv4, if_neg hlong, hread, Option.bind_eq_bind, Option.bind_some]
  split_ifs with hheader
  · refine ⟨packet, rfl, .inr ⟨?_, hfresh.1, hfresh.2.1⟩⟩
    rintro ⟨hmin, ⟨_, h⟩ | ⟨_, h⟩⟩ <;> omega
  · have hnext : (packet.withAddresses ip).Fresh := hfresh
    exact takesPorts_decodeTransport hnext (by omega)

end Linux

namespace Windows

theorem takesPorts_decodeTransport {packet : CapturedPacket}
    (hfresh : packet.Fresh) (hversion : ip.version = 4)
    (hheader : 20 ≤ ip.headerLength ∧ ip.headerLength ≤ data.length) :
    ∃ result, decodeTransport (data.drop ip.headerLength) ip packet =
        some result ∧ TakesPorts (ReadsPorts data ip) data ip result := by
  have hlength : (data.drop ip.headerLength).length =
      data.length - ip.headerLength := List.length_drop
  have hnone : ∀ name, ¬ ReadsPorts data ip →
      TakesPorts (ReadsPorts data ip) data ip (packet.decodedAs name) :=
    fun _ hreads => .inr ⟨hreads, hfresh.1, hfresh.2.1⟩
  by_cases htcp : ip.protocol = IPPROTO_TCP
  · have hnotUdp := protocol_ne htcp (show IPPROTO_TCP ≠ IPPROTO_UDP by decide)
    rw [decodeTransport, if_pos htcp]
    by_cases hroom : 20 ≤ (data.drop ip.headerLength).length
    · obtain ⟨tcp, hread⟩ := exists_tcpHeader hroom
      rw [if_pos hroom, hread, Option.bind_eq_bind, Option.bind_some]
      split_ifs with hoffset
      · refine ⟨_, rfl, .inl ⟨⟨hversion, hheader.1, .inl ⟨htcp, by omega,
          tcp, hread, hoffset.1, ?_⟩⟩, ports_of_tcpHeader hread⟩⟩
        rw [← hlength]
        exact hoffset.2
      · refine ⟨_, rfl, hnone _ ?_⟩
        rintro ⟨_, _, ⟨_, _, other, hother, hbounds⟩ | ⟨hudp, _⟩⟩
        · rw [hread] at hother
          obtain rfl := Option.some.inj hother
          rw [← hlength] at hbounds
          exact hoffset hbounds
        · exact hnotUdp hudp
    · rw [if_neg hroom]
      refine ⟨_, rfl, hnone _ ?_⟩
      rintro ⟨_, _, ⟨_, h, _⟩ | ⟨hudp, _⟩⟩
      · omega
      · exact hnotUdp hudp
  · rw [decodeTransport, if_neg htcp]
    by_cases hudp : ip.protocol = IPPROTO_UDP
    · rw [if_pos hudp]
      by_cases hroom : 8 ≤ (data.drop ip.headerLength).length
      · obtain ⟨udp, hread⟩ := exists_udpHeader hroom
        rw [if_pos hroom, hread]
        exact ⟨_, rfl, .inl ⟨⟨hversion, hheader.1, .inr ⟨hudp, by omega⟩⟩,
          ports_of_udpHeader hread⟩⟩
      · rw [if_neg hroom]
        refine ⟨_, rfl, hnone _ ?_⟩
        rintro ⟨_, _, ⟨htcp', _⟩ | ⟨_, h⟩⟩
        · exact htcp htcp'
        · omega
    · rw [if_neg hudp]
      have hreads : ¬ ReadsPorts data ip := by
        rintro ⟨_, _, ⟨htcp', _⟩ | ⟨hudp', _⟩⟩
        · exact htcp htcp'
        · exact hudp hudp'
      split_ifs
      · exact ⟨_, rfl, hnone _ hreads⟩
      · exact ⟨_, rfl, hnone _ hreads⟩

theorem takesPorts_decodeIPv4 {packet : CapturedPacket}
    (hfresh : packet.Fresh) (hread : ipv4Header data = some ip) :
    ∃ result, decodeIPv4 data packet = some result ∧
      TakesPorts (ReadsPorts data ip) data ip result := by
  have hlength := length_of_ipv4Header hread
  have hlong : ¬ data.length < 20 := by omega
  rw [decodeIPv4, if_neg hlong, hread, Option.bind_eq_bind, Option.bind_some]
  split_ifs with hversion hheader
  · exact ⟨packet, rfl, .inr ⟨fun h => hversion h.1, hfresh.1, hfresh.2.1⟩⟩
  · refine ⟨packet, rfl, .inr ⟨?_, hfresh.1, hfresh.2.1⟩⟩
    rintro ⟨_, hmin, ⟨_, h, _⟩ | ⟨_, h⟩⟩ <;> omega
  · have hnext : (packet.withAddresses ip).Fresh := hfresh
    exact takesPorts_decodeTransport hnext (not_not.mp hversion) (by omega)

end Windows

/-! ## Real ports -/

/-- On both platforms the ports are real exactly if there is a transport header
behind the IP header, or the decoder does not look for one, or it finds zeros
there. -/
theorem portsReal_iff (hread : ipv4Header data = some ip) (timestamp : Str)
    (length : UInt64) :
    (∃ result,
      Linux.decodeIPv4 data (freshPacket timestamp length) = some result ∧
      (PortsReal data ip result ↔ TransportThere data ip ∨
        ¬ Linux.ReadsPorts data ip ∨ PortsZero data ip)) ∧
    ∃ result,
      Windows.decodeIPv4 data (freshPacket timestamp length) = some result ∧
      (PortsReal data ip result ↔ TransportThere data ip ∨
        ¬ Windows.ReadsPorts data ip ∨ PortsZero data ip) := by
  have hfresh : (freshPacket timestamp length).Fresh := ⟨rfl, rfl, rfl⟩
  constructor
  · obtain ⟨result, hresult, hports⟩ :=
      Linux.takesPorts_decodeIPv4 hfresh hread
    exact ⟨result, hresult, hports.real_iff⟩
  · obtain ⟨result, hresult, hports⟩ :=
      Windows.takesPorts_decodeIPv4 hfresh hread
    exact ⟨result, hresult, hports.real_iff⟩

/-- The second fragment of a UDP datagram: its offset is 1480 bytes, and its
data starts with the text `GET / HT`. -/
def laterFragment : Bytes :=
  [0x45, 0, 0, 28, 0x12, 0x34, 0x00, 0xB9, 64, 17, 0, 0, 10, 0, 0, 1, 10, 0, 0,
    2, 0x47, 0x45, 0x54, 0x20, 0x2F, 0x20, 0x48, 0x54]

def laterFragmentHeader : IPv4Header :=
  ⟨0x45, 64, 17, 0x0A000001, 0x0A000002⟩

/-- A UDP datagram of 8 bytes: its ports are there. -/
theorem portsReal_datagram :
    let data : Bytes :=
      [0x45, 0, 0, 28, 0x12, 0x34, 0x40, 0, 64, 17, 0, 0, 10, 0, 0, 1, 10, 0, 0,
        2, 0xC0, 0x00, 0, 53, 0, 8, 0, 0]
    ∃ result, Linux.decodeIPv4 data (freshPacket [] 42) = some result ∧
      PortsReal data laterFragmentHeader result := by
  intro data
  have hread : ipv4Header data = some laterFragmentHeader := by decide
  obtain ⟨result, hresult, hreal⟩ := (portsReal_iff hread [] 42).1
  exact ⟨result, hresult, hreal.mpr (.inl
    ⟨by decide, 28, by decide, by decide⟩)⟩

theorem not_portsReal_laterFragment :
    ipv4Header laterFragment = some laterFragmentHeader ∧
    fragmentOffset laterFragment = some 185 ∧
    ∃ result,
      Linux.decodeIPv4 laterFragment (freshPacket [] 42) = some result ∧
      Windows.decodeIPv4 laterFragment (freshPacket [] 42) = some result ∧
      result.protocol = "UDP".toList ∧ result.sourcePort = 0x4745 ∧
      result.destinationPort = 0x5420 ∧
      ¬ PortsReal laterFragment laterFragmentHeader result := by
  refine ⟨by decide, by decide, _, rfl, rfl, rfl, rfl, rfl, fun hreal => ?_⟩
  have hoffset := (hreal.source (by decide)).1.1
  exact absurd hoffset (by decide)

end SlipNet.Capture
