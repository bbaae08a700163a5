import SlipNet.Foundation.Folds
import SlipNet.Network.NetworkDiscovery
import SlipNet.Platform.RouteReaders
import SlipNet.Topology.TopologyMapper

/-!
# topo|:map

The handler adds nodes for the active interfaces and for the hosts that were
found online, and edges from the local address to the gateway and to these
hosts.  The local address and the gateway of the edges come from the routing
table, which need not agree with the interfaces and the discovered hosts, so
either may be missing among the nodes.
-/

namespace SlipNet.Cli

open SlipNet.Foundation
open SlipNet.Standard
open SlipNet.Core
open SlipNet.Network
open SlipNet.Platform (LocalTopologyInfo)
open SlipNet.Topology

/-! ## The handler -/

/-- The body of the first loop, with the local address found so far. -/
def addInterface (state : Str × TopologyMapper)
    (interface : NetworkInterfaceInfo) : Str × TopologyMapper :=
  if !interface.up then state
  else if interface.ipv4Address = [] then state
  else
    (if state.1 = [] then interface.ipv4Address else state.1,
      state.2.addNode
        { name := interface.name
          address := interface.ipv4Address
          type := "LOCAL".toList })

def addHostNode (localIP gatewayIP : Str) (mapper : TopologyMapper)
    (host : HostInfo) : TopologyMapper :=
  if !host.online then mapper
  else if localIP ≠ [] ∧ host.ip = localIP then mapper
  else
    let isGateway := gatewayIP ≠ [] ∧ host.ip = gatewayIP
    mapper.addNode
      { name := if isGateway then "gateway".toList else host.ip
        address := host.ip
        type := if isGateway then "GATEWAY".toList else "HOST".toList }

def connectGateway (localIP gatewayIP : Str) (mapper : TopologyMapper) :
    TopologyMapper :=
  if localIP ≠ [] ∧ gatewayIP ≠ [] then mapper.addEdge ⟨localIP, gatewayIP⟩
  else mapper

def connectHost (localIP gatewayIP : Str) (mapper : TopologyMapper)
    (host : HostInfo) : TopologyMapper :=
  if !host.online then mapper
  else if host.ip = localIP then mapper
  else if gatewayIP ≠ [] ∧ host.ip = gatewayIP then mapper
  else mapper.addEdge ⟨localIP, host.ip⟩

def buildTopology (interfaces : List NetworkInterfaceInfo)
    (info : LocalTopologyInfo) (hosts : List HostInfo) : TopologyMapper :=
  let gatewayIP := info.gatewayAddress
  let (localIP, active) := interfaces.foldl addInterface (info.localAddress, {})
  let discovered := hosts.foldl (addHostNode localIP gatewayIP) active
  let routed := connectGateway localIP gatewayIP discovered
  if localIP ≠ [] then hosts.foldl (connectHost localIP gatewayIP) routed
  else routed

def handleTopologyMap (interfaces : List NetworkInterfaceInfo)
    (info : LocalTopologyInfo) (network : NetworkState) :
    Except Str TopologyMapper :=
  if network.getHosts = [] then
    .error ("\n[!] No discovered hosts available.\n\n[*] Run:\n" ++
      "    ip|:seek\n\n[*] Then run:\n    topo|:map\n\n").toList
  else .ok (buildTopology interfaces info network.getHosts)

/-! ## What the loops add -/

def IsActive (interfaces : List NetworkInterfaceInfo) (address : Str) : Prop :=
  ∃ interface ∈ interfaces, interface.up = true ∧
    interface.ipv4Address = address

def firstActive (interfaces : List NetworkInterfaceInfo) : Str :=
  (interfaces.find? fun interface =>
    interface.up && interface.ipv4Address ≠ []).elim []
      NetworkInterfaceInfo.ipv4Address

/-- The address the routing table gives, or else the first one of an active
interface. -/
def localAddress (interfaces : List NetworkInterfaceInfo)
    (info : LocalTopologyInfo) : Str :=
  if info.localAddress ≠ [] then info.localAddress
  else firstActive interfaces

theorem foldl_addInterface_fst (interfaces : List NetworkInterfaceInfo)
    (state : Str × TopologyMapper) :
    (interfaces.foldl addInterface state).1 =
      if state.1 ≠ [] then state.1 else firstActive interfaces := by
  induction interfaces generalizing state with
  | nil => simp [firstActive]
  | cons interface interfaces ih =>
      rw [List.foldl_cons, ih]
      unfold addInterface firstActive
      rw [List.find?_cons]
      by_cases hup : interface.up = true
      · by_cases hempty : interface.ipv4Address = []
        · simp [hup, hempty]
        · by_cases hfound : state.1 = [] <;> simp [hup, hempty, hfound]
      · simp [hup]

variable {localIP gatewayIP address : Str} {mapper : TopologyMapper}

theorem covers_addInterface (hne : address ≠ [])
    (state : Str × TopologyMapper) (interface : NetworkInterfaceInfo) :
    (addInterface state interface).2.Covers address ↔
      state.2.Covers address ∨
        interface.up = true ∧ interface.ipv4Address = address := by
  unfold addInterface
  by_cases hup : interface.up = true
  · by_cases hempty : interface.ipv4Address = []
    · simp [hempty, hne.symm]
    · rw [if_neg (by simp [hup]), if_neg hempty,
        TopologyMapper.covers_addNode _ hne]
      simp [hup]
  · simp [hup]

theorem covers_foldl_addInterface (hne : address ≠ [])
    (interfaces : List NetworkInterfaceInfo) (state : Str × TopologyMapper) :
    (interfaces.foldl addInterface state).2.Covers address ↔
      state.2.Covers address ∨ IsActive interfaces address :=
  foldl_adds_iff (fun state : Str × TopologyMapper => state.2.Covers address)
    (covers_addInterface hne)

theorem edges_foldl_addInterface (interfaces : List NetworkInterfaceInfo)
    (state : Str × TopologyMapper) :
    (interfaces.foldl addInterface state).2.edges = state.2.edges := by
  refine foldl_keeps (fun state : Str × TopologyMapper => state.2.edges) ?_
  intro state interface
  unfold addInterface
  split_ifs <;> simp

theorem covers_foldl_addHostNode (hne : address ≠ []) (hosts : List HostInfo) :
    (hosts.foldl (addHostNode localIP gatewayIP) mapper).Covers address ↔
      mapper.Covers address ∨ ∃ host ∈ hosts, host.online = true ∧
        ¬ (localIP ≠ [] ∧ host.ip = localIP) ∧ host.ip = address := by
  refine foldl_adds_iff (TopologyMapper.Covers · address) ?_
  intro mapper host
  unfold addHostNode
  by_cases honline : host.online = true
  · by_cases hlocal : localIP ≠ [] ∧ host.ip = localIP
    · rw [if_neg (by simp [honline]), if_pos hlocal,
        or_iff_left (fun hskip => hskip.2.1 hlocal)]
    · rw [if_neg (by simp [honline]), if_neg hlocal,
        TopologyMapper.covers_addNode _ hne]
      simp only [honline, hlocal, not_false_iff, true_and]
  · simp [honline]

theorem edges_foldl_addHostNode (hosts : List HostInfo) :
    (hosts.foldl (addHostNode localIP gatewayIP) mapper).edges =
      mapper.edges := by
  refine foldl_keeps TopologyMapper.edges ?_
  intro mapper host
  unfold addHostNode
  by_cases honline : host.online = true
  · by_cases hlocal : localIP ≠ [] ∧ host.ip = localIP
    · rw [if_neg (by simp [honline]), if_pos hlocal]
    · rw [if_neg (by simp [honline]), if_neg hlocal]
      exact TopologyMapper.edges_addNode _ _
  · rw [if_pos (by simp [honline])]

def IsPeer (localIP gatewayIP : Str) (host : HostInfo) : Prop :=
  host.online = true ∧ host.ip ≠ localIP ∧
    ¬ (gatewayIP ≠ [] ∧ host.ip = gatewayIP)

theorem covers_foldl_connectHost (hosts : List HostInfo) :
    (hosts.foldl (connectHost localIP gatewayIP) mapper).Covers address ↔
      mapper.Covers address := by
  have hnodes : (hosts.foldl (connectHost localIP gatewayIP) mapper).nodes =
      mapper.nodes := by
    refine foldl_keeps TopologyMapper.nodes ?_
    intro mapper host
    unfold connectHost
    split_ifs <;> simp
  rw [TopologyMapper.Covers, hnodes, TopologyMapper.Covers]

theorem mem_edges_foldl_connectHost {edge : Edge} (hosts : List HostInfo) :
    edge ∈ (hosts.foldl (connectHost localIP gatewayIP) mapper).edges ↔
      edge ∈ mapper.edges ∨ ∃ host ∈ hosts,
        IsPeer localIP gatewayIP host ∧ edge = ⟨localIP, host.ip⟩ ∧
          edge.Proper := by
  refine foldl_adds_iff (edge ∈ TopologyMapper.edges ·) ?_
  intro mapper host
  unfold connectHost
  by_cases hpeer : IsPeer localIP gatewayIP host
  · obtain ⟨honline, hlocal, hgateway⟩ := id hpeer
    rw [if_neg (by simp [honline]), if_neg hlocal, if_neg hgateway,
      TopologyMapper.mem_edges_addEdge]
    refine or_congr_right ?_
    constructor
    · rintro ⟨rfl, hproper⟩
      exact ⟨hpeer, rfl, hproper⟩
    · rintro ⟨_, rfl, hproper⟩
      exact ⟨rfl, hproper⟩
  · have hskip : ¬ (IsPeer localIP gatewayIP host ∧
        edge = ⟨localIP, host.ip⟩ ∧ edge.Proper) := fun h => hpeer h.1
    rw [or_iff_left hskip]
    split_ifs with h₁ h₂ h₃
    · rfl
    · rfl
    · rfl
    · exact absurd ⟨by simpa using h₁, h₂, h₃⟩ hpeer

theorem mem_edges_connectGateway {edge : Edge} :
    edge ∈ (connectGateway localIP gatewayIP mapper).edges ↔
      edge ∈ mapper.edges ∨ (localIP ≠ [] ∧ gatewayIP ≠ []) ∧
        edge = ⟨localIP, gatewayIP⟩ ∧ edge.Proper := by
  unfold connectGateway
  split_ifs with hknown
  · rw [TopologyMapper.mem_edges_addEdge]
    refine or_congr_right ?_
    constructor
    · rintro ⟨rfl, hproper⟩
      exact ⟨hknown, rfl, hproper⟩
    · rintro ⟨_, rfl, hproper⟩
      exact ⟨rfl, hproper⟩
  · rw [or_iff_left (fun h => hknown h.1)]

theorem covers_connectGateway :
    (connectGateway localIP gatewayIP mapper).Covers address ↔
      mapper.Covers address := by
  unfold connectGateway
  split_ifs <;> simp

/-! ## The whole graph -/

section
variable (interfaces : List NetworkInterfaceInfo) (info : LocalTopologyInfo)
  (hosts : List HostInfo)

theorem buildTopology_eq : ∃ active : TopologyMapper, active.edges = [] ∧
    (∀ address, address ≠ [] →
      (active.Covers address ↔ IsActive interfaces address)) ∧
    buildTopology interfaces info hosts =
      let localIP := localAddress interfaces info
      let routed := connectGateway localIP info.gatewayAddress
        (hosts.foldl (addHostNode localIP info.gatewayAddress) active)
      if localIP ≠ [] then
        hosts.foldl (connectHost localIP info.gatewayAddress) routed
      else routed := by
  have hlocal := foldl_addInterface_fst interfaces (info.localAddress, {})
  have hedges := edges_foldl_addInterface interfaces (info.localAddress, {})
  have hcovers := fun address (hne : address ≠ []) =>
    covers_foldl_addInterface hne interfaces (info.localAddress, {})
  rw [← localAddress] at hlocal
  unfold buildTopology
  generalize interfaces.foldl addInterface (info.localAddress, {}) = state
    at hlocal hedges hcovers
  obtain ⟨localIP, active⟩ := state
  subst hlocal
  refine ⟨active, hedges, fun address hne => ?_, rfl⟩
  have hempty : ¬ (({} : TopologyMapper).Covers address) := by
    rintro ⟨_, hmem, _⟩
    exact List.not_mem_nil hmem
  rw [hcovers address hne, or_iff_right hempty]

theorem covers_buildTopology (hne : address ≠ []) :
    (buildTopology interfaces info hosts).Covers address ↔
      IsActive interfaces address ∨ ∃ host ∈ hosts, host.online = true ∧
        ¬ (localAddress interfaces info ≠ [] ∧
          host.ip = localAddress interfaces info) ∧ host.ip = address := by
  obtain ⟨active, _, hactive, heq⟩ := buildTopology_eq interfaces info hosts
  rw [heq]
  dsimp only
  split_ifs
  · rw [covers_foldl_connectHost, covers_connectGateway,
      covers_foldl_addHostNode hne, hactive address hne]
  · rw [covers_connectGateway, covers_foldl_addHostNode hne,
      hactive address hne]

def IsTarget (localIP gatewayIP : Str) (hosts : List HostInfo)
    (address : Str) : Prop :=
  gatewayIP ≠ [] ∧ gatewayIP ≠ localIP ∧ address = gatewayIP ∨
    ∃ host ∈ hosts, IsPeer localIP gatewayIP host ∧ address = host.ip

theorem mem_edges_buildTopology {edge : Edge} :
    edge ∈ (buildTopology interfaces info hosts).edges ↔
      localAddress interfaces info ≠ [] ∧
        edge.fromAddress = localAddress interfaces info ∧
        IsTarget (localAddress interfaces info) info.gatewayAddress hosts
          edge.toAddress ∧ edge.toAddress ≠ [] := by
  obtain ⟨active, hactive, _, heq⟩ := buildTopology_eq interfaces info hosts
  rw [heq]
  dsimp only
  split_ifs with hknown
  · rw [mem_edges_foldl_connectHost, mem_edges_connectGateway,
      edges_foldl_addHostNode, hactive]
    constructor
    · rintro ((h | ⟨⟨_, hgateway⟩, rfl, hproper⟩) |
        ⟨host, hmem, hpeer, rfl, hproper⟩)
      · exact absurd h List.not_mem_nil
      · exact ⟨hknown, rfl, .inl ⟨hgateway, hproper.from_ne_to.symm, rfl⟩,
          hgateway⟩
      · exact ⟨hknown, rfl, .inr ⟨host, hmem, hpeer, rfl⟩, hproper.to_ne_nil⟩
    · obtain ⟨fromAddress, toAddress⟩ := edge
      rintro ⟨_, rfl, htarget, hto⟩
      have hproper (hne : toAddress ≠ localAddress interfaces info) :
          Edge.Proper ⟨localAddress interfaces info, toAddress⟩ :=
        ⟨hknown, hto, hne.symm⟩
      rcases htarget with ⟨hgateway, hne, rfl⟩ | ⟨host, hmem, hpeer, rfl⟩
      · exact .inl (.inr ⟨⟨hknown, hgateway⟩, rfl, hproper hne⟩)
      · exact .inr ⟨host, hmem, hpeer, rfl, hproper hpeer.2.1⟩
  · rw [mem_edges_connectGateway, edges_foldl_addHostNode, hactive]
    simp [hknown]

end

/-! ## Well-formed graphs -/

/-- What the map of a local network should be. -/
structure WellFormed (mapper : TopologyMapper) (localIP gatewayIP : Str)
    (hosts : List HostInfo) : Prop where
  endpoints : ∀ edge ∈ mapper.edges,
    mapper.Covers edge.fromAddress ∧ mapper.Covers edge.toAddress
  nodup : mapper.edges.Nodup
  no_loop : ∀ edge ∈ mapper.edges, edge.fromAddress ≠ edge.toAddress
  edges_iff : ∀ edge, edge ∈ mapper.edges ↔
    localIP ≠ [] ∧ edge.fromAddress = localIP ∧
      IsTarget localIP gatewayIP hosts edge.toAddress

/-- Every link of the map has its two ends among the active interfaces and
the online hosts. -/
structure EndsKnown (interfaces : List NetworkInterfaceInfo)
    (localIP gatewayIP : Str) (hosts : List HostInfo) : Prop where
  peers : ∀ host ∈ hosts, IsPeer localIP gatewayIP host →
    host.ip ≠ [] ∧ IsActive interfaces localIP
  gateway : gatewayIP ≠ [] → gatewayIP ≠ localIP →
    IsActive interfaces localIP ∧
      (IsActive interfaces gatewayIP ∨
        ∃ host ∈ hosts, host.online = true ∧ host.ip = gatewayIP)

theorem covers_localAddress {interfaces : List NetworkInterfaceInfo}
    {info : LocalTopologyInfo} (hosts : List HostInfo)
    (hknown : localAddress interfaces info ≠ []) :
    (buildTopology interfaces info hosts).Covers
        (localAddress interfaces info) ↔
      IsActive interfaces (localAddress interfaces info) := by
  rw [covers_buildTopology _ _ _ hknown]
  refine or_iff_left ?_
  rintro ⟨host, _, _, hskip, hip⟩
  exact hskip ⟨hknown, hip⟩

section
variable {interfaces : List NetworkInterfaceInfo} {info : LocalTopologyInfo}
  {hosts : List HostInfo} {address : Str}

theorem WellFormed.of_isTarget
    (hformed : WellFormed (buildTopology interfaces info hosts)
      (localAddress interfaces info) info.gatewayAddress hosts)
    (hknown : localAddress interfaces info ≠ [])
    (htarget : IsTarget (localAddress interfaces info) info.gatewayAddress
      hosts address) :
    address ≠ [] ∧ IsActive interfaces (localAddress interfaces info) ∧
      (buildTopology interfaces info hosts).Covers address := by
  have hedge := (hformed.edges_iff ⟨_, address⟩).mpr ⟨hknown, rfl, htarget⟩
  obtain ⟨hfrom, hto⟩ := hformed.endpoints _ hedge
  exact ⟨((mem_edges_buildTopology interfaces info hosts).mp hedge).2.2.2,
    (covers_localAddress hosts hknown).mp hfrom, hto⟩

theorem EndsKnown.of_isTarget
    (hends : EndsKnown interfaces (localAddress interfaces info)
      info.gatewayAddress hosts)
    (htarget : IsTarget (localAddress interfaces info) info.gatewayAddress
      hosts address) :
    address ≠ [] ∧ IsActive interfaces (localAddress interfaces info) ∧
      (buildTopology interfaces info hosts).Covers address := by
  rcases htarget with ⟨hgateway, hne, rfl⟩ | ⟨host, hmem, hpeer, rfl⟩
  · obtain ⟨hactive, hfound⟩ := hends.gateway hgateway hne
    refine ⟨hgateway, hactive, ?_⟩
    rw [covers_buildTopology _ _ _ hgateway]
    refine hfound.imp_right ?_
    rintro ⟨host, hmem, honline, hip⟩
    exact ⟨host, hmem, honline, fun h => hne (hip.symm.trans h.2), hip⟩
  · obtain ⟨hne, hactive⟩ := hends.peers host hmem hpeer
    refine ⟨hne, hactive, ?_⟩
    rw [covers_buildTopology _ _ _ hne]
    exact .inr ⟨host, hmem, hpeer.1, fun h => hpeer.2.1 h.2, rfl⟩

theorem WellFormed.endsKnown
    (hformed : WellFormed (buildTopology interfaces info hosts)
      (localAddress interfaces info) info.gatewayAddress hosts)
    (hknown : localAddress interfaces info ≠ []) :
    EndsKnown interfaces (localAddress interfaces info) info.gatewayAddress
      hosts := by
  constructor
  · intro host hmem hpeer
    obtain ⟨hne, hactive, _⟩ :=
      hformed.of_isTarget hknown (.inr ⟨host, hmem, hpeer, rfl⟩)
    exact ⟨hne, hactive⟩
  · intro hgateway hne
    obtain ⟨_, hactive, hcovers⟩ :=
      hformed.of_isTarget hknown (.inl ⟨hgateway, hne, rfl⟩)
    refine ⟨hactive, ?_⟩
    rw [covers_buildTopology _ _ _ hgateway] at hcovers
    refine hcovers.imp_right ?_
    rintro ⟨host, hmem, honline, _, hip⟩
    exact ⟨host, hmem, honline, hip⟩

theorem wellFormed_of_endsKnown
    (hends : localAddress interfaces info ≠ [] →
      EndsKnown interfaces (localAddress interfaces info) info.gatewayAddress
        hosts) :
    WellFormed (buildTopology interfaces info hosts)
      (localAddress interfaces info) info.gatewayAddress hosts := by
  have hproper := (buildTopology interfaces info hosts).edges_proper
  refine ⟨?_, (buildTopology interfaces info hosts).edges_nodup,
    fun edge hedge => (hproper edge hedge).from_ne_to, ?_⟩
  · intro edge hedge
    obtain ⟨hknown, hfrom, htarget, _⟩ :=
      (mem_edges_buildTopology interfaces info hosts).mp hedge
    obtain ⟨_, hactive, hcovers⟩ := (hends hknown).of_isTarget htarget
    rw [hfrom, covers_localAddress hosts hknown]
    exact ⟨hactive, hcovers⟩
  · intro edge
    rw [mem_edges_buildTopology]
    exact and_congr_right fun hknown => and_congr_right fun _ =>
      and_iff_left_of_imp fun htarget => ((hends hknown).of_isTarget htarget).1

end

/-- The map is as it should be exactly when both ends of each of its links were
seen: the routing table alone does not make a node. -/
theorem handleTopologyMap_wellFormed_iff
    {interfaces : List NetworkInterfaceInfo} {info : LocalTopologyInfo}
    {network : NetworkState} {mapper : TopologyMapper}
    (hmap : handleTopologyMap interfaces info network = .ok mapper) :
    WellFormed mapper (localAddress interfaces info) info.gatewayAddress
        network.getHosts ↔
      (localAddress interfaces info ≠ [] →
        EndsKnown interfaces (localAddress interfaces info)
          info.gatewayAddress network.getHosts) := by
  unfold handleTopologyMap at hmap
  split_ifs at hmap
  cases hmap
  exact ⟨fun hformed hknown => hformed.endsKnown hknown,
    wellFormed_of_endsKnown⟩

def eth0 : NetworkInterfaceInfo :=
  { name := "eth0".toList, ipv4Address := "10.0.0.5".toList, up := true }

def defaultRoute : LocalTopologyInfo :=
  { interfaceName := "eth0".toList
    localAddress := "10.0.0.5".toList
    gatewayAddress := "10.0.0.1".toList }

def online (ip : Str) : HostInfo := { ip := ip, online := true }

theorem handleTopologyMap_wellFormed_discovered :
    WellFormed (buildTopology [eth0] defaultRoute
        [online "10.0.0.1".toList, online "10.0.0.7".toList])
      "10.0.0.5".toList "10.0.0.1".toList
        [online "10.0.0.1".toList, online "10.0.0.7".toList] := by
  have hlocal : IsActive [eth0] "10.0.0.5".toList :=
    ⟨eth0, by decide, rfl, rfl⟩
  have hnamed : ∀ host ∈
      [online "10.0.0.1".toList, online "10.0.0.7".toList], host.ip ≠ [] := by
    decide
  exact (@handleTopologyMap_wellFormed_iff [eth0] defaultRoute
    { hosts := [online "10.0.0.1".toList, online "10.0.0.7".toList] }
    _ (by rfl)).mpr fun _ =>
      ⟨fun host hmem _ => ⟨hnamed host hmem, hlocal⟩,
        fun _ _ => ⟨hlocal, .inr
          ⟨online "10.0.0.1".toList, by decide, rfl, rfl⟩⟩⟩

/-- The gateway did not answer the ping of the discovery. -/
theorem not_handleTopologyMap_wellFormed_silentGateway :
    handleTopologyMap [eth0] defaultRoute
        { hosts := [online "10.0.0.7".toList] } =
      .ok (buildTopology [eth0] defaultRoute [online "10.0.0.7".toList]) ∧
    ¬ WellFormed
        (buildTopology [eth0] defaultRoute [online "10.0.0.7".toList])
        "10.0.0.5".toList "10.0.0.1".toList
        [online "10.0.0.7".toList] := by
  refine ⟨rfl, fun hformed => ?_⟩
  obtain ⟨_, hto⟩ := hformed.endpoints
    ⟨"10.0.0.5".toList, "10.0.0.1".toList⟩ (by decide)
  exact absurd hto (by unfold TopologyMapper.Covers; decide)

end SlipNet.Cli
