import SlipNet.Cli.InterfaceChoice
import SlipNet.Cli.SessionHistory
import SlipNet.Host.AddressReaders
import SlipNet.Network.ConcurrentDiscovery

/-!
# The topology map on Windows

The local address of the route is that of an adapter which is listed as up, so
it is always a node of the map; and all hosts of a session are online ones with
an address.  What can be missing is the gateway.
-/

namespace SlipNet.Cli

open SlipNet.Foundation
open SlipNet.Standard
open SlipNet.Core
open SlipNet.Network
open SlipNet.Discovery
open SlipNet.Platform
open SlipNet.Scanning

/-! ## The hosts of a session -/

def Answering (host : HostInfo) : Prop :=
  host.online = true ∧ host.ip ≠ []

theorem answering_storeOnline {state : NetworkState}
    {entries : List (Str × Bool × Double)}
    (hstate : ∀ host ∈ state.getHosts, Answering host)
    (hentries : ∀ entry ∈ entries, entry.1 ≠ []) :
    ∀ host ∈ (storeOnline state entries).getHosts, Answering host := by
  induction entries generalizing state with
  | nil => exact hstate
  | cons entry entries ih =>
      obtain ⟨address, online, latency⟩ := entry
      obtain ⟨haddress, hrest⟩ := List.forall_mem_cons.mp hentries
      refine ih ?_ hrest
      split_ifs
      · intro host hhost
        rcases mem_put hhost with rfl | hold
        · exact ⟨rfl, haddress⟩
        · exact hstate host hold
      · exact hstate

theorem answering_of_discover (surroundings : Network.Surroundings)
    (network : NetworkState) :
    ∀ host ∈ (discover surroundings network).2.getHosts, Answering host := by
  have hempty : ∀ host ∈ network.clear.getHosts, Answering host := by
    rintro host ⟨⟩
  unfold discover
  dsimp only
  split_ifs
  · exact hempty
  · split
    · exact hempty
    · refine answering_storeOnline hempty fun entry hentry => ?_
      obtain ⟨current, -, hcurrent⟩ :=
        List.mem_map.mp (List.of_mem_zip hentry).1
      rw [← hcurrent, integerToIP_eq]
      exact inetNtop_ne_nil _

variable {std : SortRoutine Port} {session : Session}
  {trace : List (Session × Turn)} {network after : NetworkState} {turn : Turn}

theorem answering_of_effect
    (hnetwork : ∀ host ∈ network.getHosts, Answering host)
    (heffect : Effect std network turn after) :
    ∀ host ∈ after.getHosts, Answering host := by
  cases heffect with
  | keep => exact hnetwork
  | seek surroundings => exact answering_of_discover surroundings network
  | scan => rwa [getHosts_storeResults]
  | detect => rwa [getHosts_storeServices]
  | clear => rintro host ⟨⟩

theorem answering_of_session (run : Run (SessionStep std) {} trace session) :
    ∀ host ∈ session.context.network.getHosts, Answering host :=
  run.invariant
    (fun session => ∀ host ∈ session.context.network.getHosts, Answering host)
    (fun _ _ _ hnetwork hstep =>
      answering_of_effect hnetwork (effect_of_step hstep))
    (by rintro host ⟨⟩)

theorem network_next_ipSeek {command : ParsedCommand}
    (hcommand : turn.command? = some command)
    (htype : command.type = .ipSeek) :
    (session.next turn).context.network =
      (discover turn.outcome.surroundings session.context.network).2 := by
  rw [context_next, Turn.change, hcommand]
  dsimp only
  rw [execute, htype]
  rfl

/-! ## The local address -/

namespace Windows

open Platform.Windows

variable {adapters : List AdapterAddresses}

theorem isActive_of_usable {adapter : AdapterAddresses}
    (hmem : adapter ∈ adapters) (husable : usable adapter = true) :
    IsActive (getNetworkInterfaces (some adapters))
      (interfaceInfo adapter).ipv4Address := by
  rw [usable, Bool.and_eq_true, Bool.and_eq_true] at husable
  obtain ⟨address, haddress⟩ := Option.isSome_iff_exists.mp husable.2
  exact ⟨interfaceInfo adapter, List.mem_filterMap.mpr
    ⟨adapter, hmem, interfaceOf_eq haddress⟩, husable.1.1, rfl⟩

theorem isActive_localAddress {interfaces : List NetworkInterfaceInfo}
    (hinterfaces : interfaces = getNetworkInterfaces (some adapters))
    {info : LocalTopologyInfo}
    (hinfo : info = Windows.getLocalTopologyInfo (some adapters))
    (hlocal : localAddress interfaces info ≠ []) :
    IsActive interfaces (localAddress interfaces info) := by
  by_cases hroute : info.localAddress = []
  · -- the handler falls back to the first interface that is up
    have hfirst : localAddress interfaces info = firstActive interfaces :=
      if_neg (not_not.mpr hroute)
    rw [hfirst] at hlocal ⊢
    unfold firstActive at hlocal ⊢
    cases hfind : interfaces.find? fun interface =>
        interface.up && interface.ipv4Address ≠ [] with
    | none => rw [hfind] at hlocal; exact absurd rfl hlocal
    | some interface =>
        have hup := List.find?_some hfind
        rw [Bool.and_eq_true] at hup
        exact ⟨interface, List.mem_of_find?_eq_some hfind, hup.1, rfl⟩
  · have htaken : localAddress interfaces info = info.localAddress :=
      if_pos hroute
    have hread := @readAdapters_eq adapters {} rfl
    rw [htaken, hinterfaces]
    rw [hinfo] at hroute ⊢
    cases hfind : adapters.find? usable with
    | none =>
        rw [hfind] at hread
        exact absurd hread hroute
    | some adapter =>
        rw [hfind] at hread
        have haddress :
            (Windows.getLocalTopologyInfo (some adapters)).localAddress =
              (interfaceInfo adapter).ipv4Address := hread.1
        rw [haddress]
        exact isActive_of_usable (List.mem_of_find?_eq_some hfind)
          (List.find?_some hfind)

/-- After any session the map is as it should be exactly if the gateway, where
it is an end of a link, is the address of an adapter that is up or of a host
that the last discovery listed. -/
theorem map_wellFormed_iff (run : Run (SessionStep std) {} trace session)
    {mapper : Topology.TopologyMapper}
    (hmap : handleTopologyMap (getNetworkInterfaces (some adapters))
      (Windows.getLocalTopologyInfo (some adapters))
      session.context.network = .ok mapper) :
    let interfaces := getNetworkInterfaces (some adapters)
    let info := Windows.getLocalTopologyInfo (some adapters)
    let hosts := session.context.network.getHosts
    WellFormed mapper (localAddress interfaces info) info.gatewayAddress
        hosts ↔
      (localAddress interfaces info ≠ [] → info.gatewayAddress ≠ [] →
        info.gatewayAddress ≠ localAddress interfaces info →
          IsActive interfaces info.gatewayAddress ∨
            ∃ host ∈ hosts, host.ip = info.gatewayAddress) := by
  dsimp only
  have hanswering := answering_of_session run
  unfold handleTopologyMap at hmap
  split_ifs at hmap
  obtain rfl := Except.ok.inj hmap
  constructor
  · intro hformed hlocal hgateway hne
    obtain ⟨-, hends | ⟨host, hhost, -, hip⟩⟩ :=
      (hformed.endsKnown hlocal).gateway hgateway hne
    · exact .inl hends
    · exact .inr ⟨host, hhost, hip⟩
  · intro hknown
    refine wellFormed_of_endsKnown fun hlocal => ?_
    have hactive := isActive_localAddress rfl rfl hlocal
    refine ⟨fun host hhost _ => ⟨(hanswering host hhost).2, hactive⟩,
      fun hgateway hne => ⟨hactive, ?_⟩⟩
    refine (hknown hlocal hgateway hne).imp_right ?_
    rintro ⟨host, hhost, hip⟩
    exact ⟨host, hhost, (hanswering host hhost).1, hip⟩

def ethernetRoute : AdapterAddresses :=
  { adapterNamed "Ethernet" 12 (ofOctets 10 0 0 5) with
    firstGatewayAddress := [some ⟨AF_INET, ofOctets 10 0 0 1⟩] }

def seekOne : Turn where
  input := some "ip|:seek".toList
  interrupted := false
  outcome :=
    { surroundings :=
        { interfaces := getNetworkInterfaces (some [ethernetRoute])
          pingHost := fun address =>
            { reachable := address = "10.0.0.7".toList }
          stopRequested := fun _ => false }
      results := []
      peers := fun _ _ => refusing }

theorem getHosts_seekOne :
    (({} : Session).next seekOne).context.network.getHosts =
      [onlineHost "10.0.0.7".toList .zero] := by
  rw [network_next_ipSeek rfl (by decide),
    discover_uninterrupted (by decide) fun _ _ => rfl]
  decide +kernel

/-- The gateway did not answer, so it is not on the map that leads to it. -/
theorem map_wellFormed_iff_silentGateway :
    let network := (({} : Session).next seekOne).context.network
    let interfaces := getNetworkInterfaces (some [ethernetRoute])
    let info := Windows.getLocalTopologyInfo (some [ethernetRoute])
    ∃ mapper, handleTopologyMap interfaces info network = .ok mapper ∧
      ¬ WellFormed mapper (localAddress interfaces info) info.gatewayAddress
        network.getHosts := by
  intro network interfaces info
  have run : Run (SessionStep (.merge Port)) {} [({}, seekOne)]
      (({} : Session).next seekOne) :=
    (Run.refl _).tail (step_of_no_scan seekOne rfl (by decide))
  have hhosts : network.getHosts ≠ [] := by
    rw [getHosts_seekOne]
    exact List.cons_ne_nil _ _
  have hmap : handleTopologyMap interfaces info network =
      .ok (buildTopology interfaces info network.getHosts) := if_neg hhosts
  refine ⟨_, hmap, fun hformed => ?_⟩
  rcases (map_wellFormed_iff run hmap).mp hformed (by decide) (by decide)
    (by decide) with hactive | ⟨host, hhost, hip⟩
  · exact absurd hactive (by unfold IsActive; decide)
  · rw [getHosts_seekOne, List.mem_singleton] at hhost
    rw [hhost] at hip
    exact absurd hip (by decide)

end Windows

end SlipNet.Cli
