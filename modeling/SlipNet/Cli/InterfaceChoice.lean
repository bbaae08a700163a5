import SlipNet.Cli.TopologyMap
import SlipNet.Monitoring.NetworkMonitor
import SlipNet.Platform.Adapters
import Mathlib.Data.List.Find

/-!
# Which interface the commands work on

ip|:seek takes the first interface that is up, net|:monitor the one that
`detectActiveInterface` finds, and topo|:map the one of the route.  Each of them
goes through the adapters of the machine on its own.  Over the same adapters
they agree on Windows; on Linux the monitor prefers an interface that runs.
-/

namespace SlipNet.Monitoring

open SlipNet.Platform

def readStats (status : NetworkStatus) : NetworkStats where
  interfaceName := status.interfaceName
  ipv4Address := status.ipv4Address
  up := status.up
  rxPackets := status.rxPackets
  txPackets := status.txPackets
  rxBytes := status.rxBytes
  txBytes := status.txBytes
  rxErrors := status.rxErrors
  txErrors := status.txErrors
  rxDropped := status.rxDropped
  txDropped := status.txDropped

end SlipNet.Monitoring

namespace SlipNet.Cli

open SlipNet.Standard
open SlipNet.Network
open SlipNet.Monitoring
open SlipNet.Platform

/-! ## Addresses -/

def localhost : UInt32 := ofOctets 127 0 0 1

theorem inetNtop_ne_nil (address : UInt32) : inetNtop address ≠ [] := by
  intro h
  have hread := inetPton_inetNtop address
  rw [h] at hread
  exact absurd hread (by simp [inetPton, readOctet])

theorem ipv4ToString_eq_nil_iff {address : Option Sockaddr} :
    ipv4ToString address = [] ↔ isIPv4 address = false := by
  cases address with
  | none => simp [ipv4ToString, isIPv4]
  | some address =>
      by_cases hfamily : address.sa_family = AF_INET <;>
        simp [ipv4ToString, addressToString, isIPv4, hfamily, inetNtop_ne_nil]

theorem ipv4ToString_ne_nil {address : Option Sockaddr}
    (h : isIPv4 address = true) : ipv4ToString address ≠ [] := fun hnil => by
  rw [ipv4ToString_eq_nil_iff.mp hnil] at h
  cases h

theorem ipv4ToString_eq_localhost_iff {address : Option Sockaddr} :
    ipv4ToString address = "127.0.0.1".toList ↔
      address = some ⟨AF_INET, localhost⟩ := by
  have hlocalhost : "127.0.0.1".toList = inetNtop localhost := by decide
  cases address with
  | none => simp [ipv4ToString]
  | some address =>
      obtain ⟨family, address⟩ := address
      by_cases hfamily : family = AF_INET
      · simp [ipv4ToString, addressToString, hfamily, hlocalhost,
          inetNtop_injective.eq_iff]
      · simp [ipv4ToString, addressToString, hfamily]

/-! ## The interface of ip|:seek -/

def seekable (interface : NetworkInterfaceInfo) : Bool :=
  interface.up && interface.ipv4Address ≠ [] &&
    interface.ipv4Address ≠ "127.0.0.1".toList

def localNetworkOf (interface : NetworkInterfaceInfo) : LocalNetwork where
  interfaceName := interface.name
  ip := interface.ipv4Address
  netmask := interface.netmask
  prefixLength := 24
  network := calculateNetworkAddress interface.ipv4Address

theorem detectLocalNetwork_filterMap {α : Type}
    {interfaceOf : α → Option NetworkInterfaceInfo} {usable : α → Bool}
    {adapters : List α} (h : ∀ adapter ∈ adapters,
      (interfaceOf adapter).any seekable = usable adapter) :
    detectLocalNetwork (adapters.filterMap interfaceOf) =
      ((adapters.find? usable).bind interfaceOf).elim {} localNetworkOf := by
  rw [← List.find?_congr h, ← List.find?_filterMap]
  unfold detectLocalNetwork
  split
  · next hnone =>
      rw [show List.find? seekable _ = none from hnone]
      rfl
  · next interface hsome =>
      rw [show List.find? seekable _ = some interface from hsome]
      rfl

namespace Linux

open Platform.Linux

/-! ## Linux -/

/-- Entries of one interface carry the same flags, and only `lo` has the
address of the loopback. -/
structure Consistent (entries : List Ifaddrs) : Prop where
  named : ∀ current ∈ entries, current.ifa_name ≠ some []
  flags : ∀ current ∈ entries, ∀ other ∈ entries,
    current.ifa_name = other.ifa_name → current.ifa_flags = other.ifa_flags
  loopback : ∀ current ∈ entries,
    current.ifa_addr = some ⟨AF_INET, localhost⟩ →
      current.ifa_name = some "lo".toList

def usable (current : Ifaddrs) : Bool :=
  current.ifa_name.isSome && current.ifa_name ≠ some "lo".toList &&
    isIPv4 current.ifa_addr && current.has IFF_UP

/-- The first interface is one that runs, if any of them does. -/
def RunsFirst (entries : List Ifaddrs) : Prop :=
  ∀ current ∈ entries.find? usable, current.has IFF_RUNNING = true ∨
    ∀ other ∈ entries, usable other = true → other.has IFF_RUNNING = false

variable {entries : List Ifaddrs} {current : Ifaddrs}

theorem interfaceOf_eq {name : Str} (hname : current.ifa_name = some name)
    (hipv4 : isIPv4 current.ifa_addr = true) (hlo : name ≠ "lo".toList) :
    interfaceOf current = some (interfaceInfo name current) := by
  unfold interfaceOf
  rw [hname]
  dsimp only
  rw [if_neg (by simp [hipv4]), if_neg hlo]
  exact if_neg (ipv4ToString_ne_nil hipv4)

theorem of_interfaceOf {interface : NetworkInterfaceInfo}
    (h : interfaceOf current = some interface) :
    ∃ name, current.ifa_name = some name ∧ name ≠ "lo".toList ∧
      isIPv4 current.ifa_addr = true ∧
      interface = interfaceInfo name current := by
  unfold interfaceOf at h
  cases hname : current.ifa_name with
  | none => rw [hname] at h; cases h
  | some name =>
      rw [hname] at h
      dsimp only at h
      split_ifs at h with hipv4 hlo hne
      exact ⟨name, rfl, hlo, by simpa using hipv4, (Option.some.inj h).symm⟩

theorem usable_iff : usable current = true ↔
    ∃ name, current.ifa_name = some name ∧ name ≠ "lo".toList ∧
      isIPv4 current.ifa_addr = true ∧ current.has IFF_UP = true := by
  unfold usable
  cases current.ifa_name with
  | none => simp
  | some name =>
      simp only [Bool.and_eq_true, decide_eq_true_eq, and_assoc,
        Option.isSome_some, true_and, ne_eq, Option.some_inj]
      constructor
      · exact fun h => ⟨name, rfl, h⟩
      · rintro ⟨_, rfl, h⟩
        exact h

theorem any_interfaceOf (h : Consistent entries) (hmem : current ∈ entries) :
    (interfaceOf current).any seekable = usable current := by
  rw [Bool.eq_iff_iff, usable_iff]
  constructor
  · intro hany
    obtain ⟨interface, hinterface, hseek⟩ :=
      (Option.any_eq_true _ _).mp hany
    obtain ⟨name, hname, hlo, hipv4, rfl⟩ := of_interfaceOf hinterface
    rw [seekable, Bool.and_eq_true, Bool.and_eq_true] at hseek
    exact ⟨name, hname, hlo, hipv4, hseek.1.1⟩
  · rintro ⟨name, hname, hlo, hipv4, hup⟩
    have hlocal : ipv4ToString current.ifa_addr ≠ "127.0.0.1".toList := by
      intro heq
      have hname' := h.loopback current hmem
        (ipv4ToString_eq_localhost_iff.mp heq)
      exact hlo (Option.some.inj (hname.symm.trans hname'))
    rw [interfaceOf_eq hname hipv4 hlo, Option.any_some, seekable,
      Bool.and_eq_true, Bool.and_eq_true]
    exact ⟨⟨hup, decide_eq_true (ipv4ToString_ne_nil hipv4)⟩,
      decide_eq_true hlocal⟩

theorem detectFrom_cons (fallback : Str) :
    detectFrom fallback (current :: entries) =
      if usable current then
        if current.has IFF_RUNNING then current.ifa_name.getD []
        else
          detectFrom (if fallback = [] then current.ifa_name.getD []
            else fallback) entries
      else detectFrom fallback entries := by
  rw [detectFrom]
  unfold usable
  cases current.ifa_name with
  | none => simp
  | some name =>
      cases isIPv4 current.ifa_addr with
      | false => simp
      | true =>
          by_cases hlo : name = "lo".toList
          · simp [hlo]
          · cases current.has IFF_UP <;> simp

theorem detectFrom_eq (hnamed : ∀ current ∈ entries,
      current.ifa_name ≠ some []) (fallback : Str) :
    detectFrom fallback entries =
      match entries.find? fun current =>
          usable current && current.has IFF_RUNNING with
      | some current => current.ifa_name.getD []
      | none =>
          if fallback ≠ [] then fallback
          else (entries.find? usable).elim [] fun current =>
            current.ifa_name.getD [] := by
  induction entries generalizing fallback with
  | nil => cases fallback <;> rfl
  | cons current entries ih =>
      have ih := ih fun other hother =>
        hnamed other (List.mem_cons_of_mem current hother)
      rw [detectFrom_cons]
      cases husable : usable current with
      | false => simpa [husable] using ih fallback
      | true =>
          cases hruns : current.has IFF_RUNNING with
          | true => simp [husable, hruns]
          | false =>
              have hne : current.ifa_name.getD [] ≠ [] := by
                have hname := hnamed current List.mem_cons_self
                cases hcurrent : current.ifa_name with
                | none => simp [usable, hcurrent] at husable
                | some name => simpa [hcurrent] using hname
              by_cases hfallback : fallback = []
              · simp [husable, hruns, hfallback, ih, hne]
              · simp [husable, hruns, hfallback, ih]

/-- An entry with the name of an interface that is up is itself usable if it
has an IPv4 address. -/
theorem usable_of_name_eq (h : Consistent entries) {other : Ifaddrs}
    (hmem : current ∈ entries) (hother : other ∈ entries)
    (husable : usable current = true)
    (hname : other.ifa_name = current.ifa_name)
    (hipv4 : isIPv4 other.ifa_addr = true) : usable other = true := by
  obtain ⟨name, hcurrent, hlo, -, hup⟩ := usable_iff.mp husable
  refine usable_iff.mpr ⟨name, hname.trans hcurrent, hlo, hipv4, ?_⟩
  rwa [Ifaddrs.has, h.flags other hother current hmem hname]

theorem exists_interface (h : Consistent entries) (hmem : current ∈ entries)
    (husable : usable current = true) :
    ∃ interface ∈ getNetworkInterfaces (some entries), interface.up = true ∧
      interface.name = current.ifa_name.getD [] ∧
      interface.ipv4Address =
        getIPv4Address (some entries) (current.ifa_name.getD []) := by
  obtain ⟨name, hname, -, hipv4, -⟩ := usable_iff.mp husable
  have hfound : (entries.find? fun other => other.ifa_name = some name &&
      isIPv4 other.ifa_addr).isSome = true :=
    List.find?_isSome.mpr ⟨current, hmem, by simp [hname, hipv4]⟩
  obtain ⟨other, hfind⟩ := Option.isSome_iff_exists.mp hfound
  have hother := List.mem_of_find?_eq_some hfind
  have hsame := List.find?_some hfind
  rw [Bool.and_eq_true, decide_eq_true_eq] at hsame
  have husable' := usable_of_name_eq h hmem hother husable
    (hsame.1.trans hname.symm) hsame.2
  obtain ⟨name', hname', hlo, hipv4', hup⟩ := usable_iff.mp husable'
  obtain rfl : name = name' := Option.some.inj (hsame.1.symm.trans hname')
  refine ⟨interfaceInfo name other, List.mem_filterMap.mpr
    ⟨other, hother, interfaceOf_eq hname' hipv4' hlo⟩, hup, ?_, ?_⟩
  · rw [hname, Option.getD_some]
    rfl
  · rw [getIPv4Address, hname, Option.getD_some, Option.getD_some, hfind]
    rfl

theorem getIPv4Address_first (h : Consistent entries)
    (hfirst : entries.find? usable = some current) :
    getIPv4Address (some entries) (current.ifa_name.getD []) =
      ipv4ToString current.ifa_addr := by
  have hmem := List.mem_of_find?_eq_some hfirst
  have husable := List.find?_some hfirst
  obtain ⟨name, hname, -, hipv4, -⟩ := usable_iff.mp husable
  have hfind : (entries.find? fun other => other.ifa_name = some name &&
      isIPv4 other.ifa_addr) = some current := by
    obtain ⟨-, before, behind, hsplit, hbefore⟩ :=
      List.find?_eq_some_iff_append.mp hfirst
    refine List.find?_eq_some_iff_append.mpr
      ⟨by simp [hname, hipv4], before, behind, hsplit, ?_⟩
    intro other hother
    by_contra hsame
    simp only [Bool.not_eq_true', Bool.not_eq_false, Bool.and_eq_true,
      decide_eq_true_eq] at hsame
    have husable' := usable_of_name_eq h hmem
      (hsplit ▸ List.mem_append_left _ hother) husable
      (hsame.1.trans hname.symm) hsame.2
    exact absurd husable' (by simpa using hbefore other hother)
  rw [getIPv4Address, hname, Option.getD_some, Option.getD_some, hfind]

theorem detectLocalNetwork_eq (h : Consistent entries) :
    detectLocalNetwork (getNetworkInterfaces (some entries)) =
      ((entries.find? usable).bind interfaceOf).elim {} localNetworkOf :=
  detectLocalNetwork_filterMap fun _ hmem => any_interfaceOf h hmem

theorem exists_detected (h : Consistent entries)
    (hfirst : entries.find? usable = some current) :
    ∃ monitored ∈ entries, usable monitored = true ∧
      detectActiveInterface (some entries) = monitored.ifa_name.getD [] ∧
      (monitored.ifa_name = current.ifa_name ↔ RunsFirst entries) := by
  have hmem := List.mem_of_find?_eq_some hfirst
  have husable := List.find?_some hfirst
  rw [detectActiveInterface, Option.getD_some, detectFrom_eq h.named]
  cases hruns : entries.find? fun current =>
      usable current && current.has IFF_RUNNING with
  | none =>
      refine ⟨current, hmem, husable, by simp [hfirst], iff_of_true rfl ?_⟩
      refine fun _ _ => .inr fun other hother husable' => ?_
      have hnot := List.find?_eq_none.mp hruns other hother
      simpa [husable'] using hnot
  | some monitored =>
      have hmonitored := List.find?_some hruns
      rw [Bool.and_eq_true] at hmonitored
      have hmem' := List.mem_of_find?_eq_some hruns
      refine ⟨monitored, hmem', hmonitored.1, rfl, ?_⟩
      constructor
      · intro hname first hfirst'
        obtain rfl : current = first :=
          Option.some.inj (hfirst.symm.trans hfirst')
        refine .inl ?_
        rw [Ifaddrs.has, ← h.flags monitored hmem' current hmem hname]
        exact hmonitored.2
      · intro hrunsFirst
        rcases hrunsFirst current hfirst with hcurrent | hnone
        · obtain ⟨-, before, behind, hsplit, hbefore⟩ :=
            List.find?_eq_some_iff_append.mp hfirst
          have hfound : (entries.find? fun current =>
              usable current && current.has IFF_RUNNING) = some current :=
            List.find?_eq_some_iff_append.mpr ⟨by simp [husable, hcurrent],
              before, behind, hsplit, fun other hother => by
                have hskipped := hbefore other hother
                rw [Bool.not_eq_true'] at hskipped
                simp [hskipped]⟩
          rw [Option.some.inj (hruns.symm.trans hfound)]
        · rw [hnone monitored hmem' hmonitored.1] at hmonitored
          exact absurd hmonitored.2 (by simp)

theorem getNetworkStatus_ipv4Address (files : Str → Option Str)
    {interfaceName : Str} (hne : interfaceName ≠ []) :
    (readStats (getNetworkStatus files (some entries)
      interfaceName)).ipv4Address =
        getIPv4Address (some entries) interfaceName := by
  rw [getNetworkStatus, if_neg hne]
  rfl

/-- The monitor finds an interface when ip|:seek does, and shows the address of
one that is listed as up; it is the same interface exactly if the first one
runs or none does. -/
theorem monitored_iff (h : Consistent entries) (files : Str → Option Str) :
    let interfaces := getNetworkInterfaces (some entries)
    let network := detectLocalNetwork interfaces
    let monitored := detectActiveInterface (some entries)
    let initial := readStats (getNetworkStatus files (some entries) monitored)
    (monitored = [] ↔ network.ip = []) ∧
      (monitored ≠ [] → ∃ interface ∈ interfaces, interface.up = true ∧
        interface.name = monitored ∧
        interface.ipv4Address = initial.ipv4Address) ∧
      (monitored = network.interfaceName ↔ RunsFirst entries) ∧
      (RunsFirst entries → initial.ipv4Address = network.ip) := by
  dsimp only
  rw [detectLocalNetwork_eq h]
  cases hfirst : entries.find? usable with
  | none =>
      have hnone : detectActiveInterface (some entries) = [] := by
        have hruns : (entries.find? fun current =>
            usable current && current.has IFF_RUNNING) = none :=
          List.find?_eq_none.mpr fun current hmem => by
            simp [List.find?_eq_none.mp hfirst current hmem]
        rw [detectActiveInterface, Option.getD_some, detectFrom_eq h.named,
          hruns, hfirst]
        rfl
      rw [hnone]
      refine ⟨iff_of_true rfl rfl, absurd rfl, iff_of_true rfl ?_,
        fun _ => rfl⟩
      intro current hcurrent
      cases hfirst.symm.trans hcurrent
  | some current =>
      obtain ⟨monitored, hmem, husable, hdetect, hname⟩ :=
        exists_detected h hfirst
      obtain ⟨name, hmonitored, -⟩ := usable_iff.mp husable
      obtain ⟨first, hcurrent, hlo, hipv4, -⟩ :=
        usable_iff.mp (List.find?_some hfirst)
      have hne : monitored.ifa_name.getD [] ≠ [] := by
        have hnamed := h.named monitored hmem
        rw [hmonitored] at hnamed ⊢
        exact fun hnil => hnamed (congrArg some hnil)
      rw [Option.bind_some, interfaceOf_eq hcurrent hipv4 hlo,
        Option.elim_some, hdetect, getNetworkStatus_ipv4Address files hne]
      refine ⟨iff_of_false hne (ipv4ToString_ne_nil hipv4), fun _ => ?_, ?_,
        fun hruns => ?_⟩
      · obtain ⟨interface, hlisted, hup, hsame, haddress⟩ :=
          exists_interface h hmem husable
        exact ⟨interface, hlisted, hup, hsame, haddress⟩
      · rw [← hname, hmonitored, hcurrent, Option.some_inj]
        rfl
      · rw [hname.mpr hruns]
        exact getIPv4Address_first h hfirst

def idleCable : List Ifaddrs :=
  [⟨some "lo".toList, some ⟨AF_INET, localhost⟩, none,
      IFF_UP ||| IFF_LOOPBACK ||| IFF_RUNNING⟩,
    ⟨some "eth0".toList, some ⟨AF_INET, ofOctets 10 0 0 5⟩, none, IFF_UP⟩,
    ⟨some "wlan0".toList, some ⟨AF_INET, ofOctets 192 168 1 7⟩, none,
      IFF_UP ||| IFF_RUNNING⟩]

/-- The monitor watches another interface than the one that is searched. -/
theorem monitored_iff_idleCable :
    detectActiveInterface (some idleCable) ≠
      (detectLocalNetwork
        (getNetworkInterfaces (some idleCable))).interfaceName := by
  have h : Consistent idleCable := ⟨by decide, by decide, by decide⟩
  intro hsame
  have hruns := ((monitored_iff h fun _ => none).2.2.1.mp hsame) _ rfl
  exact absurd hruns (by decide)

end Linux

namespace Windows

open Platform.Windows

/-! ## Windows -/

structure RowOf (adapter : AdapterAddresses) (row : IfRow) : Prop where
  name : adapter.friendlyName = some row.aliasName
  index : row.interfaceIndex = adapter.ifIndex
  up : row.operStatusUp = adapter.operStatusUp

/-- What the tables of one machine say about each other: adapters have friendly
names, which are the aliases of their rows and stand for nothing else, and the
loopback adapter is the one with the address of the loopback. -/
structure Consistent (adapters : List AdapterAddresses)
    (table : List IfRow) : Prop where
  named : ∀ adapter ∈ adapters, ∃ name,
    adapter.friendlyName = some name ∧ name ≠ []
  loopback : ∀ adapter ∈ adapters, ∀ address,
    adapter.firstIPv4 = some address →
      (adapter.softwareLoopback = true ↔
        address.lpSockaddr = some ⟨AF_INET, localhost⟩)
  index : ∀ adapter ∈ adapters, ∀ other ∈ adapters,
    adapter.ifIndex = other.ifIndex → adapter = other
  listed : ∀ adapter ∈ adapters, ∃ row ∈ table, RowOf adapter row
  rows : ∀ row ∈ table, ∀ adapter ∈ adapters,
    adapter.friendlyName = some row.aliasName ∨
      adapter.friendlyName = some row.description → RowOf adapter row

def usable (adapter : AdapterAddresses) : Bool :=
  adapter.operStatusUp && !adapter.softwareLoopback &&
    adapter.firstIPv4.isSome

variable {adapters : List AdapterAddresses} {table : List IfRow}
  {adapter : AdapterAddresses}

theorem exists_sockaddr {address : UnicastAddress}
    (haddress : adapter.firstIPv4 = some address) :
    isIPv4 address.lpSockaddr = true := by
  have hfound := List.find?_some haddress
  exact hfound

theorem interfaceOf_eq {address : UnicastAddress}
    (haddress : adapter.firstIPv4 = some address) :
    interfaceOf adapter = some (interfaceInfo adapter) := by
  refine if_pos ?_
  rw [interfaceInfo, haddress]
  exact ipv4ToString_ne_nil (exists_sockaddr haddress)

theorem any_interfaceOf (h : Consistent adapters table)
    (hmem : adapter ∈ adapters) :
    (interfaceOf adapter).any seekable = usable adapter := by
  cases haddress : adapter.firstIPv4 with
  | none =>
      have hnone : interfaceOf adapter = none := by
        refine if_neg ?_
        rw [interfaceInfo, haddress]
        exact not_not.mpr rfl
      rw [hnone, usable, haddress]
      simp
  | some address =>
      have hne := ipv4ToString_ne_nil (exists_sockaddr haddress)
      have hloop := h.loopback adapter hmem address haddress
      have hlocal : (ipv4ToString address.lpSockaddr ≠
          "127.0.0.1".toList) = (adapter.softwareLoopback = false) := by
        rw [Ne, ipv4ToString_eq_localhost_iff, ← hloop, Bool.not_eq_true]
      rw [interfaceOf_eq haddress, Option.any_some, seekable, usable,
        haddress, interfaceInfo, haddress, Option.elim_some, decide_eq_true hne,
        Bool.and_true, Option.isSome_some, Bool.and_true]
      congr 1
      simp only [hlocal]
      cases adapter.softwareLoopback <;> rfl

theorem detectLocalNetwork_eq (h : Consistent adapters table) :
    detectLocalNetwork (getNetworkInterfaces (some adapters)) =
      ((adapters.find? usable).bind interfaceOf).elim {} localNetworkOf :=
  detectLocalNetwork_filterMap fun _ hmem => any_interfaceOf h hmem

theorem activeName_eq (h : Consistent adapters table)
    (hmem : adapter ∈ adapters) :
    activeName adapter =
      if usable adapter then adapter.friendlyName else none := by
  obtain ⟨name, hname, -⟩ := h.named adapter hmem
  unfold activeName usable
  rw [hname]
  cases adapter.operStatusUp <;> cases adapter.softwareLoopback <;>
    cases adapter.firstIPv4.isSome <;> rfl

theorem detectActiveInterface_eq (h : Consistent adapters table) :
    detectActiveInterface (some adapters) =
      (adapters.find? usable).elim [] fun adapter =>
        adapter.friendlyName.getD [] := by
  have hfound : ∀ listed : List AdapterAddresses, listed ⊆ adapters →
      listed.findSome? activeName =
        (listed.find? usable).bind AdapterAddresses.friendlyName := by
    intro listed hsubset
    induction listed with
    | nil => rfl
    | cons adapter listed ih =>
        obtain ⟨hmem, hrest⟩ := List.cons_subset.mp hsubset
        obtain ⟨name, hname, -⟩ := h.named adapter hmem
        rw [List.findSome?_cons, activeName_eq h hmem, ih hrest]
        cases husable : usable adapter <;> simp [husable, hname]
  rw [detectActiveInterface, Option.getD_some,
    hfound adapters (List.Subset.refl _)]
  cases adapters.find? usable <;> rfl

theorem localAddress_readAdapter (info : Platform.LocalTopologyInfo) :
    (readAdapter adapter info).localAddress =
      adapter.firstIPv4.elim info.localAddress fun address =>
        ipv4ToString address.lpSockaddr := by
  unfold readAdapter
  cases adapter.friendlyName <;> cases adapter.firstIPv4 <;>
    cases adapter.firstGatewayAddress <;> dsimp only <;>
    first | rfl | split <;> rfl

theorem interfaceName_readAdapter (info : Platform.LocalTopologyInfo) :
    (readAdapter adapter info).interfaceName =
      adapter.friendlyName.getD info.interfaceName := by
  unfold readAdapter
  cases adapter.friendlyName <;> cases adapter.firstIPv4 <;>
    cases adapter.firstGatewayAddress <;> dsimp only <;>
    first | rfl | split <;> rfl

theorem readAdapters_eq (listed : List AdapterAddresses)
    {info : Platform.LocalTopologyInfo} (hinfo : info.localAddress = []) :
    match listed.find? usable with
    | none => (readAdapters info listed).localAddress = []
    | some adapter =>
        (readAdapters info listed).localAddress =
          (interfaceInfo adapter).ipv4Address ∧
        ∀ name, adapter.friendlyName = some name →
          (readAdapters info listed).interfaceName = name := by
  induction listed generalizing info with
  | nil => exact hinfo
  | cons adapter listed ih =>
      rw [readAdapters]
      cases hup : adapter.operStatusUp with
      | false => simpa [usable, hup] using ih hinfo
      | true =>
          cases hloop : adapter.softwareLoopback with
          | true => simpa [usable, hup, hloop] using ih hinfo
          | false =>
              have hlocal := @localAddress_readAdapter adapter info
              cases haddress : adapter.firstIPv4 with
              | none =>
                  rw [haddress, Option.elim_none, hinfo] at hlocal
                  simpa [usable, hup, hloop, haddress, hlocal] using ih hlocal
              | some address =>
                  rw [haddress, Option.elim_some] at hlocal
                  have hne := ipv4ToString_ne_nil (exists_sockaddr haddress)
                  have husable : usable adapter = true := by
                    simp [usable, hup, hloop, haddress]
                  rw [List.find?_cons_of_pos husable, if_neg (by simp),
                    if_neg (by simp)]
                  dsimp only
                  rw [if_pos (hlocal ▸ hne), interfaceInfo, haddress]
                  refine ⟨hlocal, fun name hname => ?_⟩
                  rw [interfaceName_readAdapter, hname, Option.getD_some]

theorem addressOfIndex_eq (h : Consistent adapters table)
    (hmem : adapter ∈ adapters) {address : UnicastAddress}
    (haddress : adapter.firstIPv4 = some address) :
    addressOfIndex adapter.ifIndex adapters =
      ipv4ToString address.lpSockaddr := by
  have hlooked : (adapter.firstUnicastAddress.map fun address =>
      ipv4ToString address.lpSockaddr).find? (fun ipv4 => ipv4 ≠ []) =
        some (ipv4ToString address.lpSockaddr) := by
    have hsame : ∀ other ∈ adapter.firstUnicastAddress,
        ((fun ipv4 : Str => decide (ipv4 ≠ [])) ∘
          fun other : UnicastAddress => ipv4ToString other.lpSockaddr) other =
            isIPv4 other.lpSockaddr := by
      intro other _
      cases hipv4 : isIPv4 other.lpSockaddr with
      | false => simp [ipv4ToString_eq_nil_iff.mpr hipv4]
      | true => simp [ipv4ToString_ne_nil hipv4]
    rw [List.find?_map, List.find?_congr hsame]
    exact congrArg (Option.map _) haddress
  have hlisted : ∀ listed : List AdapterAddresses, listed ⊆ adapters →
      adapter ∈ listed → addressOfIndex adapter.ifIndex listed =
        ipv4ToString address.lpSockaddr := by
    intro listed hsubset hin
    induction listed with
    | nil => cases hin
    | cons other listed ih =>
        obtain ⟨hother, hrest⟩ := List.cons_subset.mp hsubset
        rw [addressOfIndex]
        by_cases hindex : other.ifIndex = adapter.ifIndex
        · rw [if_neg (not_not.mpr hindex),
            h.index other hother adapter hmem hindex, hlooked]
        · rw [if_pos hindex]
          refine ih hrest ((List.mem_cons.mp hin).resolve_left ?_)
          rintro rfl
          exact hindex rfl
  exact hlisted adapters (List.Subset.refl _) hmem

theorem getNetworkStatus_of_usable (h : Consistent adapters table)
    (hmem : adapter ∈ adapters) {name : Str}
    (hname : adapter.friendlyName = some name) :
    (getNetworkStatus (some table) (some adapters) name).ipv4Address =
        addressOfIndex adapter.ifIndex adapters ∧
      (getNetworkStatus (some table) (some adapters) name).up =
        adapter.operStatusUp := by
  obtain ⟨row, hrow, hof⟩ := h.listed adapter hmem
  have hfound : (table.find? fun row =>
      name = row.aliasName || name = row.description).isSome = true :=
    List.find?_isSome.mpr ⟨row, hrow, by
      simp [Option.some.inj (hname.symm.trans hof.name)]⟩
  obtain ⟨other, hfind⟩ := Option.isSome_iff_exists.mp hfound
  have hother := List.mem_of_find?_eq_some hfind
  have hnames := List.find?_some hfind
  rw [Bool.or_eq_true, decide_eq_true_eq, decide_eq_true_eq] at hnames
  have hof := h.rows other hother adapter hmem (hnames.imp
    (fun heq => hname.trans (congrArg some heq))
    (fun heq => hname.trans (congrArg some heq)))
  rw [getNetworkStatus, Option.getD_some, hfind]
  exact ⟨congrArg (addressOfIndex · adapters) hof.index, hof.up⟩

/-- The three commands work on one interface, and the monitor shows the address
that is searched around. -/
theorem sameInterface (h : Consistent adapters table) :
    let network := detectLocalNetwork (getNetworkInterfaces (some adapters))
    let monitored := detectActiveInterface (some adapters)
    let initial := readStats
      (getNetworkStatus (some table) (some adapters) monitored)
    let route := Windows.getLocalTopologyInfo (some adapters)
    monitored = network.interfaceName ∧
      route.localAddress = network.ip ∧
      (monitored = [] ↔ network.ip = []) ∧
      (monitored ≠ [] → route.interfaceName = monitored ∧
        initial.up = true ∧ initial.ipv4Address = network.ip) := by
  dsimp only
  have hroute := @readAdapters_eq adapters {} rfl
  rw [detectLocalNetwork_eq h, detectActiveInterface_eq h,
    Windows.getLocalTopologyInfo, Option.getD_some]
  cases hfirst : adapters.find? usable with
  | none =>
      rw [hfirst] at hroute
      exact ⟨rfl, hroute, iff_of_true rfl rfl, absurd rfl⟩
  | some adapter =>
      rw [hfirst] at hroute
      have hmem := List.mem_of_find?_eq_some hfirst
      have husable := List.find?_some hfirst
      rw [usable, Bool.and_eq_true, Bool.and_eq_true] at husable
      obtain ⟨⟨hup, -⟩, hipv4⟩ := husable
      obtain ⟨address, haddress⟩ := Option.isSome_iff_exists.mp hipv4
      obtain ⟨name, hname, hne⟩ := h.named adapter hmem
      have hlocal : (interfaceInfo adapter).ipv4Address =
          ipv4ToString address.lpSockaddr := by
        rw [interfaceInfo, haddress]
        rfl
      obtain ⟨hshown, hrowUp⟩ := getNetworkStatus_of_usable h hmem hname
      rw [Option.bind_some, interfaceOf_eq haddress, Option.elim_some,
        Option.elim_some, hname, Option.getD_some]
      have hnetwork : (localNetworkOf (interfaceInfo adapter)).interfaceName =
          name := by
        rw [localNetworkOf, interfaceInfo, hname]
        rfl
      refine ⟨hnetwork.symm, hroute.1, iff_of_false hne ?_, fun _ =>
        ⟨hroute.2 name hname, hrowUp.trans hup, ?_⟩⟩
      · change (interfaceInfo adapter).ipv4Address ≠ []
        rw [hlocal]
        exact ipv4ToString_ne_nil (exists_sockaddr haddress)
      · change (getNetworkStatus _ _ name).ipv4Address =
          (interfaceInfo adapter).ipv4Address
        rw [hshown, hlocal, addressOfIndex_eq h hmem haddress]

def adapterNamed (name : String) (index : UInt32) (address : UInt32) :
    AdapterAddresses where
  ifIndex := index
  friendlyName := some name.toList
  description := none
  operStatusUp := true
  softwareLoopback := address = localhost
  physicalAddress := []
  firstUnicastAddress := [⟨some ⟨AF_INET, address⟩, 24⟩]
  firstGatewayAddress := []

def rowNamed (name : String) (index : UInt32) : IfRow :=
  ⟨name.toList, [], index, true, 0, 0, 0, 0, 0, 0, 0, 0, 0, 0⟩

theorem sameInterface_ethernet :
    let adapters := [adapterNamed "Loopback" 1 localhost,
      adapterNamed "Ethernet" 12 (ofOctets 10 0 0 5)]
    let table := [rowNamed "Loopback" 1, rowNamed "Ethernet" 12]
    (readStats (getNetworkStatus (some table) (some adapters)
      (detectActiveInterface (some adapters)))).ipv4Address =
        (detectLocalNetwork (getNetworkInterfaces (some adapters))).ip := by
  intro adapters table
  have h : Consistent adapters table := by
    refine ⟨?_, ?_, by decide, ?_, ?_⟩
    · simp only [adapters, List.forall_mem_cons]
      exact ⟨⟨_, rfl, by decide⟩, ⟨_, rfl, by decide⟩, by simp⟩
    · simp only [adapters, List.forall_mem_cons]
      refine ⟨?_, ?_, by simp⟩
      · rintro _ ⟨⟩
        decide
      · rintro _ ⟨⟩
        decide
    · simp only [adapters, List.forall_mem_cons]
      exact ⟨⟨rowNamed "Loopback" 1, by decide, rfl, rfl, rfl⟩,
        ⟨rowNamed "Ethernet" 12, by decide, rfl, rfl, rfl⟩, by simp⟩
    · simp only [adapters, table, List.forall_mem_cons]
      refine ⟨⟨fun _ => ⟨rfl, rfl, rfl⟩, fun hname => ?_, by simp⟩,
        ⟨fun hname => ?_, fun _ => ⟨rfl, rfl, rfl⟩, by simp⟩, by simp⟩
      · exact absurd hname (by decide)
      · exact absurd hname (by decide)
  exact ((sameInterface h).2.2.2 (by decide)).2.2

end Windows

end SlipNet.Cli
