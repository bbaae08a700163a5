import SlipNet.Core.NetworkState
import SlipNet.Standard.Integers

/-!
# Network discovery

`NetworkDiscovery::discover` clears the network state, pings the 254 addresses
of the local `/24` in batches, and stores the hosts that answered.  What the
machine, the network and the user do meanwhile is a parameter.
-/

namespace SlipNet.Network

open SlipNet.Foundation
open SlipNet.Standard
open SlipNet.Core

structure NetworkInterfaceInfo where
  name : Str := []
  description : Str := []
  ipv4Address : Str := []
  netmask : Str := []
  macAddress : Str := []
  up : Bool := false
  deriving DecidableEq, Repr

structure PingResult where
  reachable : Bool := false
  latencyMs : Double := .zero
  deriving DecidableEq, Repr

/-! ## Addresses -/

/-- `stream >> value` for a `uint32_t`, with the text left behind it. -/
def extractUInt32 (stream : Str) : Option (UInt32 × Str) := do
  let scanned ← scanInteger stream
  if scanned.magnitude < 2 ^ 32 then
    some (if scanned.negative then 0 - UInt32.ofNat scanned.magnitude
      else UInt32.ofNat scanned.magnitude, stream.drop scanned.consumed)
  else none

/-- `stream >> c` for a `char`. -/
def extractChar (stream : Str) : Option (Char × Str) :=
  match stream.dropWhile isspace with
  | [] => none
  | c :: rest => some (c, rest)

def ipToInteger (ip : Str) : UInt32 :=
  let fields := do
    let (a, stream) ← extractUInt32 ip
    let (dot1, stream) ← extractChar stream
    let (b, stream) ← extractUInt32 stream
    let (dot2, stream) ← extractChar stream
    let (c, stream) ← extractUInt32 stream
    let (dot3, stream) ← extractChar stream
    let (d, _) ← extractUInt32 stream
    return (a, b, c, d, dot1, dot2, dot3)
  match fields with
  | none => 0
  | some (a, b, c, d, dot1, dot2, dot3) =>
      if dot1 ≠ '.' ∨ dot2 ≠ '.' ∨ dot3 ≠ '.' then 0
      else if a > 255 ∨ b > 255 ∨ c > 255 ∨ d > 255 then 0
      else a <<< 24 ||| b <<< 16 ||| c <<< 8 ||| d

def integerToIP (value : UInt32) : Str :=
  decimal ((value >>> 24) &&& 0xFF).toNat ++ ".".toList ++
    decimal ((value >>> 16) &&& 0xFF).toNat ++ ".".toList ++
    decimal ((value >>> 8) &&& 0xFF).toNat ++ ".".toList ++
    decimal (value &&& 0xFF).toNat

def calculateNetworkAddress (ip : Str) : Str :=
  integerToIP (ipToInteger ip &&& 0xFFFFFF00)

structure LocalNetwork where
  interfaceName : Str := []
  ip : Str := []
  netmask : Str := []
  network : Str := []
  prefixLength : Int := 24
  deriving DecidableEq, Repr

def detectLocalNetwork (interfaces : List NetworkInterfaceInfo) :
    LocalNetwork :=
  match interfaces.find? fun interface =>
      interface.up && interface.ipv4Address ≠ [] &&
        interface.ipv4Address ≠ "127.0.0.1".toList with
  | none => {}
  | some interface =>
      { interfaceName := interface.name
        ip := interface.ipv4Address
        netmask := interface.netmask
        prefixLength := 24
        network := calculateNetworkAddress interface.ipv4Address }

/-- The loop from `firstHost` to `lastHost`.  The last octet of `lastHost` is
254, so the counter does not wrap around. -/
def generateAddresses (firstHost lastHost : UInt32) : List Str :=
  (List.range' firstHost.toNat (lastHost.toNat + 1 - firstHost.toNat)).map
    fun current => integerToIP (UInt32.ofNat current)

/-! ## Probing -/

def TOTAL_ADDRESSES : Nat := 254

def MAX_CONCURRENT : Nat := 32

/-- The variables of the scanning loop; a task is the answer its future
holds. -/
structure Probing where
  tasks : List PingResult
  completed : Nat
  online : List Bool
  latencies : List Double
  deriving DecidableEq, Repr

/-- `entries[i] = values[0]`, `entries[i + 1] = values[1]`, and so on. -/
def assignFrom {α : Type} (i : Nat) : List α → List α → List α
  | [], entries => entries
  | value :: values, entries =>
      assignFrom (i + 1) values (entries.set i value)

def Probing.collect (probing : Probing) : Probing where
  tasks := []
  completed := probing.completed + probing.tasks.length
  online := assignFrom probing.completed
    (probing.tasks.map PingResult.reachable) probing.online
  latencies := assignFrom probing.completed
    (probing.tasks.map PingResult.latencyMs) probing.latencies

def Probing.start : Probing where
  tasks := []
  completed := 0
  online := List.replicate TOTAL_ADDRESSES false
  latencies := List.replicate TOTAL_ADDRESSES .zero

def Probing.launch (task : PingResult) (probing : Probing) : Probing :=
  let launched := { probing with tasks := probing.tasks ++ [task] }
  if MAX_CONCURRENT ≤ launched.tasks.length then launched.collect
  else launched

/-- The loop over the addresses from index `i` on; `none` if the stop flag is
seen. -/
def probeFrom (stopRequested : Nat → Bool) (pingHost : Str → PingResult)
    (i : Nat) (probing : Probing) : List Str → Option Probing
  | [] => some probing
  | address :: addresses =>
      if stopRequested i then none
      else
        probeFrom stopRequested pingHost (i + 1)
          (probing.launch (pingHost address)) addresses

/-- The interfaces of the machine, the answers of the network, and whether the
stop flag is up when the loop reaches an index. -/
structure Surroundings where
  interfaces : List NetworkInterfaceInfo
  pingHost : Str → PingResult
  stopRequested : Nat → Bool

def onlineHost (address : Str) (latency : Double) : HostInfo where
  ip := address
  online := true
  latency_ms := latency
  status := "ONLINE".toList

def storeOnline (state : NetworkState) :
    List (Str × Bool × Double) → NetworkState
  | [] => state
  | (address, online, latency) :: entries =>
      storeOnline
        (if online then state.addHost (onlineHost address latency) else state)
        entries

/-- The return value and the state left behind. -/
def discover (surroundings : Surroundings) (state : NetworkState) :
    Bool × NetworkState :=
  let cleared := state.clear
  let network := detectLocalNetwork surroundings.interfaces
  if network.ip = [] then (false, cleared)
  else
    let networkValue := ipToInteger network.network
    let addresses := generateAddresses (networkValue + 1) (networkValue + 254)
    match probeFrom surroundings.stopRequested surroundings.pingHost 0
        .start addresses with
    | none => (false, cleared)
    | some probing =>
        let answers := probing.collect
        (true, storeOnline cleared
          (addresses.zip (answers.online.zip answers.latencies)))

/-! ## What a discovery leaves behind -/

variable {state : NetworkState}

theorem getPorts_storeOnline (entries : List (Str × Bool × Double)) :
    (storeOnline state entries).getPorts = state.getPorts := by
  induction entries generalizing state with
  | nil => rfl
  | cons entry entries ih =>
      rw [storeOnline, ih]
      split <;> rfl

theorem getServices_storeOnline (entries : List (Str × Bool × Double)) :
    (storeOnline state entries).getServices = state.getServices := by
  induction entries generalizing state with
  | nil => rfl
  | cons entry entries ih =>
      rw [storeOnline, ih]
      split <;> rfl

theorem wellKeyed_storeOnline (h : state.WellKeyed)
    (entries : List (Str × Bool × Double)) :
    (storeOnline state entries).WellKeyed := by
  induction entries generalizing state with
  | nil => exact h
  | cons entry entries ih =>
      rw [storeOnline]
      split
      · exact ih (h.addHost _)
      · exact ih h

/-- A discovery clears the state and stores hosts, whatever happens. -/
theorem discover_cases (surroundings : Surroundings) (state : NetworkState) :
    ∃ entries, (discover surroundings state).2 =
      storeOnline state.clear entries := by
  unfold discover
  dsimp only
  split
  · exact ⟨[], rfl⟩
  · split
    · exact ⟨[], rfl⟩
    · exact ⟨_, rfl⟩

variable (surroundings : Surroundings)

theorem getPorts_discover (ip : Str) :
    (discover surroundings state).2.getPorts ip = [] := by
  obtain ⟨entries, hentries⟩ := discover_cases surroundings state
  rw [hentries, getPorts_storeOnline]
  rfl

theorem getServices_discover :
    (discover surroundings state).2.getServices = [] := by
  obtain ⟨entries, hentries⟩ := discover_cases surroundings state
  rw [hentries, getServices_storeOnline]
  rfl

theorem wellKeyed_discover : (discover surroundings state).2.WellKeyed := by
  obtain ⟨entries, hentries⟩ := discover_cases surroundings state
  rw [hentries]
  exact wellKeyed_storeOnline .empty entries

end SlipNet.Network
