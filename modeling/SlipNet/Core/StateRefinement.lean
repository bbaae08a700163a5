import SlipNet.Core.NetworkState
import Mathlib.Data.List.DropRight

/-!
# The network state as three finite maps

The abstract state is three partial functions, updated pointwise.  Reading the
tables of a `NetworkState` as such functions is a simulation, and the tables
list the stored records in the order of their keys' first insertion since the
last `clear`.
-/

namespace SlipNet.Core

open SlipNet.Foundation
open SlipNet.Standard

/-! ## Finite maps -/

structure Maps where
  hosts : Str → Option HostInfo
  ports : Str × Int → Option PortInfo
  services : Str × Int → Option ServiceInfo

namespace Maps

def empty : Maps := ⟨fun _ => none, fun _ => none, fun _ => none⟩

def apply (maps : Maps) : Operation → Maps
  | .clear => empty
  | .addHost host =>
      { maps with hosts := Function.update maps.hosts host.ip (some host) }
  | .addPort ip port =>
      { maps with
        ports := Function.update maps.ports (ip, port.port) (some port) }
  | .addService service =>
      { maps with
        services :=
          Function.update maps.services service.endpoint (some service) }

def run (operations : List Operation) : Maps :=
  operations.foldl apply empty

end Maps

namespace NetworkState

def maps (state : NetworkState) : Maps where
  hosts ip := lookup HostInfo.ip ip state.getHosts
  ports key := lookup PortInfo.port key.2 (state.getPorts key.1)
  services key := lookup ServiceInfo.endpoint key state.getServices

theorem lookup_put_eq_update {α κ : Type*} [DecidableEq κ] {key : α → κ}
    (x : α) (entries : List α) :
    (fun k => lookup key k (put key x entries)) =
      Function.update (fun k => lookup key k entries) (key x) (some x) := by
  funext k
  by_cases h : k = key x <;> simp [lookup_put, h]

theorem maps_addPort (state : NetworkState) (ip : Str) (port : PortInfo) :
    (state.addPort ip port).maps.ports =
      Function.update state.maps.ports (ip, port.port) (some port) := by
  funext ⟨ip', number⟩
  by_cases hip : ip' = ip
  · subst hip
    by_cases hnumber : number = port.port
    · simp [maps, getPorts_addPort_self, lookup_put, hnumber]
    · simp [maps, getPorts_addPort_self, lookup_put, hnumber]
  · simp [maps, getPorts_addPort_of_ne, hip]

theorem maps_apply (state : NetworkState) (operation : Operation) :
    (state.apply operation).maps = state.maps.apply operation := by
  cases operation with
  | clear => rfl
  | addHost host =>
      simp only [apply, Maps.apply, maps, getHosts_addHost,
        getPorts_addHost, getServices_addHost, lookup_put_eq_update]
  | addPort ip port =>
      have hports := maps_addPort state ip port
      simp only [maps] at hports
      simp only [apply, Maps.apply, maps, getHosts_addPort,
        getServices_addPort, hports]
  | addService service =>
      simp only [apply, Maps.apply, maps, getHosts_addService,
        getPorts_addService, getServices_addService, lookup_put_eq_update]

theorem maps_run (operations : List Operation) :
    (run operations).maps = Maps.run operations := by
  induction operations using List.reverseRecOn with
  | nil => rfl
  | append_singleton operations operation ih =>
      rw [run_append_singleton, maps_apply, ih]
      simp [Maps.run]

end NetworkState

/-! ## Order of first insertion -/

def sinceClear (operations : List Operation) : List Operation :=
  operations.rtakeWhile (· ≠ .clear)

namespace Operation

def addedHost : Operation → Option HostInfo
  | .addHost host => some host
  | _ => none

def addedPort (ip : Str) : Operation → Option PortInfo
  | .addPort ip' port => if ip' = ip then some port else none
  | _ => none

def addedService : Operation → Option ServiceInfo
  | .addService service => some service
  | _ => none

end Operation

theorem sinceClear_append_clear (operations : List Operation) :
    sinceClear (operations ++ [.clear]) = [] := by
  simp [sinceClear]

theorem sinceClear_append_of_ne (operations : List Operation)
    {operation : Operation} (h : operation ≠ .clear) :
    sinceClear (operations ++ [operation]) =
      sinceClear operations ++ [operation] := by
  simp [sinceClear, h]

/--
A table that `clear` empties and into which every other operation inserts what
`added` picks from it holds the insertions since the last `clear`.
-/
theorem table_run_eq_putAll {α κ : Type*} [DecidableEq κ] {key : α → κ}
    (table : NetworkState → List α) (added : Operation → Option α)
    (hempty : table {} = [])
    (hclear : ∀ state : NetworkState, table state.clear = [])
    (hadd : ∀ (state : NetworkState) operation, operation ≠ .clear →
      table (state.apply operation) =
        (added operation).elim (table state) (put key · (table state)))
    (operations : List Operation) :
    table (NetworkState.run operations) =
      putAll key ((sinceClear operations).filterMap added) := by
  induction operations using List.reverseRecOn with
  | nil => exact hempty
  | append_singleton operations operation ih =>
      rw [NetworkState.run_append_singleton]
      by_cases h : operation = .clear
      · subst h
        rw [sinceClear_append_clear]
        exact hclear (NetworkState.run operations)
      · rw [hadd _ _ h, ih, sinceClear_append_of_ne _ h,
          List.filterMap_append]
        cases hadded : added operation with
        | none => simp [hadded]
        | some x => simp [hadded, putAll]

namespace NetworkState

theorem getHosts_run (operations : List Operation) :
    (run operations).getHosts =
      putAll HostInfo.ip
        ((sinceClear operations).filterMap Operation.addedHost) := by
  refine table_run_eq_putAll getHosts _ rfl (fun _ => rfl) ?_ operations
  intro state operation hne
  cases operation with
  | clear => exact absurd rfl hne
  | addHost host | addPort ip port | addService service => rfl

theorem getPorts_run (operations : List Operation) (ip : Str) :
    (run operations).getPorts ip =
      putAll PortInfo.port
        ((sinceClear operations).filterMap (Operation.addedPort ip)) := by
  refine table_run_eq_putAll (fun state => state.getPorts ip) _ rfl
    (fun _ => rfl) ?_ operations
  intro state operation hne
  cases operation with
  | clear => exact absurd rfl hne
  | addHost host | addService service => rfl
  | addPort ip' port =>
      by_cases hip : ip' = ip
      · subst hip
        simp [apply, Operation.addedPort, getPorts_addPort_self]
      · simp [apply, Operation.addedPort, hip, getPorts_addPort_of_ne,
          Ne.symm hip]

theorem getServices_run (operations : List Operation) :
    (run operations).getServices =
      putAll ServiceInfo.endpoint
        ((sinceClear operations).filterMap Operation.addedService) := by
  refine table_run_eq_putAll getServices _ rfl (fun _ => rfl) ?_ operations
  intro state operation hne
  cases operation with
  | clear => exact absurd rfl hne
  | addHost host | addPort ip port | addService service => rfl

/-! ## Frames -/

/-- What an addition leaves alone: every other table, and in its own table the
record and the position of every other key. -/
def Frame (before after : NetworkState) : Operation → Prop
  | .clear => True
  | .addHost host =>
      SameExcept HostInfo.ip host.ip before.getHosts after.getHosts ∧
      after.host_ports = before.host_ports ∧
      after.getServices = before.getServices
  | .addPort ip port =>
      after.getHosts = before.getHosts ∧
      SameExcept HostPorts.ip ip before.host_ports after.host_ports ∧
      (∀ ip', ip' ≠ ip → after.getPorts ip' = before.getPorts ip') ∧
      SameExcept PortInfo.port port.port (before.getPorts ip)
        (after.getPorts ip) ∧
      after.getServices = before.getServices
  | .addService service =>
      after.getHosts = before.getHosts ∧
      after.host_ports = before.host_ports ∧
      SameExcept ServiceInfo.endpoint service.endpoint before.getServices
        after.getServices

theorem frame_apply (state : NetworkState) (operation : Operation) :
    Frame state (state.apply operation) operation := by
  cases operation with
  | clear => trivial
  | addHost host => exact ⟨sameExcept_put host state.hosts, rfl, rfl⟩
  | addPort ip port =>
      refine ⟨rfl, ?_, fun ip' h => getPorts_addPort_of_ne state ip port h,
        ?_, rfl⟩
      · exact sameExcept_alter (by rfl) (HostPorts.ip_addPort port)
          state.host_ports
      · rw [apply, getPorts_addPort_self]
        exact sameExcept_put port (state.getPorts ip)
  | addService service =>
      exact ⟨rfl, rfl, sameExcept_put service state.services⟩

/-- After any sequence of operations the tables have unique keys, they
represent the finite maps the same operations build, and each table lists, for
the keys added since the last `clear` in the order of their first insertion,
the last record added; a further addition keeps every other key in place. -/
theorem run_refines_maps (operations : List Operation) :
    (run operations).WellKeyed ∧
    (run operations).maps = Maps.run operations ∧
    (run operations).getHosts =
      history HostInfo.ip
        ((sinceClear operations).filterMap Operation.addedHost) ∧
    (∀ ip, (run operations).getPorts ip =
      history PortInfo.port
        ((sinceClear operations).filterMap (Operation.addedPort ip))) ∧
    (run operations).getServices =
      history ServiceInfo.endpoint
        ((sinceClear operations).filterMap Operation.addedService) ∧
    ∀ operation,
      Frame (run operations) ((run operations).apply operation) operation := by
  refine ⟨run_wellKeyed operations, maps_run operations, ?_, ?_, ?_,
    frame_apply _⟩
  · rw [getHosts_run, putAll_eq_history]
  · intro ip
    rw [getPorts_run, putAll_eq_history]
  · rw [getServices_run, putAll_eq_history]

end NetworkState

end SlipNet.Core
