import SlipNet.Foundation.Keyed
import SlipNet.Standard.Strings
import Mathlib.Tactic

/-!
# The shared network state

`NetworkState` holds three tables: the hosts, one port table a host and the
services.  Every table is filled by the same linear scan, which overwrites the
record stored under the new record's key or appends it.  The tables are shown
to represent three finite maps whose entries stay in the order of their first
insertion.
-/

namespace SlipNet.Core

open SlipNet.Foundation
open SlipNet.Standard

structure HostInfo where
  ip : Str
  hostname : Str := []
  online : Bool := false
  latency_ms : Double := .zero
  status : Str := []
  deriving DecidableEq, Repr

structure PortInfo where
  port : Int := 0
  isOpen : Bool := false
  protocol : Str := []
  service : Str := []
  deriving DecidableEq, Repr

structure ServiceInfo where
  ip : Str
  port : Int := 0
  protocol : Str := []
  service : Str := []
  version : Str := []
  deriving DecidableEq, Repr

structure HostPorts where
  ip : Str
  ports : List PortInfo
  deriving DecidableEq, Repr

def HostPorts.addPort (port : PortInfo) (host : HostPorts) : HostPorts :=
  { host with ports := put PortInfo.port port host.ports }

theorem HostPorts.ip_addPort {ip : Str} (port : PortInfo) (host : HostPorts)
    (h : host.ip = ip) : (host.addPort port).ip = ip := h

structure NetworkState where
  hosts : List HostInfo := []
  host_ports : List HostPorts := []
  services : List ServiceInfo := []
  deriving DecidableEq, Repr

/-- The pair `addService` compares. -/
def ServiceInfo.endpoint (service : ServiceInfo) : Str × Int :=
  (service.ip, service.port)

namespace NetworkState

def clear (_ : NetworkState) : NetworkState := {}

def addHost (state : NetworkState) (host : HostInfo) : NetworkState :=
  { state with hosts := put HostInfo.ip host state.hosts }

def getHosts (state : NetworkState) : List HostInfo := state.hosts

def getHostCount (state : NetworkState) : Nat := state.hosts.length

def getOnlineHostCount (state : NetworkState) : Nat :=
  state.hosts.countP HostInfo.online

def addPort (state : NetworkState) (ip : Str) (port : PortInfo) :
    NetworkState :=
  { state with
    host_ports := alter HostPorts.ip ip (HostPorts.addPort port)
      { ip := ip, ports := [port] } state.host_ports }

def getPorts (state : NetworkState) (ip : Str) : List PortInfo :=
  match lookup HostPorts.ip ip state.host_ports with
  | some host => host.ports
  | none => []

def addService (state : NetworkState) (service : ServiceInfo) :
    NetworkState :=
  { state with
    services := put ServiceInfo.endpoint service state.services }

def getServices (state : NetworkState) : List ServiceInfo := state.services

/-! ## Field lemmas -/

variable (state : NetworkState) (host : HostInfo) (ip : Str)
  (port : PortInfo) (service : ServiceInfo)

@[simp] theorem getHosts_clear : state.clear.getHosts = [] := rfl

@[simp] theorem getPorts_clear : state.clear.getPorts ip = [] := rfl

@[simp] theorem getServices_clear : state.clear.getServices = [] := rfl

@[simp] theorem getHosts_addHost : (state.addHost host).getHosts =
    put HostInfo.ip host state.getHosts := rfl

@[simp] theorem getPorts_addHost :
    (state.addHost host).getPorts = state.getPorts := rfl

@[simp] theorem getServices_addHost :
    (state.addHost host).getServices = state.getServices := rfl

@[simp] theorem getHosts_addPort :
    (state.addPort ip port).getHosts = state.getHosts := rfl

@[simp] theorem getServices_addPort :
    (state.addPort ip port).getServices = state.getServices := rfl

@[simp] theorem getHosts_addService :
    (state.addService service).getHosts = state.getHosts := rfl

@[simp] theorem getPorts_addService :
    (state.addService service).getPorts = state.getPorts := rfl

@[simp] theorem getServices_addService : (state.addService service).getServices =
    put ServiceInfo.endpoint service state.getServices := rfl

theorem lookup_addPort_self :
    lookup HostPorts.ip ip (state.addPort ip port).host_ports =
      some ((lookup HostPorts.ip ip state.host_ports).elim
        { ip := ip, ports := [port] } (HostPorts.addPort port)) :=
  lookup_alter_self (by rfl) (HostPorts.ip_addPort port) _

theorem lookup_addPort_of_ne {ip' : Str} (hne : ip' ≠ ip) :
    lookup HostPorts.ip ip' (state.addPort ip port).host_ports =
      lookup HostPorts.ip ip' state.host_ports :=
  lookup_alter_of_ne hne rfl (HostPorts.ip_addPort port) _

theorem getPorts_addPort_self : (state.addPort ip port).getPorts ip =
    put PortInfo.port port (state.getPorts ip) := by
  rw [getPorts, lookup_addPort_self, getPorts]
  cases lookup HostPorts.ip ip state.host_ports <;> rfl

theorem getPorts_addPort_of_ne {ip' : Str} (hne : ip' ≠ ip) :
    (state.addPort ip port).getPorts ip' = state.getPorts ip' := by
  rw [getPorts, lookup_addPort_of_ne state ip port hne, getPorts]

theorem getPorts_addPort (ip' : Str) : (state.addPort ip port).getPorts ip' =
    if ip' = ip then put PortInfo.port port (state.getPorts ip)
    else state.getPorts ip' := by
  by_cases h : ip' = ip
  · subst h
    simp [getPorts_addPort_self]
  · simp [h, getPorts_addPort_of_ne]

end NetworkState

/-! ## Unique keys -/

/-- No key occurs twice in any table, and no host has an empty port table. -/
structure NetworkState.WellKeyed (state : NetworkState) : Prop where
  hosts_nodup : (state.hosts.map HostInfo.ip).Nodup
  host_ports_nodup : (state.host_ports.map HostPorts.ip).Nodup
  ports_ne_nil : ∀ host ∈ state.host_ports, host.ports ≠ []
  ports_nodup : ∀ host ∈ state.host_ports,
    (host.ports.map PortInfo.port).Nodup
  services_nodup : (state.services.map ServiceInfo.endpoint).Nodup

namespace NetworkState.WellKeyed

variable {state : NetworkState}

theorem empty : WellKeyed {} where
  hosts_nodup := List.nodup_nil
  host_ports_nodup := List.nodup_nil
  ports_ne_nil := by simp
  ports_nodup := by simp
  services_nodup := List.nodup_nil

theorem addHost (h : state.WellKeyed) (host : HostInfo) :
    (state.addHost host).WellKeyed :=
  { h with hosts_nodup := nodup_key_put host h.hosts_nodup }

theorem addPort (h : state.WellKeyed) (ip : Str) (port : PortInfo) :
    (state.addPort ip port).WellKeyed where
  hosts_nodup := h.hosts_nodup
  host_ports_nodup := nodup_key_alter (by rfl) (HostPorts.ip_addPort port)
    h.host_ports_nodup
  ports_ne_nil := by
    intro host hmem
    rcases mem_alter hmem with rfl | hold | ⟨old, -, -, rfl⟩
    · simp
    · exact h.ports_ne_nil host hold
    · exact List.ne_nil_of_mem (mem_put_self port old.ports)
  ports_nodup := by
    intro host hmem
    rcases mem_alter hmem with rfl | hold | ⟨old, hold, -, rfl⟩
    · simp
    · exact h.ports_nodup host hold
    · exact nodup_key_put port (h.ports_nodup old hold)
  services_nodup := h.services_nodup

theorem addService (h : state.WellKeyed) (service : ServiceInfo) :
    (state.addService service).WellKeyed :=
  { h with services_nodup := nodup_key_put service h.services_nodup }

theorem getPorts_nodup (h : state.WellKeyed) (ip : Str) :
    ((state.getPorts ip).map PortInfo.port).Nodup := by
  rw [NetworkState.getPorts]
  cases hlookup : lookup HostPorts.ip ip state.host_ports with
  | none => simp
  | some host => exact h.ports_nodup host (mem_of_lookup hlookup)

end NetworkState.WellKeyed

/-! ## Sequences of operations -/

inductive Operation where
  | clear
  | addHost (host : HostInfo)
  | addPort (ip : Str) (port : PortInfo)
  | addService (service : ServiceInfo)
  deriving DecidableEq, Repr

def NetworkState.apply (state : NetworkState) : Operation → NetworkState
  | .clear => state.clear
  | .addHost host => state.addHost host
  | .addPort ip port => state.addPort ip port
  | .addService service => state.addService service

def NetworkState.run (operations : List Operation) : NetworkState :=
  operations.foldl NetworkState.apply {}

theorem NetworkState.run_append_singleton (operations : List Operation)
    (operation : Operation) :
    run (operations ++ [operation]) = (run operations).apply operation := by
  simp [run]

theorem NetworkState.WellKeyed.apply {state : NetworkState}
    (h : state.WellKeyed) (operation : Operation) :
    (state.apply operation).WellKeyed := by
  cases operation with
  | clear => exact .empty
  | addHost host => exact h.addHost host
  | addPort ip port => exact h.addPort ip port
  | addService service => exact h.addService service

theorem NetworkState.run_wellKeyed (operations : List Operation) :
    (run operations).WellKeyed := by
  induction operations using List.reverseRecOn with
  | nil => exact .empty
  | append_singleton operations operation ih =>
      rw [run_append_singleton]
      exact ih.apply operation

end SlipNet.Core
