import SlipNet.Host.AddressReaders

/-!
# Discoveries that fail

A discovery fails without a usable interface, or when the stop flag is seen
before one of the 254 addresses.  The state is cleared before the first of
these checks, so a failed discovery keeps the stored records exactly if there
are none.
-/

namespace SlipNet.Network

open SlipNet.Foundation
open SlipNet.Standard
open SlipNet.Core
open SlipNet.Discovery

/-! ## The exits -/

theorem detectLocalNetwork_ip_eq_nil_iff
    (interfaces : List NetworkInterfaceInfo) :
    (detectLocalNetwork interfaces).ip = [] ↔
      ∀ interface ∈ interfaces, interface.up = true →
        interface.ipv4Address = [] ∨
          interface.ipv4Address = "127.0.0.1".toList := by
  rw [detectLocalNetwork]
  split
  · next hnone =>
      rw [List.find?_eq_none] at hnone
      refine ⟨fun _ interface hinterface hup => ?_, fun _ => rfl⟩
      have hskipped := hnone interface hinterface
      simp only [hup, Bool.true_and, Bool.and_eq_true, decide_eq_true_eq,
        not_and_or, not_not] at hskipped
      exact hskipped
  · next found hfound =>
      have husable := List.find?_some hfound
      simp only [Bool.and_eq_true, decide_eq_true_eq] at husable
      obtain ⟨⟨hup, hne⟩, hloopback⟩ := husable
      refine ⟨fun hnil => absurd hnil hne, fun hall => ?_⟩
      rcases hall found (List.mem_of_find?_eq_some hfound) hup with h | h
      · exact h
      · exact absurd h hloopback

theorem probeFrom_eq_none_iff {stopRequested : Nat → Bool}
    {pingHost : Str → PingResult} {i : Nat} {probing : Probing}
    {addresses : List Str} :
    probeFrom stopRequested pingHost i probing addresses = none ↔
      ∃ j < addresses.length, stopRequested (i + j) = true := by
  induction addresses generalizing i probing with
  | nil => simp [probeFrom]
  | cons address addresses ih =>
      rw [probeFrom]
      split
      · next hstop => simpa using ⟨0, by omega, hstop⟩
      · next hgo =>
          rw [ih]
          constructor
          · rintro ⟨j, hj, hstop⟩
            refine ⟨j + 1, by simpa using hj, ?_⟩
            rwa [Nat.add_comm j, ← Nat.add_assoc]
          · rintro ⟨j, hj, hstop⟩
            cases j with
            | zero => exact absurd hstop hgo
            | succ j =>
                refine ⟨j, by simpa using hj, ?_⟩
                rwa [Nat.add_assoc, Nat.add_comm 1]

theorem length_generateAddresses (address : UInt32) :
    (generateAddresses ((address &&& 0xFFFFFF00) + 1)
      ((address &&& 0xFFFFFF00) + 254)).length = TOTAL_ADDRESSES := by
  have hlt := address.toNat_lt
  have hnetwork : (address &&& 0xFFFFFF00).toNat =
      blockStart 8 address.toNat := by
    rw [UInt32.toNat_and]
    exact and_mask (isMask_shiftLeft 32 8) hlt
  rw [generateAddresses, List.length_map, List.length_range',
    UInt32.toNat_add, UInt32.toNat_add, hnetwork, blockStart]
  change (address.toNat / 256 * 256 + 254) % 2 ^ 32 + 1 -
    (address.toNat / 256 * 256 + 1) % 2 ^ 32 = 254
  omega

theorem ipToInteger_network {interfaces : List NetworkInterfaceInfo}
    (hip : (detectLocalNetwork interfaces).ip ≠ []) :
    ipToInteger (detectLocalNetwork interfaces).network =
      ipToInteger (detectLocalNetwork interfaces).ip &&& 0xFFFFFF00 := by
  unfold detectLocalNetwork at hip ⊢
  split
  · next hnone => exact absurd (by rw [hnone]) hip
  · rw [calculateNetworkAddress, integerToIP_eq, ipToInteger_inetNtop]

section

variable (surroundings : Surroundings) (state : NetworkState)

theorem discover_fails_iff :
    (discover surroundings state).1 = false ↔
      (∀ interface ∈ surroundings.interfaces, interface.up = true →
        interface.ipv4Address = [] ∨
          interface.ipv4Address = "127.0.0.1".toList) ∨
        ∃ i < TOTAL_ADDRESSES, surroundings.stopRequested i = true := by
  rw [← detectLocalNetwork_ip_eq_nil_iff]
  unfold discover
  dsimp only
  split
  · next hip => simp [hip]
  · next hip =>
      rw [ipToInteger_network hip]
      split
      · next hprobe =>
          obtain ⟨j, hj, hstop⟩ := probeFrom_eq_none_iff.mp hprobe
          rw [length_generateAddresses] at hj
          rw [Nat.zero_add] at hstop
          simpa [hip] using ⟨j, hj, hstop⟩
      · next probing hprobe =>
          have hgo := mt probeFrom_eq_none_iff.mpr
            (Option.ne_none_iff_exists'.mpr ⟨probing, hprobe⟩)
          rw [length_generateAddresses] at hgo
          simpa [hip] using hgo

/-- No exit that fails is behind the first `addHost`. -/
theorem discover_failed {surroundings : Surroundings} {state : NetworkState}
    (hfailed : (discover surroundings state).1 = false) :
    (discover surroundings state).2 = state.clear := by
  unfold discover at hfailed ⊢
  dsimp only at hfailed ⊢
  split
  · rfl
  · next hip =>
      rw [if_neg hip] at hfailed
      split
      · rfl
      · next hprobe =>
          rw [hprobe] at hfailed
          cases hfailed

end

/-! ## The records -/

/-- The tables return what they returned before. -/
structure KeepsRecords (before after : NetworkState) : Prop where
  hosts : after.getHosts = before.getHosts
  ports : ∀ ip, after.getPorts ip = before.getPorts ip
  services : after.getServices = before.getServices

structure HoldsNothing (state : NetworkState) : Prop where
  hosts : state.getHosts = []
  ports : ∀ ip, state.getPorts ip = []
  services : state.getServices = []

/-- A discovery that fails loses every record there is. -/
theorem discover_keepsRecords_iff {surroundings : Surroundings}
    {state : NetworkState}
    (hfailed : (discover surroundings state).1 = false) :
    KeepsRecords state (discover surroundings state).2 ↔
      HoldsNothing state := by
  rw [discover_failed hfailed]
  constructor
  · intro hkeeps
    exact ⟨hkeeps.hosts.symm, fun ip => (hkeeps.ports ip).symm,
      hkeeps.services.symm⟩
  · intro hnothing
    exact ⟨hnothing.hosts.symm, fun ip => (hnothing.ports ip).symm,
      hnothing.services.symm⟩

theorem discover_keepsRecords_iff_interrupted :
    let state := ({} : NetworkState).addPort "10.0.0.5".toList
      { port := 80, isOpen := true, protocol := "TCP".toList }
    let surroundings : Surroundings :=
      ⟨[{ name := "eth0".toList
          ipv4Address := "10.0.0.2".toList
          up := true }],
        fun _ => {}, fun _ => true⟩
    (KeepsRecords state (discover surroundings state).2 ↔
        HoldsNothing state) ∧ ¬ HoldsNothing state := by
  refine ⟨discover_keepsRecords_iff (by decide), fun hnothing => ?_⟩
  exact absurd (hnothing.ports "10.0.0.5".toList) (by decide)

/-- The stop flag is up before the first address is probed, after a scan has
found an open port. -/
theorem not_discover_keepsRecords_interrupted :
    let state := ({} : NetworkState).addPort "10.0.0.5".toList
      { port := 80, isOpen := true, protocol := "TCP".toList }
    let surroundings : Surroundings :=
      ⟨[{ name := "eth0".toList
          ipv4Address := "10.0.0.2".toList
          up := true }],
        fun _ => {}, fun _ => true⟩
    (discover surroundings state).1 = false ∧
      ¬ KeepsRecords state (discover surroundings state).2 := by
  refine ⟨by decide, fun hkeeps => ?_⟩
  have hports := hkeeps.ports "10.0.0.5".toList
  rw [discover_failed (by decide)] at hports
  exact absurd hports (by decide)

end SlipNet.Network
