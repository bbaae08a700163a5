import SlipNet.Foundation.ForkJoin
import SlipNet.Network.FailedDiscovery

/-!
# Discovery with concurrent pings

The tasks of a discovery write their latencies while the loop collects their
answers batch by batch.  Whatever order the tasks are done in, a discovery
returns what the sequential one does, and without a stop that is the hosts of
the `/24` that answer, in ascending order.
-/

namespace SlipNet.Network

open SlipNet.Foundation
open SlipNet.Standard
open SlipNet.Core
open SlipNet.Discovery

/-! ## The loop -/

def discoveryLoop (surroundings : Surroundings) :
    ForkJoin Str PingResult (List Bool × List Double) where
  full count := MAX_CONCURRENT ≤ count
  stop := surroundings.stopRequested
  work := surroundings.pingHost
  finish i result shared := (shared.1, shared.2.set i result.latencyMs)
  collect index result shared :=
    (shared.1.set index result.reachable, shared.2)

def discoveryAddresses (surroundings : Surroundings) : List Str :=
  let networkValue :=
    ipToInteger (detectLocalNetwork surroundings.interfaces).network
  generateAddresses (networkValue + 1) (networkValue + 254)

def discoveryStart (surroundings : Surroundings) :
    ForkJoin.State Str PingResult (List Bool × List Double) :=
  ForkJoin.start (discoveryAddresses surroundings)
    (List.replicate TOTAL_ADDRESSES false,
      List.replicate TOTAL_ADDRESSES .zero)

def discoveryOutcome (surroundings : Surroundings) (state : NetworkState)
    (final : ForkJoin.State Str PingResult (List Bool × List Double)) :
    Bool × NetworkState :=
  if final.pc = .returned then
    (true, storeOnline state.clear ((discoveryAddresses surroundings).zip
      (final.shared.1.zip final.shared.2)))
  else (false, state.clear)

/-- `discover` can return this, with the tasks done in some order. -/
inductive Discovers (surroundings : Surroundings) (state : NetworkState) :
    Bool × NetworkState → Prop
  | noNetwork (h : (detectLocalNetwork surroundings.interfaces).ip = []) :
      Discovers surroundings state (false, state.clear)
  | probed {trace final}
      (h : (detectLocalNetwork surroundings.interfaces).ip ≠ [])
      (run : Run (discoveryLoop surroundings).Step
        (discoveryStart surroundings) trace final)
      (hended : ForkJoin.Ended final) :
      Discovers surroundings state (discoveryOutcome surroundings state final)

/-! ## Answers in place -/

theorem assignFrom_append {α : Type} (i : Nat) (xs ys entries : List α) :
    assignFrom i (xs ++ ys) entries =
      assignFrom (i + xs.length) ys (assignFrom i xs entries) := by
  induction xs generalizing i entries with
  | nil => rfl
  | cons x xs ih =>
      rw [List.cons_append, assignFrom, assignFrom, ih, List.length_cons,
        Nat.add_assoc, Nat.add_comm 1]

theorem assignFrom_length {α : Type} (before values entries : List α)
    (h : values.length = entries.length) :
    assignFrom before.length values (before ++ entries) = before ++ values := by
  induction values generalizing before entries with
  | nil =>
      rw [List.length_eq_zero_iff.mp h.symm]
      rfl
  | cons value values ih =>
      cases entries with
      | nil => cases h
      | cons entry entries =>
          have hset : (before ++ entry :: entries).set before.length value =
              before ++ [value] ++ entries := by simp
          have hrest := ih (before ++ [value]) entries (Nat.succ.inj h)
          rw [List.length_append, List.length_singleton] at hrest
          rw [assignFrom, hset, hrest]
          simp

theorem assignFrom_zero {α : Type} {values entries : List α}
    (h : values.length = entries.length) :
    assignFrom 0 values entries = values :=
  assignFrom_length [] values entries h

/-! ## The sequential loop -/

section Sequential

variable {stopRequested : Nat → Bool} {pingHost : Str → PingResult}

/-- The answers so far are in place or wait for the end of their batch. -/
structure Probing.Holds (answers : List PingResult) (probing : Probing) :
    Prop where
  split : ∃ stored, answers = stored ++ probing.tasks ∧
    probing.completed = stored.length ∧
    probing.online = assignFrom 0 (stored.map PingResult.reachable)
      (List.replicate TOTAL_ADDRESSES false) ∧
    probing.latencies = assignFrom 0 (stored.map PingResult.latencyMs)
      (List.replicate TOTAL_ADDRESSES .zero)

theorem Probing.holds_start : Probing.start.Holds [] :=
  ⟨[], rfl, rfl, rfl, rfl⟩

variable {answers : List PingResult} {probing : Probing}

theorem Probing.Holds.collect (h : probing.Holds answers) :
    probing.collect.Holds answers := by
  obtain ⟨stored, hanswers, hcompleted, honline, hlatencies⟩ := h
  refine ⟨answers, (List.append_nil _).symm, ?_, ?_, ?_⟩
  · rw [Probing.collect, hanswers, hcompleted, List.length_append]
  · rw [Probing.collect, hanswers, List.map_append, assignFrom_append,
      honline, hcompleted, List.length_map, Nat.zero_add]
  · rw [Probing.collect, hanswers, List.map_append, assignFrom_append,
      hlatencies, hcompleted, List.length_map, Nat.zero_add]

theorem Probing.Holds.launch (h : probing.Holds answers) (task : PingResult) :
    (probing.launch task).Holds (answers ++ [task]) := by
  have hlaunched :
      { probing with tasks := probing.tasks ++ [task] }.Holds
        (answers ++ [task]) := by
    obtain ⟨stored, hanswers, hrest⟩ := h
    exact ⟨stored, by rw [hanswers, List.append_assoc], hrest⟩
  unfold Probing.launch
  dsimp only
  split
  · exact hlaunched.collect
  · exact hlaunched

theorem Probing.Holds.probeFrom {i : Nat} {addresses : List Str}
    {final : Probing} (h : probing.Holds answers)
    (hprobe : probeFrom stopRequested pingHost i probing addresses =
      some final) :
    final.Holds (answers ++ addresses.map pingHost) := by
  induction addresses generalizing i probing answers with
  | nil =>
      obtain rfl := Option.some.inj hprobe
      rwa [List.map_nil, List.append_nil]
  | cons address addresses ih =>
      rw [Network.probeFrom] at hprobe
      split at hprobe
      · cases hprobe
      · have hrest := ih (h.launch (pingHost address)) hprobe
        rwa [List.append_assoc] at hrest

theorem collect_probeFrom {addresses : List Str} {final : Probing}
    (hprobe : probeFrom stopRequested pingHost 0 .start addresses =
      some final) (hlength : addresses.length = TOTAL_ADDRESSES) :
    final.collect.online =
        (addresses.map pingHost).map PingResult.reachable ∧
      final.collect.latencies =
        (addresses.map pingHost).map PingResult.latencyMs := by
  obtain ⟨stored, hanswers, _, honline, hlatencies⟩ :=
    (Probing.holds_start.probeFrom hprobe).collect
  have htasks : final.collect.tasks = [] := rfl
  rw [htasks, List.append_nil, List.nil_append] at hanswers
  rw [honline, hlatencies, ← hanswers]
  exact ⟨assignFrom_zero (by simp [hlength]),
    assignFrom_zero (by simp [hlength])⟩

end Sequential

/-! ## The concurrent loop -/

section Concurrent

variable {surroundings : Surroundings} {state : NetworkState}

theorem discoveryLoop_apart (surroundings : Surroundings) :
    (discoveryLoop surroundings).Apart where
  finish_finish _ _ _ _ _ hij :=
    Prod.ext rfl (List.set_comm _ _ (Ne.symm hij))
  finish_collect _ _ _ _ _ := rfl

theorem foldl_collectEntry (results : List PingResult) (k : Nat)
    (shared : List Bool × List Double) :
    (results.zipIdx k).foldl (discoveryLoop surroundings).collectEntry shared =
      (assignFrom k (results.map PingResult.reachable) shared.1,
        shared.2) := by
  induction results generalizing k shared with
  | nil => rfl
  | cons result results ih => exact ih (k + 1) _

theorem foldl_finishEntry (results : List PingResult) (k : Nat)
    (shared : List Bool × List Double) :
    (results.zipIdx k).foldl (discoveryLoop surroundings).finishEntry shared =
      (shared.1,
        assignFrom k (results.map PingResult.latencyMs) shared.2) := by
  induction results generalizing k shared with
  | nil => rfl
  | cons result results ih => exact ih (k + 1) _

theorem length_discoveryAddresses
    (h : (detectLocalNetwork surroundings.interfaces).ip ≠ []) :
    (discoveryAddresses surroundings).length = TOTAL_ADDRESSES := by
  unfold discoveryAddresses
  dsimp only
  rw [ipToInteger_network h]
  exact length_generateAddresses _

theorem discover_of_ip_eq_nil
    (h : (detectLocalNetwork surroundings.interfaces).ip = []) :
    discover surroundings state = (false, state.clear) := by
  unfold discover
  dsimp only
  rw [if_pos h]

theorem discover_of_ip_ne_nil
    (h : (detectLocalNetwork surroundings.interfaces).ip ≠ []) :
    discover surroundings state =
      match probeFrom surroundings.stopRequested surroundings.pingHost 0
          .start (discoveryAddresses surroundings) with
      | none => (false, state.clear)
      | some probing =>
          (true, storeOnline state.clear ((discoveryAddresses surroundings).zip
            (probing.collect.online.zip probing.collect.latencies))) := by
  unfold discover
  dsimp only
  rw [if_neg h]
  rfl

/-- Every order in which the tasks are done leads to what the sequential loop
returns. -/
theorem discoveryOutcome_eq
    (h : (detectLocalNetwork surroundings.interfaces).ip ≠ [])
    {trace : List (ForkJoin.State Str PingResult (List Bool × List Double) ×
      ForkJoin.Action)}
    {final : ForkJoin.State Str PingResult (List Bool × List Double)}
    (run : Run (discoveryLoop surroundings).Step (discoveryStart surroundings)
      trace final) (hended : ForkJoin.Ended final) :
    discoveryOutcome surroundings state final =
      discover surroundings state := by
  have hlength := length_discoveryAddresses h
  have hapart := discoveryLoop_apart surroundings
  rw [discover_of_ip_ne_nil h]
  rcases hended with hpc | hpc
  · have hgo : ∀ i < (discoveryAddresses surroundings).length,
        surroundings.stopRequested i = false :=
      ForkJoin.not_stop_of_returned hapart run hpc
    cases hprobe : probeFrom surroundings.stopRequested surroundings.pingHost 0
        .start (discoveryAddresses surroundings) with
    | none =>
        obtain ⟨i, hi, hstop⟩ := probeFrom_eq_none_iff.mp hprobe
        rw [Nat.zero_add, hgo i hi] at hstop
        cases hstop
    | some probing =>
        obtain ⟨honline, hlatencies⟩ := collect_probeFrom hprobe hlength
        have hshared := ForkJoin.shared_of_returned hapart run hpc
        rw [ForkJoin.entries, foldl_finishEntry, foldl_collectEntry,
          assignFrom_zero (by simp [discoveryLoop, hlength]),
          assignFrom_zero (by simp [discoveryLoop, hlength])] at hshared
        rw [discoveryOutcome, if_pos hpc, hshared]
        dsimp only
        rw [honline, hlatencies]
        rfl
  · obtain ⟨i, hi, hstop⟩ := ForkJoin.stop_of_interrupted hapart run hpc
    have hprobe : probeFrom surroundings.stopRequested surroundings.pingHost 0
        .start (discoveryAddresses surroundings) = none :=
      probeFrom_eq_none_iff.mpr ⟨i, hi, by rw [Nat.zero_add]; exact hstop⟩
    rw [hprobe, discoveryOutcome, if_neg (by simp [hpc])]

theorem discovers_iff {result : Bool × NetworkState} :
    Discovers surroundings state result ↔
      result = discover surroundings state := by
  constructor
  · rintro (h | ⟨h, run, hended⟩)
    · exact (discover_of_ip_eq_nil h).symm
    · exact discoveryOutcome_eq h run hended
  · rintro rfl
    by_cases h : (detectLocalNetwork surroundings.interfaces).ip = []
    · rw [discover_of_ip_eq_nil h]
      exact .noNetwork h
    · obtain ⟨trace, final, run, hended⟩ :=
        (ForkJoin.ends (discoveryLoop surroundings)
          (discoveryAddresses surroundings) _).exists_run
      rw [← discoveryOutcome_eq h run hended]
      exact .probed h run hended

end Concurrent

/-! ## What an uninterrupted discovery finds -/

/-- The addresses `.1` to `.254` of the `/24` of an address. -/
def slash24Hosts (address : UInt32) : List Str :=
  (List.range' 1 254).map fun host =>
    ['.'].intercalate (((octets address).take 3 ++ [host]).map decimal)

theorem generateAddresses_slash24 (address : UInt32) :
    generateAddresses ((address &&& 0xFFFFFF00) + 1)
        ((address &&& 0xFFFFFF00) + 254) = slash24Hosts address := by
  have hlt := address.toNat_lt
  have hnetwork : (address &&& 0xFFFFFF00).toNat =
      address.toNat / 256 * 256 := by
    rw [UInt32.toNat_and]
    exact and_mask (isMask_shiftLeft 32 8) hlt
  have hfirst : ((address &&& 0xFFFFFF00) + 1).toNat =
      address.toNat / 256 * 256 + 1 := by
    rw [UInt32.toNat_add, hnetwork]
    change (address.toNat / 256 * 256 + 1) % 2 ^ 32 = _
    omega
  have hlast : ((address &&& 0xFFFFFF00) + 254).toNat =
      address.toNat / 256 * 256 + 254 := by
    rw [UInt32.toNat_add, hnetwork]
    change (address.toNat / 256 * 256 + 254) % 2 ^ 32 = _
    omega
  have hcount : address.toNat / 256 * 256 + 254 + 1 -
      (address.toNat / 256 * 256 + 1) = 254 := by omega
  rw [generateAddresses, hfirst, hlast, hcount, ← List.map_add_range',
    List.map_map, slash24Hosts]
  refine List.map_congr_left fun host hhost => ?_
  rw [List.mem_range'_1] at hhost
  have hvalue : UInt32.ofNat (address.toNat / 256 * 256 + host) =
      ofOctets (address.toNat / 16777216) (address.toNat / 65536 % 256)
        (address.toNat / 256 % 256) host := by
    exact congrArg UInt32.ofNat (by omega)
  rw [Function.comp_apply, hvalue, integerToIP_eq, inetNtop,
    octets_ofOctets (by omega) (by omega) (by omega) (by omega)]
  rfl

theorem nodup_discoveryAddresses (surroundings : Surroundings) :
    (discoveryAddresses surroundings).Nodup := by
  unfold discoveryAddresses generateAddresses
  simp only [integerToIP_eq]
  exact nodup_quads _ _

theorem storeOnline_eq {state : NetworkState}
    {entries : List (Str × Bool × Double)}
    (hnodup : (entries.map Prod.fst).Nodup)
    (hfresh : ∀ address ∈ entries.map Prod.fst,
      address ∉ state.hosts.map HostInfo.ip) :
    storeOnline state entries =
      { state with
        hosts := state.hosts ++ (entries.filter fun entry => entry.2.1).map
          fun entry => onlineHost entry.1 entry.2.2 } := by
  induction entries generalizing state with
  | nil => simp [storeOnline]
  | cons entry entries ih =>
      obtain ⟨address, online, latency⟩ := entry
      rw [List.map_cons, List.nodup_cons] at hnodup
      rw [List.map_cons, List.forall_mem_cons] at hfresh
      cases online with
      | false =>
          rw [storeOnline, if_neg Bool.false_ne_true, ih hnodup.2 hfresh.2]
          rfl
      | true =>
          have hadded : state.addHost (onlineHost address latency) =
              { state with
                hosts := state.hosts ++ [onlineHost address latency] } := by
            rw [NetworkState.addHost, put_of_notMem hfresh.1]
          rw [storeOnline, if_pos rfl, hadded, ih hnodup.2]
          · simp
          · intro other hother
            rw [List.map_append, List.mem_append, not_or]
            refine ⟨hfresh.2 other hother, fun hmem => hnodup.1 ?_⟩
            obtain rfl : other = address := by simpa [onlineHost] using hmem
            exact hother

/-- The sequential specification: a record for every address that answers. -/
def reachableHosts (pingHost : Str → PingResult) (addresses : List Str) :
    List HostInfo :=
  (addresses.filter fun address => (pingHost address).reachable).map
    fun address => onlineHost address (pingHost address).latencyMs

/-- Without a stop the hosts of the `/24` that answer are stored, in ascending
order and each with its own latency. -/
theorem discover_uninterrupted {surroundings : Surroundings}
    {state : NetworkState}
    (h : (detectLocalNetwork surroundings.interfaces).ip ≠ [])
    (hgo : ∀ i < TOTAL_ADDRESSES, surroundings.stopRequested i = false) :
    discover surroundings state =
      (true, { hosts := reachableHosts surroundings.pingHost (slash24Hosts
        (ipToInteger (detectLocalNetwork surroundings.interfaces).ip)) }) := by
  have hlength := length_discoveryAddresses h
  have haddresses : discoveryAddresses surroundings = slash24Hosts
      (ipToInteger (detectLocalNetwork surroundings.interfaces).ip) := by
    unfold discoveryAddresses
    dsimp only
    rw [ipToInteger_network h, generateAddresses_slash24]
  rw [discover_of_ip_ne_nil h]
  cases hprobe : probeFrom surroundings.stopRequested surroundings.pingHost 0
      .start (discoveryAddresses surroundings) with
  | none =>
      obtain ⟨i, hi, hstop⟩ := probeFrom_eq_none_iff.mp hprobe
      rw [hlength] at hi
      rw [Nat.zero_add, hgo i hi] at hstop
      cases hstop
  | some probing =>
      obtain ⟨honline, hlatencies⟩ := collect_probeFrom hprobe hlength
      have hentries : (discoveryAddresses surroundings).zip
          (probing.collect.online.zip probing.collect.latencies) =
          (discoveryAddresses surroundings).map fun address =>
            (address, (surroundings.pingHost address).reachable,
              (surroundings.pingHost address).latencyMs) := by
        rw [honline, hlatencies, List.map_map, List.map_map, List.zip_map',
          ← List.map_prod_left_eq_zip]
        rfl
      dsimp only
      rw [hentries, storeOnline_eq, ← haddresses]
      · simp [NetworkState.clear, reachableHosts, List.filter_map,
          Function.comp_def]
      · simpa [Function.comp_def] using nodup_discoveryAddresses surroundings
      · simp [NetworkState.clear]

end SlipNet.Network
