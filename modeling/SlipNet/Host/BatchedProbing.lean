import SlipNet.Host.HostEnumeration
import SlipNet.Network.ConcurrentDiscovery

/-!
# Batched probing

`HostDiscovery::scanSubnet` checks the generated hosts in batches of
asynchronous tasks, as `NetworkDiscovery::discover` pings the addresses of the
local network.  Both return what probing one address after the other returns,
whatever order the tasks are done in; only for a numeral for zero behind the
slash the hosts of a scan are not defined.
-/

namespace SlipNet.Discovery

open SlipNet.Foundation
open SlipNet.Standard
open SlipNet.Core
open SlipNet.Network

structure Host where
  ip : Str
  reachable : Bool
  latencyMs : Double
  deriving DecidableEq, Repr

def check (pingHost : Str → PingResult) (ip : Str) : Host :=
  let result : Host := { ip := ip, reachable := false, latencyMs := .zero }
  match findChar '/' ip with
  | some _ => result
  | none =>
      let pingResult := pingHost ip
      { result with
        reachable := pingResult.reachable
        latencyMs := pingResult.latencyMs }

def MAX_CONCURRENCY : Nat := 32

/-- `hosts[index]`, ..., `hosts[end - 1]` for every value of `index`. -/
def batchesFrom (hosts : List Str) (index : Nat) : List (List Str) :=
  if index < hosts.length then
    let last := min (index + MAX_CONCURRENCY) hosts.length
    (hosts.drop index).take (last - index) ::
      batchesFrom hosts (index + MAX_CONCURRENCY)
  else []
termination_by hosts.length - index
decreasing_by
  unfold MAX_CONCURRENCY
  omega

/-- One batch: a task for every host, then a `get()` for every task. -/
def scanLoop (pingHost : Str → PingResult) :
    ForkJoin Str Host (List Host) where
  full _ := false
  stop _ := false
  work := check pingHost
  finish _ _ results := results
  collect _ host results := results ++ [host]

/-- The batches can turn the first results into the second ones, with the tasks
of each done in some order. -/
inductive ScansBatches (pingHost : Str → PingResult) :
    List (List Str) → List Host → List Host → Prop
  | nil (results) : ScansBatches pingHost [] results results
  | cons {batch batches results trace final after}
      (run : Run (scanLoop pingHost).Step (ForkJoin.start batch results) trace
        final)
      (hended : ForkJoin.Ended final)
      (rest : ScansBatches pingHost batches final.shared after) :
      ScansBatches pingHost (batch :: batches) results after

inductive ScansSubnet (pingHost : Str → PingResult) (cidr : Str) :
    List Host → Prop
  | noHosts (h : generateHosts cidr = some []) : ScansSubnet pingHost cidr []
  | scanned {hosts results} (h : generateHosts cidr = some hosts)
      (hne : hosts ≠ [])
      (batches : ScansBatches pingHost (batchesFrom hosts 0) [] results) :
      ScansSubnet pingHost cidr results

/-- No host is lost between two batches, and none is in two of them. -/
theorem flatten_batchesFrom (hosts : List Str) (index : Nat) :
    (batchesFrom hosts index).flatten = hosts.drop index := by
  fun_induction batchesFrom hosts index with
  | case1 index hlt last ih =>
      have hlength : (hosts.drop index).length = hosts.length - index :=
        List.length_drop
      have htake : (hosts.drop index).take (last - index) =
          (hosts.drop index).take MAX_CONCURRENCY := by
        rcases Nat.le_total (index + MAX_CONCURRENCY) hosts.length with h | h
        · rw [show last = index + MAX_CONCURRENCY from Nat.min_eq_left h,
            Nat.add_sub_cancel_left]
        · rw [show last = hosts.length from Nat.min_eq_right h,
            List.take_of_length_le hlength.le,
            List.take_of_length_le (by omega)]
      rw [List.flatten_cons, ih, htake, ← List.drop_drop,
        List.take_append_drop]
  | case2 index hge => exact (List.drop_eq_nil_of_le (by omega)).symm

variable {pingHost : Str → PingResult} {cidr : Str}

theorem scanLoop_apart (pingHost : Str → PingResult) :
    (scanLoop pingHost).Apart where
  finish_finish _ _ _ _ _ _ := rfl
  finish_collect _ _ _ _ _ := rfl

theorem foldl_scan_finishEntry (entries : List (Host × Nat))
    (results : List Host) :
    entries.foldl (scanLoop pingHost).finishEntry results = results := by
  induction entries with
  | nil => rfl
  | cons entry entries ih => exact ih

theorem foldl_scan_collectEntry (hosts : List Host) (k : Nat)
    (results : List Host) :
    (hosts.zipIdx k).foldl (scanLoop pingHost).collectEntry results =
      results ++ hosts := by
  induction hosts generalizing k results with
  | nil => exact (List.append_nil results).symm
  | cons host hosts ih =>
      refine (ih (k + 1) (results ++ [host])).trans ?_
      rw [List.append_assoc]
      rfl

/-- Every order in which the tasks are done leads to the checks of the hosts
in order. -/
theorem shared_of_ended {hosts : List Str} {results : List Host}
    {trace : List (ForkJoin.State Str Host (List Host) × ForkJoin.Action)}
    {final : ForkJoin.State Str Host (List Host)}
    (run : Run (scanLoop pingHost).Step (ForkJoin.start hosts results) trace
      final) (hended : ForkJoin.Ended final) :
    final.shared = results ++ hosts.map (check pingHost) := by
  have hapart := scanLoop_apart pingHost
  rcases hended with hpc | hpc
  · rw [ForkJoin.shared_of_returned hapart run hpc, foldl_scan_finishEntry,
      ForkJoin.entries, foldl_scan_collectEntry]
    rfl
  · obtain ⟨i, _, hstop⟩ := ForkJoin.stop_of_interrupted hapart run hpc
    cases hstop

theorem scansBatches_iff {batches : List (List Str)}
    {results after : List Host} :
    ScansBatches pingHost batches results after ↔
      after = results ++ batches.flatten.map (check pingHost) := by
  constructor
  · intro h
    induction h with
    | nil results => simp
    | cons run hended rest ih =>
        rw [ih, shared_of_ended run hended]
        simp
  · rintro rfl
    induction batches generalizing results with
    | nil => simpa using ScansBatches.nil results
    | cons batch batches ih =>
        obtain ⟨trace, final, run, hended⟩ :=
          (ForkJoin.ends (scanLoop pingHost) batch results).exists_run
        refine .cons run hended ?_
        rw [List.flatten_cons, List.map_append, ← List.append_assoc,
          ← shared_of_ended run hended]
        exact ih

theorem scansSubnet_iff {results : List Host} :
    ScansSubnet pingHost cidr results ↔
      ∃ hosts, generateHosts cidr = some hosts ∧
        results = hosts.map (check pingHost) := by
  constructor
  · rintro (h | ⟨h, _, hbatches⟩)
    · exact ⟨[], h, rfl⟩
    · rw [scansBatches_iff, flatten_batchesFrom] at hbatches
      exact ⟨_, h, hbatches⟩
  · rintro ⟨hosts, hhosts, rfl⟩
    by_cases hne : hosts = []
    · subst hne
      exact .noHosts hhosts
    · refine .scanned hhosts hne ?_
      rw [scansBatches_iff, flatten_batchesFrom]
      rfl

/-- The scan returns, and whatever order its tasks are done in, the check of
every generated host, in order. -/
def ScansHosts (pingHost : Str → PingResult) (cidr : Str) : Prop :=
  ∃ hosts, generateHosts cidr = some hosts ∧
    ∀ results, ScansSubnet pingHost cidr results ↔
      results = hosts.map (check pingHost)

theorem scansHosts_iff :
    ScansHosts pingHost cidr ↔ ¬ HasZeroPrefix cidr := by
  rw [← generateHosts_eq_none_iff, ← Ne, Option.ne_none_iff_exists']
  refine exists_congr fun hosts => and_iff_left_of_imp fun hhosts results => ?_
  rw [scansSubnet_iff, hhosts]
  simp

/-- Probing in batches is probing one after the other: both loops end after a
bounded number of steps, an uninterrupted discovery leaves exactly the hosts of
the `/24` that answer, and a scan returns the check of every generated host, in
order, exactly if the text has no zero behind the slash. -/
theorem probing_batched_iff (surroundings : Surroundings)
    (state : NetworkState) (pingHost : Str → PingResult) (cidr : Str) :
    ((detectLocalNetwork surroundings.interfaces).ip ≠ [] →
      (∀ i < TOTAL_ADDRESSES, surroundings.stopRequested i = false) →
      Ends (discoveryLoop surroundings).Step (discoveryStart surroundings)
          ForkJoin.Ended (5 * TOTAL_ADDRESSES + 2) ∧
        ∀ result, Discovers surroundings state result ↔
          result = (true, { hosts := (reachableHosts surroundings.pingHost
            (slash24Hosts (ipToInteger
              (detectLocalNetwork surroundings.interfaces).ip))) })) ∧
    (∀ batch results,
      Ends (scanLoop pingHost).Step (ForkJoin.start batch results)
        ForkJoin.Ended (5 * batch.length + 2)) ∧
    (ScansHosts pingHost cidr ↔ ¬ HasZeroPrefix cidr) := by
  refine ⟨fun hip hgo => ⟨?_, fun result => ?_⟩,
    fun batch results => ForkJoin.ends _ batch results, scansHosts_iff⟩
  · rw [← length_discoveryAddresses hip]
    exact ForkJoin.ends _ _ _
  · rw [discovers_iff, discover_uninterrupted hip hgo]

/-- A machine in `10.0.0.0/24` whose network has one host that answers, and a
scan of the whole address space. -/
theorem probing_batched_iff_oneHost :
    let surroundings : Surroundings := {
      interfaces := [{ ipv4Address := "10.0.0.7".toList, up := true }]
      pingHost := fun address =>
        { reachable := address = "10.0.0.1".toList }
      stopRequested := fun _ => false }
    (∃ result, Discovers surroundings {} result ∧ result.1 = true) ∧
      ¬ ScansHosts surroundings.pingHost "10.0.0.0/0".toList := by
  intro surroundings
  have hip : (detectLocalNetwork surroundings.interfaces).ip ≠ [] := by decide
  obtain ⟨hdiscovery, -, hscans⟩ := probing_batched_iff surroundings {}
    surroundings.pingHost "10.0.0.0/0".toList
  have hzero : HasZeroPrefix "10.0.0.0/0".toList :=
    ⟨"10.0.0.0".toList, "0".toList, 0x0A000000, by decide, by decide,
      by decide, by decide⟩
  exact ⟨⟨_, ((hdiscovery hip fun _ _ => rfl).2 _).mpr rfl, rfl⟩,
    fun h => hscans.mp h hzero⟩

/-- The hosts of the whole address space: a shift by 32. -/
theorem not_scansHosts_slash0 :
    generateHosts "10.0.0.0/0".toList = none ∧
      ¬ ScansHosts (fun _ => {}) "10.0.0.0/0".toList := by
  have hnone : generateHosts "10.0.0.0/0".toList = none := by decide
  refine ⟨hnone, ?_⟩
  rintro ⟨hosts, hhosts, -⟩
  rw [hnone] at hhosts
  cases hhosts

end SlipNet.Discovery
