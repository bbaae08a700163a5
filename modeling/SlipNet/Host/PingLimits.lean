import SlipNet.Foundation.BatchWidth
import SlipNet.Host.BatchedProbing

/-!
# The limits of the probing loops

`NetworkDiscovery::discover` collects a batch as soon as it is full, and
`HostDiscovery::scanSubnet` cuts its hosts into batches beforehand.  Either way
no more pings are under way than the constant of the loop says, all pings of a
call go to different addresses, and none is left when the loop is.
-/

namespace SlipNet.Discovery

open SlipNet.Foundation
open SlipNet.Standard
open SlipNet.Network

/-- A call that has got so far: these pings are done and these under way. -/
structure LimitedPings (width : Nat) (addresses pinged underway : List Str)
    (ended : Prop) : Prop where
  underway_le : underway.length ≤ width
  nodup : (pinged ++ underway).Nodup
  subset : pinged ++ underway ⊆ addresses
  left : ended → underway = []

/-- `scanSubnet` can get so far with its batches: these pings are done, and the
loop of the last batch begun is in this state. -/
inductive ScansTo (pingHost : Str → PingResult) :
    List (List Str) → List Host → List Str →
      ForkJoin.State Str Host (List Host) → Prop
  | within {batch batches results trace state}
      (run : Run (scanLoop pingHost).Step (ForkJoin.start batch results) trace
        state) :
      ScansTo pingHost (batch :: batches) results (ForkJoin.finished trace)
        state
  | behind {batch batches results trace final pinged state}
      (run : Run (scanLoop pingHost).Step (ForkJoin.start batch results) trace
        final)
      (hended : ForkJoin.Ended final)
      (rest : ScansTo pingHost batches final.shared pinged state) :
      ScansTo pingHost (batch :: batches) results
        (ForkJoin.finished trace ++ pinged) state

/-! ## One loop -/

variable {β γ : Type*} {loop : ForkJoin Str β γ} {inputs : List Str} {init : γ}
  {trace : List (ForkJoin.State Str β γ × ForkJoin.Action)}
  {state : ForkJoin.State Str β γ}

theorem subperm_of_run (hapart : loop.Apart)
    (run : Run loop.Step (ForkJoin.start inputs init) trace state) :
    (ForkJoin.finished trace ++ state.underway).Subperm inputs :=
  (ForkJoin.finished_append_underway hapart run).subperm.trans
    (List.take_sublist _ _).subperm

theorem nodup_of_subperm {pinged addresses : List Str}
    (h : pinged.Subperm addresses) (hnodup : addresses.Nodup) :
    pinged.Nodup := by
  obtain ⟨kept, hperm, hsublist⟩ := h
  exact hperm.nodup_iff.mp (hnodup.sublist hsublist)

theorem length_underway_le (state : ForkJoin.State Str β γ) :
    state.underway.length ≤ state.tasks.length :=
  List.length_filterMap_le _ _

/-! ## The batches of a scan -/

theorem length_le_of_mem_batchesFrom {hosts batch : List Str} {index : Nat}
    (h : batch ∈ batchesFrom hosts index) : batch.length ≤ MAX_CONCURRENCY := by
  fun_induction batchesFrom hosts index with
  | case1 index hlt last ih =>
      rcases List.mem_cons.mp h with rfl | h
      · have hlast : last - index ≤ MAX_CONCURRENCY := by
          have hmin : last ≤ index + MAX_CONCURRENCY := Nat.min_le_left _ _
          omega
        exact (List.length_take_le _ _).trans hlast
      · exact ih h
  | case2 => cases h

theorem nodup_of_generateHosts {cidr : Str} {hosts : List Str}
    (h : generateHosts cidr = some hosts) : hosts.Nodup := by
  unfold generateHosts at h
  split at h
  · cases h
    exact List.nodup_nil
  · dsimp only at h
    split at h
    · cases h
      exact List.nodup_nil
    · split at h
      · cases h
        exact List.nodup_nil
      · split_ifs at h
        · cases h
          exact List.nodup_nil
        · cases h
          exact List.nodup_nil
        · simp only [Option.bind_eq_bind, Option.bind_eq_some_iff] at h
          obtain ⟨mask, -, ⟨firstHost, lastHost⟩, -, hhosts⟩ := h
          cases hhosts
          rw [hostLoop_eq, List.nil_append]
          exact nodup_quads _ _

variable {pingHost : Str → PingResult} {batches : List (List Str)}
  {results : List Host} {pinged : List Str}
  {current : ForkJoin.State Str Host (List Host)}

/-- Every batch pings its own hosts, and the batches share none. -/
theorem ScansTo.subperm
    (h : ScansTo pingHost batches results pinged current) :
    (pinged ++ current.underway).Subperm batches.flatten := by
  have hapart := scanLoop_apart pingHost
  induction h with
  | @within batch batches _ _ _ run =>
      exact (subperm_of_run hapart run).trans
        (List.sublist_append_left batch batches.flatten).subperm
  | behind run hended rest ih =>
      have hbatch := subperm_of_run hapart run
      rw [ForkJoin.underway_of_ended hapart run hended, List.append_nil]
        at hbatch
      rw [List.append_assoc]
      exact hbatch.append ih

theorem ScansTo.exists_run
    (h : ScansTo pingHost batches results pinged current) :
    ∃ batch ∈ batches, ∃ results trace, Run (scanLoop pingHost).Step
      (ForkJoin.start batch results) trace current := by
  induction h with
  | within run => exact ⟨_, List.mem_cons_self, _, _, run⟩
  | behind run hended rest ih =>
      obtain ⟨batch, hbatch, hrun⟩ := ih
      exact ⟨batch, List.mem_cons_of_mem _ hbatch, hrun⟩

theorem limitedPings_of_scansTo {cidr : Str} {hosts : List Str}
    (hhosts : generateHosts cidr = some hosts)
    (h : ScansTo pingHost (batchesFrom hosts 0) [] pinged current) :
    LimitedPings MAX_CONCURRENCY hosts pinged current.underway
      (ForkJoin.Ended current) := by
  have hapart := scanLoop_apart pingHost
  have hsubperm := h.subperm
  rw [flatten_batchesFrom, List.drop_zero] at hsubperm
  obtain ⟨batch, hbatch, _, _, run⟩ := h.exists_run
  exact {
    underway_le := (length_underway_le current).trans
      ((ForkJoin.length_tasks_le_inputs hapart run).trans
        (length_le_of_mem_batchesFrom hbatch))
    nodup := nodup_of_subperm hsubperm (nodup_of_generateHosts hhosts)
    subset := hsubperm.subset
    left := ForkJoin.underway_of_ended hapart run }

/-! ## Both calls -/

/-- Whatever order the tasks are done in, a discovery and the scan of a subnet
have at most 32 pings under way, ping no address twice in the whole call and
leave no ping behind. -/
theorem pings_limited :
    (∀ (surroundings : Surroundings) trace state,
      Run (discoveryLoop surroundings).Step (discoveryStart surroundings) trace
          state →
        LimitedPings MAX_CONCURRENT (discoveryAddresses surroundings)
          (ForkJoin.finished trace) state.underway (ForkJoin.Ended state)) ∧
    ∀ (pingHost : Str → PingResult) (cidr : Str) hosts pinged state,
      generateHosts cidr = some hosts →
        ScansTo pingHost (batchesFrom hosts 0) [] pinged state →
          LimitedPings MAX_CONCURRENCY hosts pinged state.underway
            (ForkJoin.Ended state) := by
  refine ⟨fun surroundings trace state run => ?_,
    fun pingHost cidr hosts pinged state => limitedPings_of_scansTo⟩
  have hapart := discoveryLoop_apart surroundings
  have hsubperm := subperm_of_run hapart run
  have hwidth := ForkJoin.length_tasks_le (by decide)
    (fun n hn => decide_eq_true hn) run
  exact {
    underway_le := (length_underway_le state).trans hwidth
    nodup := nodup_of_subperm hsubperm
      (nodup_discoveryAddresses surroundings)
    subset := hsubperm.subset
    left := ForkJoin.underway_of_ended hapart run }

/-- Two hosts, of which the second one answers while the first is still being
pinged. -/
theorem pings_limited_twoHosts :
    let hosts := ["10.0.0.0".toList, "10.0.0.1".toList]
    ∃ state : ForkJoin.State Str Host (List Host),
      state.underway = ["10.0.0.0".toList] ∧
        LimitedPings MAX_CONCURRENCY hosts ["10.0.0.1".toList] state.underway
          (ForkJoin.Ended state) := by
  intro hosts
  have hhosts : generateHosts "10.0.0.0/31".toList = some hosts := by
    refine (@generateHosts_split "10.0.0.0".toList "31".toList (by decide)
      (by decide) (List.all_eq_true.mp (by decide)) (by decide)).trans ?_
    decide
  have launched :
      Run (scanLoop fun _ => {}).Step (ForkJoin.start hosts []) _ _ :=
    ((Run.refl _).tail (a := .main) rfl).tail (a := .main) rfl
  have finished := launched.tail (a := .finish 1) rfl
  have hbatches : batchesFrom hosts 0 = [hosts] := by
    rw [batchesFrom, batchesFrom]
    simp [hosts, MAX_CONCURRENCY]
  exact ⟨_, rfl, pings_limited.2 (fun _ => {}) "10.0.0.0/31".toList hosts _ _
    hhosts (by rw [hbatches]; exact .within finished)⟩

end SlipNet.Discovery
