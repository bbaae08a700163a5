import SlipNet.Cli.CommandHandler
import SlipNet.Port.UninterruptedScan

/-!
# What a port scan reports and what is stored of it

A scan of a range without a stop reports every port of the clamped range once,
in ascending order, with the outcome of its connection.  `handlePortScan`
writes a record for every result under the scanned host and touches nothing
else.
-/

namespace SlipNet.Cli

open SlipNet.Foundation
open SlipNet.Standard
open SlipNet.Core
open SlipNet.Scanning

/-- One result for every port from the first to the last. -/
structure ReportsRange (first last : Int) (outcome : Int → Bool)
    (results : List Port) : Prop where
  numbers : ∀ port, port ∈ results.map Port.number ↔
    first ≤ port ∧ port ≤ last
  ascending : (results.map Port.number).Pairwise (· < ·)
  outcomes : ∀ result ∈ results, result.isOpen = outcome result.number

/-- The table of the host has the reported state of every result, everything
else is as before. -/
structure Stores (host : Str) (results : List Port)
    (before after : NetworkState) : Prop where
  scanned : ∀ result ∈ results,
    lookup PortInfo.port result.number (after.getPorts host) =
      some ⟨result.number, result.isOpen, "TCP".toList, []⟩
  otherPorts : ∀ port, port ∉ results.map Port.number →
    lookup PortInfo.port port (after.getPorts host) =
      lookup PortInfo.port port (before.getPorts host)
  otherHosts : ∀ ip, ip ≠ host → after.getPorts ip = before.getPorts ip
  hosts : after.getHosts = before.getHosts
  services : after.getServices = before.getServices
  wellKeyed : before.WellKeyed → after.WellKeyed

/-! ## Storing -/

variable {host ip : Str} {results : List Port}

theorem getPorts_storeResults_of_ne (hne : ip ≠ host)
    (network : NetworkState) :
    (storeResults host results network).getPorts ip = network.getPorts ip :=
  foldl_keeps (NetworkState.getPorts · ip) fun network result => by
    rw [NetworkState.getPorts_addPort, if_neg hne]

theorem lookup_storeResults_of_mem
    (hnodup : (results.map Port.number).Nodup) {result : Port}
    (h : result ∈ results) (network : NetworkState) :
    lookup PortInfo.port result.number
        ((storeResults host results network).getPorts host) =
      some result.info := by
  induction results generalizing network with
  | nil => cases h
  | cons first results ih =>
      rw [List.map_cons, List.nodup_cons] at hnodup
      rcases List.mem_cons.mp h with rfl | h
      · refine (lookup_storeResults_of_notMem hnodup.1).trans ?_
        rw [NetworkState.getPorts_addPort_self, lookup_put]
        exact if_pos rfl
      · exact ih hnodup.2 h (network.addPort host first.info)

theorem stores_storeResults (hnodup : (results.map Port.number).Nodup)
    (network : NetworkState) :
    Stores host results network (storeResults host results network) where
  scanned _ hresult := lookup_storeResults_of_mem hnodup hresult network
  otherPorts _ hport := lookup_storeResults_of_notMem hport
  otherHosts _ hne := getPorts_storeResults_of_ne hne network
  hosts := getHosts_storeResults network
  services := getServices_storeResults network
  wellKeyed hkeyed := wellKeyed_storeResults hkeyed host results

/-! ## Scanning -/

theorem reportsRange_of_results {first last : Int} {outcome : Int → Bool}
    (h : (results.map fun result => (result.number, result.isOpen)) =
      (portRange first last).map fun port => (port, outcome port)) :
    ReportsRange first last outcome results := by
  have hnumbers : results.map Port.number = portRange first last := by
    have hfirst := congrArg (List.map Prod.fst) h
    simpa [Function.comp_def] using hfirst
  refine ⟨fun port => ?_, ?_, fun result hresult => ?_⟩
  · rw [hnumbers, mem_portRange]
  · rw [hnumbers]
    exact portRange_sorted first last
  · have hmem := List.mem_map_of_mem (f := fun result =>
      (result.number, result.isOpen)) hresult
    rw [h] at hmem
    obtain ⟨port, _, hport⟩ := List.mem_map.mp hmem
    obtain ⟨rfl, hopen⟩ := Prod.mk.inj hport
    exact hopen.symm

/-- A scan of a range without a stop ends, whatever order its workers finish
in, and reports the outcome of every port of the clamped range; and whatever a
scan returns, the handler stores that and nothing else. -/
theorem scan_uninterrupted (std : SortRoutine Port) (startPort endPort : Int)
    (outcome : Int → Bool) {trace : List (ScanState × Action)}
    {state : ScanState}
    (run : Run (ScanStep std (.range startPort endPort))
      (ScanJob.range startPort endPort).start trace state)
    (hfollows : Throughout (Follows outcome) trace) :
    trace.length ≤ 8 * (ScanJob.range startPort endPort).ports.length + 3 ∧
    (state.pc ≠ .returned →
      CanStep std (.range startPort endPort) outcome state) ∧
    (state.pc = .returned →
      ReportsRange (max 1 startPort) (min 65535 endPort) outcome
        state.results) ∧
    ∀ arguments host job results network,
      portScanRequest arguments = .ok (host, job) → Returns std job results →
      Stores host results network
        (handlePortScan results arguments network) := by
  refine ⟨length_trace_le run hfollows,
    canStep_of_unstopped (unstopped_of_run run hfollows).2,
    fun hreturned =>
      reportsRange_of_results (results_of_returned run hfollows hreturned), ?_⟩
  intro arguments host job results network hrequest hreturns
  rw [handlePortScan, hrequest]
  exact stores_storeResults hreturns.nodup_numbers network

/-- Two ports, whose workers finish in the reverse order. -/
theorem scan_uninterrupted_twoPorts :
    ∃ trace state,
      Run (ScanStep (.merge Port) (.range 0 2)) (ScanJob.range 0 2).start trace
        state ∧
      trace.map Prod.snd = secondFirst ∧ state.pc = .returned ∧
      ReportsRange 1 2 (fun port => port = 2) state.results := by
  obtain ⟨trace, state, run, horder, hreturned, hfollows⟩ :=
    twoPorts_returned (.merge Port)
  exact ⟨trace, state, run, horder, hreturned,
    (scan_uninterrupted _ 0 2 _ run hfollows).2.2.1 hreturned⟩

end SlipNet.Cli
