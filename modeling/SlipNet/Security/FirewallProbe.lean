import SlipNet.Platform.Firewall

/-!
# The firewall report

`FirewallProbe::analyze` probes the ports one after the other, counts how they
answered and draws a conclusion from the counters.  The counters are natural
numbers here: as `int`s they would overflow only for a list of 2 ^ 31 ports.
The conclusion does not look at the ports that stayed unknown, so ports are
called reachable that are not.
-/

namespace SlipNet.Security

open SlipNet.Standard
open SlipNet.Platform

inductive FirewallState
  | open
  | closed
  | filtered
  | unknown
  deriving DecidableEq, Repr

structure FirewallObservation where
  host : Str
  port : Int := 0
  state : FirewallState := .unknown
  latencyMs : Int := -1
  evidence : Str := []
  deriving DecidableEq, Repr

structure FirewallReport where
  host : Str
  observed : Nat := 0
  «open» : Nat := 0
  closed : Nat := 0
  filtered : Nat := 0
  unknown : Nat := 0
  hasEvidenceOfFiltering : Bool := false
  observations : List FirewallObservation := []
  conclusion : Str := []
  deriving DecidableEq, Repr

namespace FirewallProbe

def convertState : FirewallProbeState → FirewallState
  | .open => .open
  | .closed => .closed
  | .filtered => .filtered
  | .unknown => .unknown

/-! ## The conclusions -/

def noPorts : Str := "No valid TCP ports were available for probing.".toList

def filtering : Str :=
  ("Filtering behavior was observed on one or more TCP ports. This " ++
    "indicates packet filtering or silent traffic dropping, but does not " ++
    "identify a specific firewall product.").toList

def mixed : Str :=
  ("Both reachable and explicitly refused TCP ports were observed. No " ++
    "filtering behavior was directly identified in the tested ports.").toList

def reachable : Str :=
  ("The tested ports responded as reachable. No filtering behavior was " ++
    "directly observed.").toList

def refused : Str :=
  ("All tested ports explicitly refused the TCP connection. No filtering " ++
    "behavior was directly observed.").toList

def insufficient : Str :=
  ("The available observations were insufficient to determine firewall " ++
    "behavior.").toList

def conclude (report : FirewallReport) : FirewallReport :=
  { report with
    conclusion :=
      if report.observed = 0 then noPorts
      else if report.filtered > 0 then filtering
      else if report.open > 0 ∧ report.closed > 0 then mixed
      else if report.open > 0 then reachable
      else if report.closed = report.observed then refused
      else insufficient }

/-! ## The loop -/

abbrev Probe := Int × FirewallProbeResult

def observe (host : Str) (probe : Probe) : FirewallObservation where
  host := host
  port := probe.1
  state := convertState probe.2.state
  latencyMs := probe.2.latencyMs
  evidence := probe.2.evidence

def count (report : FirewallReport) : FirewallState → FirewallReport
  | .open => { report with «open» := report.open + 1 }
  | .closed => { report with closed := report.closed + 1 }
  | .filtered =>
      { report with
        filtered := report.filtered + 1
        hasEvidenceOfFiltering := true }
  | .unknown => { report with unknown := report.unknown + 1 }

def probePort (report : FirewallReport) (probe : Probe) : FirewallReport :=
  if probe.1 < 1 ∨ probe.1 > 65535 then report
  else
    let observation := observe report.host probe
    let counted :=
      count { report with observed := report.observed + 1 } observation.state
    { counted with observations := counted.observations ++ [observation] }

def analyze (host : Str) (probes : List Probe) : FirewallReport :=
  conclude (probes.foldl probePort { host := host })

/-! ## What a report says -/

def observations (host : Str) (probes : List Probe) :
    List FirewallObservation :=
  (probes.filter fun probe => 1 ≤ probe.1 ∧ probe.1 ≤ 65535).map (observe host)

def Shows (observations : List FirewallObservation) (state : FirewallState) :
    Prop :=
  ∃ observation ∈ observations, observation.state = state

/-- The conclusions with what they say of the observations. -/
def meanings (observations : List FirewallObservation) : List (Str × Prop) :=
  [(noPorts, observations = []),
    (filtering, Shows observations .filtered),
    (mixed, Shows observations .open ∧ Shows observations .closed ∧
      ¬ Shows observations .filtered),
    (reachable, ∀ observation ∈ observations, observation.state = .open),
    (refused, ∀ observation ∈ observations, observation.state = .closed),
    (insufficient, Shows observations .unknown)]

def TrueOf (observations : List FirewallObservation) (conclusion : Str) :
    Prop :=
  conclusion ∈ (meanings observations).map Prod.fst ∧
    ∀ meaning, (conclusion, meaning) ∈ meanings observations → meaning

/-- The report is consistent, and its conclusion true of the observations. -/
structure Sound (host : Str) (probes : List Probe) (report : FirewallReport) :
    Prop where
  observations : report.observations = observations host probes
  observed : report.observed = report.observations.length
  counted : report.observed =
    report.open + report.closed + report.filtered + report.unknown
  evidence : report.hasEvidenceOfFiltering = true ↔
    Shows report.observations .filtered
  conclusion : TrueOf report.observations report.conclusion

def Answers (probes : List Probe) (state : FirewallProbeState) : Prop :=
  ∃ probe ∈ probes, (1 ≤ probe.1 ∧ probe.1 ≤ 65535) ∧ probe.2.state = state

/-! ## The counters -/

def tally (host : Str) (observations : List FirewallObservation) :
    FirewallReport where
  host := host
  observed := observations.length
  «open» := observations.countP (·.state = .open)
  closed := observations.countP (·.state = .closed)
  filtered := observations.countP (·.state = .filtered)
  unknown := observations.countP (·.state = .unknown)
  hasEvidenceOfFiltering := observations.any (·.state = .filtered)
  observations := observations

theorem probePort_tally (host : Str) (observed : List FirewallObservation)
    (probe : Probe) :
    probePort (tally host observed) probe =
      tally host (observed ++ observations host [probe]) := by
  rw [probePort]
  split
  · next hrange =>
      have hnone : observations host [probe] = [] := by
        rw [observations, List.filter_cons_of_neg (by
          simp only [decide_eq_true_eq]
          omega)]
        rfl
      rw [hnone, List.append_nil]
  · next hrange =>
      have hone : observations host [probe] = [observe host probe] := by
        rw [observations, List.filter_cons_of_pos (by
          simp only [decide_eq_true_eq]
          omega)]
        rfl
      rw [hone]
      cases hstate : convertState probe.2.state <;>
        simp [tally, count, observe, hstate, List.countP_append]

theorem foldl_probePort (host : Str) (probes : List Probe)
    (observed : List FirewallObservation) :
    probes.foldl probePort (tally host observed) =
      tally host (observed ++ observations host probes) := by
  induction probes generalizing observed with
  | nil => simp [observations]
  | cons probe probes ih =>
      have hsplit : observations host (probe :: probes) =
          observations host [probe] ++ observations host probes := by
        rw [observations, observations, observations, ← List.map_append,
          ← List.filter_append, List.singleton_append]
      rw [List.foldl_cons, probePort_tally, ih, hsplit, List.append_assoc]

theorem analyze_eq (host : Str) (probes : List Probe) :
    analyze host probes = conclude (tally host (observations host probes)) := by
  rw [analyze]
  exact congrArg conclude (foldl_probePort host probes [])

theorem length_eq_counts (observed : List FirewallObservation) :
    observed.length =
      observed.countP (·.state = .open) + observed.countP (·.state = .closed) +
        observed.countP (·.state = .filtered) +
        observed.countP (·.state = .unknown) := by
  induction observed with
  | nil => rfl
  | cons observation observed ih =>
      cases hstate : observation.state <;>
        simp [hstate] <;> omega

/-- No counter exceeds the number of ports, so an `int` holds all of them. -/
theorem counters_lt {host : Str} {probes : List Probe}
    (h : probes.length < 2 ^ 31) :
    let report := analyze host probes
    ∀ counter ∈ [report.observed, report.open, report.closed,
      report.filtered, report.unknown], counter < 2 ^ 31 := by
  intro report
  have hobserved : report.observed ≤ probes.length := by
    have hlength : report.observed = (observations host probes).length := by
      rw [show report = _ from analyze_eq host probes]
      rfl
    rw [hlength, observations, List.length_map]
    exact List.length_filter_le _ probes
  have hcounts : report.observed = report.open + report.closed +
      report.filtered + report.unknown := by
    rw [show report = _ from analyze_eq host probes]
    exact length_eq_counts _
  simp only [List.forall_mem_cons, List.not_mem_nil, false_imp_iff,
    implies_true, and_true]
  omega

theorem countP_pos_iff_shows {observed : List FirewallObservation}
    {state : FirewallState} :
    0 < observed.countP (·.state = state) ↔ Shows observed state := by
  rw [List.countP_pos_iff]
  simp [Shows]

/-! ## The conclusion -/

variable {host : Str} {observed : List FirewallObservation}

theorem trueOf_iff {conclusion : Str} {meaning : Prop}
    (h : (conclusion, meaning) ∈ meanings observed) :
    TrueOf observed conclusion ↔ meaning := by
  have htexts : (meanings observed).map Prod.fst =
      [noPorts, filtering, mixed, reachable, refused, insufficient] := by
    simp only [meanings, List.map_cons, List.map_nil]
  have hnodup : ((meanings observed).map Prod.fst).Nodup := by
    rw [htexts]
    unfold noPorts filtering mixed reachable refused insufficient
    -- Compared as strings; their characters take the kernel much longer.
    simp only [List.nodup_cons, List.mem_cons, List.not_mem_nil, or_false,
      String.toList_inj]
    decide +kernel
  constructor
  · exact fun htrue => htrue.2 meaning h
  · intro hmeaning
    refine ⟨List.mem_map_of_mem h, fun other hother => ?_⟩
    have hsame := List.inj_on_of_nodup_map hnodup hother h rfl
    rwa [(Prod.mk.inj hsame).2]

/-- The cascade goes wrong where some ports are open and the others unknown. -/
theorem trueOf_conclude_iff :
    TrueOf observed (conclude (tally host observed)).conclusion ↔
      Shows observed .closed ∨ Shows observed .filtered ∨
        ¬ Shows observed .open ∨ ¬ Shows observed .unknown := by
  have hcounts := length_eq_counts observed
  have hopens := @countP_pos_iff_shows observed .open
  have hcloses := @countP_pos_iff_shows observed .closed
  have hfilters := @countP_pos_iff_shows observed .filtered
  have hunknowns := @countP_pos_iff_shows observed .unknown
  rw [conclude, tally]
  dsimp only
  split_ifs with hnone hfiltered hmixed hopen hrefused
  · have hempty := List.length_eq_zero_iff.mp hnone
    refine iff_of_true ((trueOf_iff (.head _)).mpr hempty) ?_
    simp [Shows, hempty]
  · exact iff_of_true ((trueOf_iff (.tail _ (.head _))).mpr
      (hfilters.mp hfiltered)) (.inr (.inl (hfilters.mp hfiltered)))
  · refine iff_of_true ((trueOf_iff (.tail _ (.tail _ (.head _)))).mpr
      ⟨hopens.mp hmixed.1, hcloses.mp hmixed.2, ?_⟩)
      (.inl (hcloses.mp hmixed.2))
    exact fun hshows => hfiltered (hfilters.mpr hshows)
  · rw [trueOf_iff (.tail _ (.tail _ (.tail _ (.head _))))]
    have hshown := hopens.mp hopen
    have hclosed : ¬ Shows observed .closed := fun h =>
      hmixed ⟨hopen, hcloses.mpr h⟩
    have hunfiltered : ¬ Shows observed .filtered := fun h =>
      hfiltered (hfilters.mpr h)
    constructor
    · rintro hall
      refine .inr (.inr (.inr ?_))
      rintro ⟨observation, hmem, hunknown⟩
      rw [hall observation hmem] at hunknown
      cases hunknown
    · rintro (h | h | h | hunknown) observation hmem
      · exact absurd h hclosed
      · exact absurd h hunfiltered
      · exact absurd hshown h
      · cases hstate : observation.state with
        | «open» => rfl
        | closed => exact absurd ⟨observation, hmem, hstate⟩ hclosed
        | filtered => exact absurd ⟨observation, hmem, hstate⟩ hunfiltered
        | unknown => exact absurd ⟨observation, hmem, hstate⟩ hunknown
  · have hunopened : ¬ Shows observed .open := fun h => hopen (hopens.mpr h)
    refine iff_of_true ((trueOf_iff
      (.tail _ (.tail _ (.tail _ (.tail _ (.head _)))))).mpr ?_)
      (.inr (.inr (.inl hunopened)))
    intro observation hmem
    simpa using List.countP_eq_length.mp hrefused observation hmem
  · have hunopened : ¬ Shows observed .open := fun h => hopen (hopens.mpr h)
    refine iff_of_true ((trueOf_iff
      (.tail _ (.tail _ (.tail _ (.tail _ (.tail _ (.head _))))))).mpr ?_)
      (.inr (.inr (.inl hunopened)))
    rw [← hunknowns]
    omega

theorem shows_observations_iff (host : Str) (probes : List Probe)
    (state : FirewallProbeState) :
    Shows (observations host probes) (convertState state) ↔
      Answers probes state := by
  have hconvert : ∀ first second, convertState first = convertState second ↔
      first = second := by
    intro first second
    cases first <;> cases second <;> decide
  simp only [Shows, Answers, observations, List.mem_map, List.mem_filter,
    decide_eq_true_eq]
  constructor
  · rintro ⟨_, ⟨probe, ⟨hmem, hrange⟩, rfl⟩, hstate⟩
    exact ⟨probe, hmem, hrange, (hconvert _ _).mp hstate⟩
  · rintro ⟨probe, hmem, hrange, rfl⟩
    exact ⟨_, ⟨probe, ⟨hmem, hrange⟩, rfl⟩, rfl⟩

/-- The report is sound exactly if it is not the case that the ports are partly
open and otherwise unknown. -/
theorem sound_analyze_iff (host : Str) (probes : List Probe) :
    Sound host probes (analyze host probes) ↔
      Answers probes .closed ∨ Answers probes .filtered ∨
        ¬ Answers probes .open ∨ ¬ Answers probes .unknown := by
  rw [analyze_eq]
  have hconclusion := @trueOf_conclude_iff host (observations host probes)
  have hstates := shows_observations_iff host probes
  simp only [← hstates]
  constructor
  · exact fun h => hconclusion.mp h.conclusion
  · intro h
    refine ⟨rfl, rfl, length_eq_counts _, ?_, hconclusion.mpr h⟩
    simp [conclude, tally, Shows]

def webAndUnknown : List Probe :=
  [(80, { state := .open, port := 80 }),
    (81, { state := .unknown, port := 81 })]

theorem not_sound_webAndUnknown :
    (analyze "10.0.0.5".toList webAndUnknown).conclusion = reachable ∧
      ¬ Sound "10.0.0.5".toList webAndUnknown
        (analyze "10.0.0.5".toList webAndUnknown) := by
  refine ⟨rfl, fun h => ?_⟩
  have hshows := trueOf_conclude_iff.mp (analyze_eq _ _ ▸ h.conclusion)
  unfold Shows at hshows
  revert hshows
  decide

end FirewallProbe

end SlipNet.Security
