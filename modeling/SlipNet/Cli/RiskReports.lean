import SlipNet.Cli.CommandHandler
import SlipNet.Foundation.Grading
import SlipNet.Security.CredentialReport
import SlipNet.Security.VulnerabilityReport

/-!
# The risk reports

`vuln|:scan` and `cred|:check` count their findings by severity and print the
highest severity as the risk level.  With an address they report what concerns
that host: these reports make up the one for all hosts, finding by finding,
count by count, and in the risk level.
-/

namespace SlipNet.Cli

open SlipNet.Foundation
open SlipNet.Standard
open SlipNet.Core
open SlipNet.Security

/-! ## Counting -/

/-- The labels of the risk level. -/
inductive RiskLevel
  | informational | low | medium | high | critical
  deriving DecidableEq, Repr

namespace RiskLevel

def rank : RiskLevel → Nat
  | .informational => 0
  | .low => 1
  | .medium => 2
  | .high => 3
  | .critical => 4

theorem rank_injective : Function.Injective rank := by
  intro a b h
  cases a <;> cases b <;> first | rfl | cases h

instance : LinearOrder RiskLevel := LinearOrder.lift' rank rank_injective

theorem le_iff {a b : RiskLevel} : a ≤ b ↔ a.rank ≤ b.rank := Iff.rfl

instance : OrderBot RiskLevel where
  bot := .informational
  bot_le _ := Nat.zero_le _

end RiskLevel

structure RiskCounts where
  critical : Nat := 0
  high : Nat := 0
  medium : Nat := 0
  low : Nat := 0
  info : Nat := 0
  deriving DecidableEq, Repr

namespace RiskCounts

/-- The `switch` of the counting loop. -/
def add (counts : RiskCounts) : RiskLevel → RiskCounts
  | .critical => { counts with critical := counts.critical + 1 }
  | .high => { counts with high := counts.high + 1 }
  | .medium => { counts with medium := counts.medium + 1 }
  | .low => { counts with low := counts.low + 1 }
  | .informational => { counts with info := counts.info + 1 }

def level (counts : RiskCounts) : RiskLevel :=
  if counts.critical > 0 then .critical
  else if counts.high > 0 then .high
  else if counts.medium > 0 then .medium
  else if counts.low > 0 then .low
  else .informational

def count (counts : RiskCounts) : RiskLevel → Nat
  | .critical => counts.critical
  | .high => counts.high
  | .medium => counts.medium
  | .low => counts.low
  | .informational => counts.info

theorem count_add (counts : RiskCounts) (added level : RiskLevel) :
    (counts.add added).count level =
      counts.count level + if added = level then 1 else 0 := by
  cases added <;> cases level <;> rfl

end RiskCounts

def countRisks (levels : List RiskLevel) : RiskCounts :=
  levels.foldl RiskCounts.add {}

theorem count_countRisks (levels : List RiskLevel) (level : RiskLevel) :
    (countRisks levels).count level = levels.countP fun other =>
      other = level := by
  have hcounts (counts : RiskCounts) :
      (levels.foldl RiskCounts.add counts).count level =
        counts.count level + levels.countP fun other => other = level := by
    induction levels generalizing counts with
    | nil => rfl
    | cons first levels ih =>
        rw [List.foldl_cons, ih, RiskCounts.count_add, List.countP_cons]
        simp only [decide_eq_true_eq]
        omega
  rw [countRisks, hcounts]
  cases level <;> exact Nat.zero_add _

theorem count_pos_iff {levels : List RiskLevel} {level : RiskLevel} :
    0 < (countRisks levels).count level ↔ level ∈ levels := by
  simp [count_countRisks, List.countP_pos_iff]

theorem RiskCounts.le_level {counts : RiskCounts} {level : RiskLevel}
    (h : 0 < counts.count level) : level ≤ counts.level := by
  unfold RiskCounts.level
  cases level <;> simp only [RiskCounts.count] at h <;> split_ifs <;> decide

theorem RiskCounts.level_occurs (counts : RiskCounts) :
    counts.level = .informational ∨ 0 < counts.count counts.level := by
  unfold RiskCounts.level
  split_ifs with hcritical hhigh hmedium hlow
  · exact .inr hcritical
  · exact .inr hhigh
  · exact .inr hmedium
  · exact .inr hlow
  · exact .inl rfl

theorem level_countRisks (levels : List RiskLevel) :
    (countRisks levels).level = gravest levels := by
  refine le_antisymm ?_ (gravest_le_iff.mpr fun level hlevel =>
    RiskCounts.le_level (count_pos_iff.mpr hlevel))
  rcases (countRisks levels).level_occurs with hnone | hoccurs
  · rw [hnone]
    exact bot_le
  · exact le_gravest (count_pos_iff.mp hoccurs)

/-! ## The reports -/

structure Assessment (Finding : Type) where
  findings : List Finding
  counts : RiskCounts
  level : RiskLevel

variable {Finding : Type}

def assess (grade : Finding → RiskLevel) (findings : List Finding) :
    Assessment Finding :=
  let counts := countRisks (findings.map grade)
  { findings := findings, counts := counts, level := counts.level }

def vulnerabilityLevel (finding : VulnerabilityFinding) : RiskLevel :=
  match finding.severity with
  | .critical => .critical
  | .high => .high
  | .medium => .medium
  | .low => .low
  | .info => .informational

def credentialLevel (finding : CredentialFinding) : RiskLevel :=
  match finding.risk with
  | .critical => .critical
  | .high => .high
  | .medium => .medium
  | .low => .low
  | .info => .informational

/-- `handleVulnScan`, with its summary. -/
def vulnAssessment (std : SortRoutine VulnerabilityFinding)
    (network : NetworkState) (arguments : List Str) :
    Except Str (Assessment VulnerabilityFinding) := do
  let findings ← handleVulnScan std network arguments
  return assess vulnerabilityLevel findings

/-- `handleCredCheck`, with its summary. -/
def credAssessment (std : SortRoutine CredentialFinding)
    (network : NetworkState) (arguments : List Str) :
    Except Str (Assessment CredentialFinding) := do
  let findings ← handleCredCheck std network arguments
  return assess credentialLevel findings

/-! ## Reports of single hosts -/

/-- The reports of the hosts make up the whole one, which lists the gravest
finding first.  All of them are in one order, so they can differ only in how
findings stand that may each precede the other. -/
structure Splits (host : Finding → Str) (grade : Finding → RiskLevel)
    (precedes : Finding → Finding → Prop) (ips : Finset Str)
    (whole : Assessment Finding) (reports : Str → Assessment Finding) :
    Prop where
  findings : ∀ ip, (reports ip).findings.Perm
    (whole.findings.filter fun finding => host finding = ip)
  ordered : whole.findings.Pairwise precedes
  orderedParts : ∀ ip, (reports ip).findings.Pairwise precedes
  counts : ∀ level, whole.counts.count level =
    ∑ ip ∈ ips, (reports ip).counts.count level
  level : whole.level = ips.sup fun ip => (reports ip).level
  gravestFirst : ∀ finding rest, whole.findings = finding :: rest →
    whole.level = grade finding

theorem splits_of_parts {host : Finding → Str} {grade : Finding → RiskLevel}
    {precedes : Finding → Finding → Prop} {ips : Finset Str}
    {whole : List Finding} {parts : Str → List Finding}
    (hparts : ∀ ip, (parts ip).Perm
      (whole.filter fun finding => host finding = ip))
    (hhost : ∀ finding ∈ whole, host finding ∈ ips)
    (hgrade : ∀ {a b}, precedes a b → grade b ≤ grade a)
    (hordered : whole.Pairwise precedes)
    (horderedParts : ∀ ip, (parts ip).Pairwise precedes) :
    Splits host grade precedes ips (assess grade whole)
      fun ip => assess grade (parts ip) where
  findings := hparts
  ordered := hordered
  orderedParts := horderedParts
  counts level := by
    have hpart (ip : Str) : (countRisks ((parts ip).map grade)).count level =
        (whole.filter fun finding => host finding = ip).countP
          fun finding => grade finding = level := by
      rw [count_countRisks, List.countP_map, (hparts ip).countP_eq]
      rfl
    simp only [assess, hpart]
    rw [count_countRisks, List.countP_map]
    exact countP_eq_sum_parts hhost _
  level := by
    have hpart (ip : Str) : gravest ((parts ip).map grade) =
        gravest ((whole.filter fun finding => host finding = ip).map grade) :=
      gravest_perm ((hparts ip).map grade)
    simp only [assess, level_countRisks, hpart]
    exact gravest_eq_sup_parts hhost grade
  gravestFirst finding rest hwhole := by
    change whole = finding :: rest at hwhole
    subst hwhole
    rw [assess, level_countRisks, List.map_cons]
    refine gravest_cons_of_pairwise ?_
    rw [← List.map_cons, List.pairwise_map]
    exact hordered.imp hgrade

/-! ## The two scanners -/

variable {network : NetworkState} {ip : Str} {services : List ServiceInfo}

theorem vulnScan_filter (std : SortRoutine VulnerabilityFinding) (ip : Str)
    (services : List ServiceInfo) :
    (VulnerabilityScanner.scan std (services.filter fun service =>
        service.ip = ip)).Perm
      ((VulnerabilityScanner.scan std services).filter fun finding =>
        finding.host = ip) := by
  have hraised : (services.filter fun service => service.ip = ip).flatMap
      VulnerabilityScanner.raised =
        (services.flatMap VulnerabilityScanner.raised).filter fun finding =>
          finding.host = ip := by
    refine flatMap_filter (fun service finding h => ?_) services
    have hendpoint := VulnerabilityScanner.endpoint_of_mem_raised h
    rw [show finding.host = service.ip from (Prod.mk.inj hendpoint).1]
  have hfirsts : firsts VulnerabilityScanner.findingKey
      ((services.flatMap VulnerabilityScanner.raised).filter fun finding =>
        finding.host = ip) = _ :=
    firsts_filter (fun k : Str × Int × Str => k.1 = ip) _
  have hperm := VulnerabilityScanner.riskOrder_strictWeakOrder
  rw [VulnerabilityScanner.scan_eq, VulnerabilityScanner.scan_eq, hraised,
    hfirsts]
  exact (std.perm hperm _).trans ((std.perm hperm _).symm.filter _)

theorem credCheck_filter (std : SortRoutine CredentialFinding) (ip : Str)
    (services : List ServiceInfo) :
    (CredentialChecker.check std (services.filter fun service =>
        service.ip = ip)).Perm
      ((CredentialChecker.check std services).filter fun finding =>
        finding.host = ip) := by
  have hcollected (services : List ServiceInfo) :
      services.foldl CredentialChecker.checkService [] =
        services.flatMap CredentialChecker.raised :=
    foldl_appends CredentialChecker.checkService_eq []
  have hraised : (services.filter fun service => service.ip = ip).flatMap
      CredentialChecker.raised =
        (services.flatMap CredentialChecker.raised).filter fun finding =>
          finding.host = ip := by
    refine flatMap_filter (fun service finding h => ?_) services
    have hendpoint := CredentialChecker.endpoint_of_mem_raised h
    rw [show finding.host = service.ip from (Prod.mk.inj hendpoint).1]
  have hperm := CredentialChecker.riskOrder_strictWeakOrder
  rw [CredentialChecker.check, CredentialChecker.check, hcollected,
    hcollected, hraised]
  exact (std.perm hperm _).trans ((std.perm hperm _).symm.filter _)

theorem host_of_mem_vulnScan {std : SortRoutine VulnerabilityFinding}
    {finding : VulnerabilityFinding}
    (h : finding ∈ VulnerabilityScanner.scan std services) :
    finding.host ∈ services.map ServiceInfo.ip := by
  rw [VulnerabilityScanner.mem_scan_iff] at h
  obtain ⟨service, hservice, hraised⟩ :=
    List.mem_flatMap.mp (mem_of_lookup h)
  have hendpoint := VulnerabilityScanner.endpoint_of_mem_raised hraised
  exact List.mem_map.mpr ⟨service, hservice, (Prod.mk.inj hendpoint).1.symm⟩

theorem host_of_mem_credCheck {std : SortRoutine CredentialFinding}
    {finding : CredentialFinding}
    (h : finding ∈ CredentialChecker.check std services) :
    finding.host ∈ services.map ServiceInfo.ip := by
  rw [CredentialChecker.check, std.mem_sort
    CredentialChecker.riskOrder_strictWeakOrder,
    foldl_appends CredentialChecker.checkService_eq [], List.nil_append] at h
  obtain ⟨service, hservice, hraised⟩ := List.mem_flatMap.mp h
  have hendpoint := CredentialChecker.endpoint_of_mem_raised hraised
  exact List.mem_map.mpr ⟨service, hservice, (Prod.mk.inj hendpoint).1.symm⟩

theorem rank_vulnerabilityLevel (finding : VulnerabilityFinding) :
    ((vulnerabilityLevel finding).rank : Int) = finding.severity.toInt := by
  unfold vulnerabilityLevel
  cases finding.severity <;> rfl

theorem rank_credentialLevel (finding : CredentialFinding) :
    ((credentialLevel finding).rank : Int) = finding.risk.toInt := by
  unfold credentialLevel
  cases finding.risk <;> rfl

theorem vulnerabilityLevel_le {a b : VulnerabilityFinding}
    (h : VulnerabilityScanner.Precedes a b) :
    vulnerabilityLevel b ≤ vulnerabilityLevel a := by
  rw [RiskLevel.le_iff, ← Int.ofNat_le, rank_vulnerabilityLevel,
    rank_vulnerabilityLevel]
  rcases h with hless | ⟨hsame, -⟩ <;> omega

theorem credentialLevel_le {a b : CredentialFinding}
    (h : CredentialChecker.Precedes a b) :
    credentialLevel b ≤ credentialLevel a := by
  rw [RiskLevel.le_iff, ← Int.ofNat_le, rank_credentialLevel,
    rank_credentialLevel]
  rcases h with hless | ⟨hsame, -⟩ <;> omega

/-! ## The two commands -/

theorem serviceTargets_host {command : String} {closing : Str}
    (h : ip ∈ network.getServices.map ServiceInfo.ip) :
    serviceTargets command closing network [ip] =
      .ok (network.getServices.filter fun service => service.ip = ip) := by
  obtain ⟨service, hservice, rfl⟩ := List.mem_map.mp h
  have htarget : (network.getServices.filter fun other =>
      other.ip = service.ip) ≠ [] :=
    List.ne_nil_of_mem (List.mem_filter.mpr ⟨hservice, by simp⟩)
  rw [serviceTargets, if_neg (List.ne_nil_of_mem hservice)]
  exact if_neg htarget

theorem serviceTargets_all {command : String} {closing : Str}
    (h : network.getServices ≠ []) :
    serviceTargets command closing network [] = .ok network.getServices :=
  if_neg h

def serviceHosts (network : NetworkState) : Finset Str :=
  (network.getServices.map ServiceInfo.ip).toFinset

/-- With and without an address, the two commands report the same findings,
host by host. -/
theorem assessments_split (vulnStd : SortRoutine VulnerabilityFinding)
    (credStd : SortRoutine CredentialFinding)
    (hservices : network.getServices ≠ []) :
    (∃ whole reports, vulnAssessment vulnStd network [] = .ok whole ∧
      (∀ ip ∈ serviceHosts network,
        vulnAssessment vulnStd network [ip] = .ok (reports ip)) ∧
      Splits VulnerabilityFinding.host vulnerabilityLevel
        VulnerabilityScanner.Precedes (serviceHosts network) whole
        reports) ∧
    ∃ whole reports, credAssessment credStd network [] = .ok whole ∧
      (∀ ip ∈ serviceHosts network,
        credAssessment credStd network [ip] = .ok (reports ip)) ∧
      Splits CredentialFinding.host credentialLevel
        CredentialChecker.Precedes (serviceHosts network) whole reports := by
  constructor
  · refine ⟨_, fun ip => assess vulnerabilityLevel
      (VulnerabilityScanner.scan vulnStd (network.getServices.filter
        fun service => service.ip = ip)), ?_, fun ip hip => ?_,
      splits_of_parts (fun ip => vulnScan_filter vulnStd ip _)
        (fun finding h => List.mem_toFinset.mpr (host_of_mem_vulnScan h))
        vulnerabilityLevel_le (VulnerabilityScanner.scan_ordered vulnStd _)
        fun ip => VulnerabilityScanner.scan_ordered vulnStd _⟩
    · rw [vulnAssessment, handleVulnScan, serviceTargets_all hservices]
      rfl
    · rw [vulnAssessment, handleVulnScan,
        serviceTargets_host (List.mem_toFinset.mp hip)]
      rfl
  · refine ⟨_, fun ip => assess credentialLevel
      (CredentialChecker.check credStd (network.getServices.filter
        fun service => service.ip = ip)), ?_, fun ip hip => ?_,
      splits_of_parts (fun ip => credCheck_filter credStd ip _)
        (fun finding h => List.mem_toFinset.mpr (host_of_mem_credCheck h))
        credentialLevel_le (CredentialChecker.check_ordered credStd _)
        fun ip => CredentialChecker.check_ordered credStd _⟩
    · rw [credAssessment, handleCredCheck, if_neg (by simp),
        serviceTargets_all hservices]
      rfl
    · rw [credAssessment, handleCredCheck, if_neg (by simp),
        serviceTargets_host (List.mem_toFinset.mp hip)]
      rfl

def twoServices : NetworkState where
  services :=
    [{ ip := "10.0.0.5".toList, port := 445 },
      { ip := "10.0.0.4".toList, port := 22 }]

theorem assessments_split_two :
    ∃ whole reports, vulnAssessment (.merge _) twoServices [] = .ok whole ∧
      (∀ ip ∈ serviceHosts twoServices,
        vulnAssessment (.merge _) twoServices [ip] = .ok (reports ip)) ∧
      Splits VulnerabilityFinding.host vulnerabilityLevel
        VulnerabilityScanner.Precedes (serviceHosts twoServices) whole
        reports :=
  (assessments_split (.merge _) (.merge _) (by decide)).1

end SlipNet.Cli
