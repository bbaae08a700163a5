import SlipNet.Foundation.FirstKept
import SlipNet.Security.VulnerabilityScanner

/-!
# The vulnerability report

Every rule of the scanner appends to the list it is given and names the host
and the port of the service it looks at.  The report holds the first finding
raised for each host, port and rule, so the order of the services matters only
to services of one endpoint.
-/

namespace SlipNet.Security.VulnerabilityScanner

open SlipNet.Foundation
open SlipNet.Standard
open SlipNet.Core

/-- What the five checks push for one service. -/
def raised (service : ServiceInfo) : List VulnerabilityFinding :=
  checkExposure service [] ++ (checkInsecureProtocol service [] ++
    (checkRemoteAccess service [] ++ (checkDatabaseExposure service [] ++
      checkLegacyVersion service [])))

/-- What `duplicateFinding` compares. -/
def findingKey (finding : VulnerabilityFinding) : Str × Int × Str :=
  (finding.host, finding.port, finding.id)

def Precedes (a b : VulnerabilityFinding) : Prop :=
  b.severity.toInt < a.severity.toInt ∨
    a.severity.toInt = b.severity.toInt ∧
      (b.confidence < a.confidence ∨ a.confidence = b.confidence ∧
        (a.host < b.host ∨ a.host = b.host ∧ a.port ≤ b.port))

variable {service : ServiceInfo} {finding pushed : VulnerabilityFinding}
  {services : List ServiceInfo}
  {check next : List VulnerabilityFinding → List VulnerabilityFinding}

/-! ## One service -/

/-- A check of a service appends findings for the endpoint of the service. -/
structure Raises (service : ServiceInfo)
    (check : List VulnerabilityFinding → List VulnerabilityFinding) :
    Prop where
  appends : ∀ findings, check findings = findings ++ check []
  endpoint : ∀ finding ∈ check [],
    (finding.host, finding.port) = service.endpoint

theorem Raises.nothing (service : ServiceInfo) :
    Raises service fun findings => findings where
  appends findings := (List.append_nil findings).symm
  endpoint := by simp

theorem Raises.push (applies : Bool)
    (hpushed : (pushed.host, pushed.port) = service.endpoint) :
    Raises service (pushIf applies pushed) where
  appends findings := by cases applies <;> simp [pushIf]
  endpoint finding hmem := by
    obtain ⟨_, rfl⟩ := (mem_pushIf.mp hmem).resolve_left (by simp)
    exact hpushed

theorem Raises.andThen (hcheck : Raises service check)
    (hnext : Raises service next) :
    Raises service fun findings => next (check findings) where
  appends findings := by
    rw [hnext.appends (check findings), hnext.appends (check []),
      hcheck.appends findings, List.append_assoc]
  endpoint finding hmem := by
    rw [hnext.appends, List.mem_append] at hmem
    exact hmem.elim (hcheck.endpoint finding) (hnext.endpoint finding)

variable (service)

theorem raises_checkExposure : Raises service (checkExposure service) := by
  unfold checkExposure
  split
  · exact .nothing service
  · exact ((Raises.push _ rfl).andThen (.push _ rfl)).andThen (.push _ rfl)

theorem raises_checkInsecureProtocol :
    Raises service (checkInsecureProtocol service) :=
  (((Raises.push _ rfl).andThen (.push _ rfl)).andThen
    (.push _ rfl)).andThen (.push _ rfl)

theorem raises_checkRemoteAccess :
    Raises service (checkRemoteAccess service) :=
  (Raises.push _ rfl).andThen (.push _ rfl)

theorem raises_checkDatabaseExposure :
    Raises service (checkDatabaseExposure service) :=
  .push _ rfl

theorem raises_checkLegacyVersion :
    Raises service (checkLegacyVersion service) := by
  unfold checkLegacyVersion
  split
  · exact .nothing service
  · exact (((Raises.push _ rfl).andThen (.push _ rfl)).andThen
      (.push _ rfl)).andThen (.push _ rfl)

/-- No check looks at what the others found. -/
theorem checkService_eq (findings : List VulnerabilityFinding) :
    checkService findings service = findings ++ raised service := by
  rw [checkService, (raises_checkLegacyVersion service).appends,
    (raises_checkDatabaseExposure service).appends,
    (raises_checkRemoteAccess service).appends,
    (raises_checkInsecureProtocol service).appends,
    (raises_checkExposure service).appends]
  simp only [raised, List.append_assoc]

variable {service}

theorem endpoint_of_mem_raised (h : finding ∈ raised service) :
    (finding.host, finding.port) = service.endpoint := by
  simp only [raised, List.mem_append] at h
  rcases h with h | h | h | h | h
  · exact (raises_checkExposure service).endpoint finding h
  · exact (raises_checkInsecureProtocol service).endpoint finding h
  · exact (raises_checkRemoteAccess service).endpoint finding h
  · exact (raises_checkDatabaseExposure service).endpoint finding h
  · exact (raises_checkLegacyVersion service).endpoint finding h

/-! ## The whole report -/

theorem keepFirst_eq (unique : List VulnerabilityFinding)
    (finding : VulnerabilityFinding) :
    keepFirst unique finding = keep findingKey unique finding := by
  have hkey : ∀ host port id, duplicateFinding unique host port id =
      (lookup findingKey (host, port, id) unique).isSome := by
    intro host port id
    rw [lookup, List.isSome_find?]
    refine congrArg (unique.any ·) (funext fun other => ?_)
    simp [findingKey, Bool.and_assoc]
  rw [keepFirst, keep, hkey]
  rfl

theorem scan_eq (std : SortRoutine VulnerabilityFinding)
    (services : List ServiceInfo) : scan std services =
      std.sort riskOrder (firsts findingKey (services.flatMap raised)) := by
  have hcollected : services.foldl checkService [] =
      services.flatMap raised :=
    foldl_appends (fun findings service => checkService_eq service findings)
      []
  rw [scan, hcollected, firsts]
  exact congrArg _ (List.foldl_ext _ _ _ fun unique finding _ =>
    keepFirst_eq unique finding)

theorem riskOrder_eq_false_iff {a b : VulnerabilityFinding} :
    riskOrder b a = false ↔ Precedes a b := by
  rw [← Bool.not_eq_true, riskOrder_iff, not_lt, Precedes]
  simp only [riskKey, Prod.Lex.toLex_le_toLex, OrderDual.toDual_lt_toDual,
    OrderDual.toDual_inj]

theorem mem_scan_iff (std : SortRoutine VulnerabilityFinding) :
    finding ∈ scan std services ↔ lookup findingKey (findingKey finding)
      (services.flatMap raised) = some finding := by
  rw [scan_eq, std.mem_sort riskOrder_strictWeakOrder, mem_firsts_iff]

theorem nodup_key_scan (std : SortRoutine VulnerabilityFinding)
    (services : List ServiceInfo) :
    ((scan std services).map findingKey).Nodup := by
  have hperm := std.perm riskOrder_strictWeakOrder
    (firsts findingKey (services.flatMap raised))
  rw [scan_eq]
  exact (hperm.map findingKey).nodup_iff.mpr (nodup_key_firsts _)

theorem scan_ordered (std : SortRoutine VulnerabilityFinding)
    (services : List ServiceInfo) :
    (scan std services).Pairwise Precedes := by
  rw [scan_eq]
  exact (std.sorted riskOrder_strictWeakOrder _).imp
    riskOrder_eq_false_iff.mp

/-- Of services with distinct endpoints, one at most raises a given key. -/
theorem mem_scan_iff_of_distinct (std : SortRoutine VulnerabilityFinding)
    (hdistinct : (services.map ServiceInfo.endpoint).Nodup) :
    finding ∈ scan std services ↔ ∃ service ∈ services,
      lookup findingKey (findingKey finding) (raised service) =
        some finding := by
  rw [mem_scan_iff]
  refine lookup_flatMap_iff fun a ha b hb hka hkb => ?_
  refine List.inj_on_of_nodup_map hdistinct ha hb ?_
  have hendpoint : ∀ service, findingKey finding ∈
      (raised service).map findingKey →
      service.endpoint = (finding.host, finding.port) := by
    intro service hkey
    obtain ⟨other, hother, hsame⟩ := List.mem_map.mp hkey
    rw [← endpoint_of_mem_raised hother]
    simp only [findingKey, Prod.mk.injEq] at hsame
    rw [hsame.1, hsame.2.1]
  rw [hendpoint a hka, hendpoint b hkb]

/-- A scan reports exactly the first finding raised for each host, port and
rule, the gravest first, and with distinct endpoints neither the order of the
services nor the sorting algorithm changes which. -/
theorem scan_reports (std : SortRoutine VulnerabilityFinding)
    (services : List ServiceInfo) :
    ((scan std services).map findingKey).Nodup ∧
    (∀ finding, finding ∈ scan std services ↔
      lookup findingKey (findingKey finding) (services.flatMap raised) =
        some finding) ∧
    (scan std services).Pairwise Precedes ∧
    StrictWeakOrder riskOrder ∧
    ((services.map ServiceInfo.endpoint).Nodup →
      ∀ (other : SortRoutine VulnerabilityFinding)
        (permuted : List ServiceInfo), permuted.Perm services →
        (scan other permuted).Perm (scan std services)) := by
  refine ⟨nodup_key_scan std services, fun _ => mem_scan_iff std,
    scan_ordered std services, riskOrder_strictWeakOrder,
    fun hdistinct other permuted hperm => ?_⟩
  have hpermuted : (permuted.map ServiceInfo.endpoint).Nodup :=
    (hperm.map ServiceInfo.endpoint).nodup_iff.mpr hdistinct
  refine (List.perm_ext_iff_of_nodup (nodup_key_scan other permuted).of_map
    (nodup_key_scan std services).of_map).mpr fun finding => ?_
  rw [mem_scan_iff_of_distinct other hpermuted,
    mem_scan_iff_of_distinct std hdistinct]
  simp only [hperm.mem_iff]

/-- A host with SMB, and a web server that is recorded on two hosts. -/
theorem scan_reports_three :
    let services : List ServiceInfo :=
      [{ ip := "10.0.0.5".toList, port := 445 },
        { ip := "10.0.0.5".toList, port := 80 },
        { ip := "10.0.0.4".toList, port := 80 }]
    let std := SortRoutine.merge VulnerabilityFinding
    ∀ (other : SortRoutine VulnerabilityFinding)
      (permuted : List ServiceInfo), permuted.Perm services →
      (scan other permuted).Perm (scan std services) :=
  (scan_reports _ _).2.2.2.2 (by decide)

end SlipNet.Security.VulnerabilityScanner
