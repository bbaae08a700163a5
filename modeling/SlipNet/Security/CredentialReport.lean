import SlipNet.Security.CredentialChecker

/-!
# The credential report

No port stands in two of the three tables of the credential checker, so a
service raises one finding at most, and two findings for one host and port come
from one service.  The order of the report leaves nothing open then, whatever
the order of the services and whatever the sorting algorithm.
-/

namespace SlipNet.Security.CredentialChecker

open SlipNet.Foundation
open SlipNet.Standard
open SlipNet.Core

/-- What the three checks push for one service. -/
def raised (service : ServiceInfo) : List CredentialFinding :=
  checkPlaintextAuthentication service [] ++
    (checkRemoteAuthenticationExposure service [] ++
      checkDatabaseAuthenticationExposure service [])

def Precedes (a b : CredentialFinding) : Prop :=
  b.risk.toInt < a.risk.toInt ∨ a.risk.toInt = b.risk.toInt ∧
    (a.host < b.host ∨ a.host = b.host ∧ a.port ≤ b.port)

variable {service : ServiceInfo} {finding : CredentialFinding}
  {services : List ServiceInfo}

/-! ## One service -/

theorem switch_eq (cases : List Case) (service : ServiceInfo)
    (findings : List CredentialFinding) :
    switch cases service findings = findings ++ switch cases service [] := by
  unfold switch
  split <;> simp

theorem raised_eq (service : ServiceInfo) :
    raised service = switch plaintextCases service [] ++
      (switch remoteCases service [] ++ switch databaseCases service []) :=
  rfl

theorem checkService_eq (findings : List CredentialFinding)
    (service : ServiceInfo) :
    checkService findings service = findings ++ raised service := by
  rw [raised_eq, ← List.append_assoc, ← List.append_assoc]
  rw [← switch_eq plaintextCases, ← switch_eq remoteCases,
    ← switch_eq databaseCases]
  rfl

theorem length_switch_le (cases : List Case) (service : ServiceInfo) :
    (switch cases service []).length ≤ 1 := by
  unfold switch
  split <;> simp

theorem switch_eq_nil {cases : List Case}
    (h : service.port ∉ cases.map Prod.fst) :
    switch cases service [] = [] := by
  unfold switch
  split
  · next port rule hfind =>
      have hport : service.port = port := by simpa using List.find?_some hfind
      exact absurd (hport ▸ List.mem_map_of_mem
        (List.mem_of_find?_eq_some hfind)) h
  · rfl

/-- A port label of one table is no label of the others. -/
theorem length_raised_le (service : ServiceInfo) :
    (raised service).length ≤ 1 := by
  have hlabels : (plaintextCases.map Prod.fst ++
      (remoteCases.map Prod.fst ++ databaseCases.map Prod.fst)).Nodup := by
    decide
  obtain ⟨_, hrest, hplaintext⟩ := List.nodup_append.mp hlabels
  obtain ⟨_, _, hremote⟩ := List.nodup_append.mp hrest
  rw [raised_eq, List.length_append, List.length_append]
  have hfirst := length_switch_le plaintextCases service
  have hsecond := length_switch_le remoteCases service
  have hthird := length_switch_le databaseCases service
  by_cases hp : service.port ∈ plaintextCases.map Prod.fst
  · have hr : service.port ∉ remoteCases.map Prod.fst := fun hr =>
      hplaintext _ hp _ (List.mem_append_left _ hr) rfl
    have hd : service.port ∉ databaseCases.map Prod.fst := fun hd =>
      hplaintext _ hp _ (List.mem_append_right _ hd) rfl
    simpa [switch_eq_nil hr, switch_eq_nil hd] using hfirst
  · rw [switch_eq_nil hp]
    by_cases hr : service.port ∈ remoteCases.map Prod.fst
    · have hd : service.port ∉ databaseCases.map Prod.fst := fun hd =>
        hremote _ hr _ hd rfl
      simpa [switch_eq_nil hd] using hsecond
    · simpa [switch_eq_nil hr] using hthird

theorem exists_of_mem_raised (h : finding ∈ raised service) :
    ∃ rule, (service.port, rule) ∈ allCases ∧ finding = rule service := by
  have hchecked : finding ∈ checkService [] service := by
    rw [checkService_eq]
    exact h
  exact (mem_checkService hchecked).resolve_left List.not_mem_nil

theorem endpoint_of_mem_raised (h : finding ∈ raised service) :
    (finding.host, finding.port) = service.endpoint := by
  obtain ⟨rule, hrule, rfl⟩ := exists_of_mem_raised h
  simp only [allCases, plaintextCases, remoteCases, databaseCases,
    List.cons_append, List.nil_append, List.mem_cons, Prod.mk.injEq,
    List.not_mem_nil, or_false] at hrule
  rcases hrule with h | h | h | h | h | h | h | h | h | h | h | h <;>
    rw [h.2] <;> rfl

/-! ## The whole report -/

theorem riskOrder_eq_false_iff {a b : CredentialFinding} :
    riskOrder b a = false ↔ Precedes a b := by
  rw [← Bool.not_eq_true, riskOrder_iff, not_lt, Precedes]
  simp only [riskKey, Prod.Lex.toLex_le_toLex, OrderDual.toDual_lt_toDual,
    OrderDual.toDual_inj]

theorem eq_of_mem_raised
    (hdistinct : (services.map ServiceInfo.endpoint).Nodup)
    {a b : CredentialFinding} (ha : a ∈ services.flatMap raised)
    (hb : b ∈ services.flatMap raised) (hhost : a.host = b.host)
    (hport : a.port = b.port) : a = b := by
  obtain ⟨first, hfirst, ha⟩ := List.mem_flatMap.mp ha
  obtain ⟨second, hsecond, hb⟩ := List.mem_flatMap.mp hb
  have hsame : first = second := by
    refine List.inj_on_of_nodup_map hdistinct hfirst hsecond ?_
    rw [← endpoint_of_mem_raised ha, ← endpoint_of_mem_raised hb, hhost,
      hport]
  subst hsame
  have hlength := length_raised_le first
  cases hraised : raised first with
  | nil => simp [hraised] at ha
  | cons finding rest =>
      obtain rfl : rest = [] := by
        rw [hraised, List.length_cons] at hlength
        exact List.length_eq_zero_iff.mp (by omega)
      rw [hraised, List.mem_singleton] at ha hb
      exact ha.trans hb.symm

theorem check_ordered (std : SortRoutine CredentialFinding)
    (services : List ServiceInfo) :
    (check std services).Pairwise Precedes :=
  (std.sorted riskOrder_strictWeakOrder _).imp riskOrder_eq_false_iff.mp

/-- A service raises one finding at most, and the findings raised are reported
in an order that the services and the sorting algorithm leave alone. -/
theorem check_reports (std : SortRoutine CredentialFinding)
    (services : List ServiceInfo)
    (hdistinct : (services.map ServiceInfo.endpoint).Nodup) :
    (∀ findings, ∀ service ∈ services, (raised service).length ≤ 1 ∧
      checkService findings service = findings ++ raised service) ∧
    (check std services).Perm (services.flatMap raised) ∧
    (check std services).Pairwise Precedes ∧
    ∀ (other : SortRoutine CredentialFinding) (permuted : List ServiceInfo),
      permuted.Perm services → check other permuted = check std services := by
  have hcollected : ∀ services : List ServiceInfo,
      services.foldl checkService [] = services.flatMap raised := fun _ =>
    foldl_appends checkService_eq []
  refine ⟨fun findings service _ => ⟨length_raised_le service,
    checkService_eq findings service⟩, ?_, check_ordered std services, ?_⟩
  · rw [check, hcollected]
    exact std.perm riskOrder_strictWeakOrder _
  · intro other permuted hperm
    rw [check, check, hcollected, hcollected]
    refine (std.sort_eq_of_perm other riskOrder_strictWeakOrder
      (hperm.symm.flatMap_right raised) ?_).symm
    intro a ha b hb hab hba
    rw [← Bool.not_eq_true, riskOrder_iff, not_lt] at hab hba
    have hkey : riskKey a = riskKey b := le_antisymm hba hab
    simp only [riskKey, toLex_inj, Prod.mk.injEq] at hkey
    exact eq_of_mem_raised hdistinct ha hb hkey.2.1 hkey.2.2

/-- SSH and RDP on one host, and SSH on another. -/
theorem check_reports_two :
    let services : List ServiceInfo :=
      [{ ip := "10.0.0.5".toList, port := 22 },
        { ip := "10.0.0.5".toList, port := 3389 },
        { ip := "10.0.0.4".toList, port := 22 }]
    let std := SortRoutine.merge CredentialFinding
    (∀ findings, ∀ service ∈ services, (raised service).length ≤ 1 ∧
      checkService findings service = findings ++ raised service) ∧
    (check std services).Perm (services.flatMap raised) ∧
    (check std services).Pairwise Precedes ∧
    ∀ (other : SortRoutine CredentialFinding) (permuted : List ServiceInfo),
      permuted.Perm services → check other permuted = check std services :=
  check_reports _ _ (by decide)

end SlipNet.Security.CredentialChecker
