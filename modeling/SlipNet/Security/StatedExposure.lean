import SlipNet.Security.CredentialChecker
import SlipNet.Security.LegacySoftware

/-!
# What the findings state

The evidence of a finding often says that a port is reachable or open.  The
port it names is the port of the service the finding was raised for, on every
record the service detector can store.
-/

namespace SlipNet.Security

open SlipNet.Foundation
open SlipNet.Standard
open SlipNet.Core
open SlipNet.Security.VulnerabilityScanner

/-- The evidence begins with `TCP/<port> is reachable` or
`TCP/<port> is open`. -/
def StatesOpen (evidence : Str) (port : Int) : Prop :=
  startsWith evidence ("TCP/".toList ++ printInt port ++
      " is reachable".toList) = true ∨
    startsWith evidence ("TCP/".toList ++ printInt port ++
      " is open".toList) = true

/-- The finding is about this service, and states nothing of other ports. -/
def IsAbout (service : ServiceInfo) (host : Str) (port : Int)
    (evidence : Str) : Prop :=
  host = service.ip ∧ port = service.port ∧
    ∀ stated, StatesOpen evidence stated → stated = service.port

theorem eq_of_startsWith_port {port stated : Int} {evidence claim : Str}
    (hevidence : startsWith evidence ("TCP/".toList ++ printInt port ++
      " ".toList) = true)
    (h : startsWith evidence ("TCP/".toList ++ printInt stated ++
      ' ' :: claim) = true) :
    stated = port := by
  obtain ⟨rest, rfl⟩ := List.isPrefixOf_iff_prefix.mp hevidence
  obtain ⟨behind, hbehind⟩ := List.isPrefixOf_iff_prefix.mp h
  simp only [List.append_assoc, List.append_right_inj, List.cons_append]
    at hbehind
  have hblank := fun value => notMem_printInt (c := ' ') (by decide)
    (by decide) value
  exact printInt_injective
    (append_cons_inj (hblank stated) (hblank port) hbehind).1

theorem isAbout_of_evidence {service : ServiceInfo} {evidence : Str}
    (h : startsWith evidence ("TCP/".toList ++ printInt service.port ++
      " ".toList) = true) :
    IsAbout service service.ip service.port evidence := by
  refine ⟨rfl, rfl, fun stated hstated => ?_⟩
  rcases hstated with hstated | hstated <;>
    exact eq_of_startsWith_port h hstated

/-! ## Credential findings -/

theorem evidence_allCases {rule : CredentialChecker.Case}
    (h : rule ∈ CredentialChecker.allCases) (service : ServiceInfo) :
    (rule.2 service).host = service.ip ∧
      (rule.2 service).port = service.port ∧
      startsWith (rule.2 service).evidence
        ("TCP/".toList ++ printInt rule.1 ++ " ".toList) = true := by
  fin_cases h <;> exact ⟨rfl, rfl, rfl⟩

theorem isAbout_of_mem_check (std : SortRoutine CredentialFinding)
    {services : List ServiceInfo} {finding : CredentialFinding}
    (h : finding ∈ CredentialChecker.check std services) :
    ∃ service ∈ services,
      IsAbout service finding.host finding.port finding.evidence := by
  obtain ⟨service, hservice, rule, hrule, rfl⟩ :=
    CredentialChecker.exists_of_mem_check std h
  obtain ⟨hhost, hport, hevidence⟩ := evidence_allCases hrule service
  refine ⟨service, hservice, ?_⟩
  rw [hhost, hport]
  exact isAbout_of_evidence hevidence

/-! ## Vulnerability findings -/

theorem evidence_portRules {rule : Int × (ServiceInfo → VulnerabilityFinding)}
    (h : rule ∈ portRules) (service : ServiceInfo) :
    (rule.2 service).host = service.ip ∧
      (rule.2 service).port = service.port ∧
      startsWith (rule.2 service).evidence
        ("TCP/".toList ++ printInt rule.1 ++ " ".toList) = true := by
  fin_cases h <;> exact ⟨rfl, rfl, rfl⟩

theorem isAbout_of_mem_exposureFindings {service : ServiceInfo}
    {finding : VulnerabilityFinding} (h : finding ∈ exposureFindings service) :
    IsAbout service finding.host finding.port finding.evidence := by
  rcases List.mem_cons.mp h with rfl | h
  · have hsplit : " is open and identified as HTTP." =
        " " ++ "is open and identified as HTTP." := by decide
    have htail := (congrArg String.toList hsplit).trans String.toList_append
    have hevidence : (webClear service).evidence =
        "TCP/".toList ++ printInt service.port ++
          " is open and identified as HTTP.".toList := rfl
    refine isAbout_of_evidence (List.isPrefixOf_iff_prefix.mpr ?_)
    refine ⟨"is open and identified as HTTP.".toList, ?_⟩
    rw [hevidence, htail, List.append_assoc _ " ".toList]
  · rcases List.mem_cons.mp h with rfl | h
    · -- this evidence begins with another word
      refine ⟨rfl, rfl, fun stated hstated => ?_⟩
      rcases hstated with hstated | hstated <;>
        cases hstated
    · obtain ⟨rule, hrule, rfl⟩ := List.mem_map.mp h
      obtain ⟨hmem, hport⟩ := List.mem_filter.mp hrule
      obtain ⟨hhost, hown, hevidence⟩ := evidence_portRules hmem service
      rw [of_decide_eq_true hport] at hevidence
      rw [hhost, hown]
      exact isAbout_of_evidence hevidence

theorem isAbout_of_mem_scan (std : SortRoutine VulnerabilityFinding)
    {services : List ServiceInfo} {finding : VulnerabilityFinding}
    (hdetections : ∀ service ∈ services, IsDetection service)
    (h : finding ∈ scan std services) :
    ∃ service ∈ services,
      IsAbout service finding.host finding.port finding.evidence := by
  obtain ⟨service, hservice, hexposure⟩ :=
    exposure_of_mem_scan std hdetections h
  exact ⟨service, hservice, isAbout_of_mem_exposureFindings hexposure⟩

end SlipNet.Security
