import SlipNet.Security.CredentialReport
import SlipNet.Security.LegacyFamilies

/-!
# Evidence of identification

Three rules state in their evidence that a port is identified as a protocol.
They look at the port only, so the statement holds exactly if the service
recorded for the port is the one its number stands for.
-/

namespace SlipNet.Security

open SlipNet.Standard
open SlipNet.Core

/-- The evidence ends with the statement that the port is identified as
`protocol`. -/
def StatesIdentified (evidence protocol : Str) : Prop :=
  (" identified as ".toList ++ protocol ++ ".".toList) <:+ evidence

/-- The rules that state an identification, with the protocol they name. -/
def identifyingRules : List (Str × Str) :=
  [("SLP-WEB-CLEAR".toList, "HTTP".toList),
    ("SLP-CRED-FTP".toList, "FTP".toList),
    ("SLP-CRED-SSH".toList, "SSH".toList)]

def IsNamed (service : ServiceInfo) (protocol : Str) : Prop :=
  lower service.service = lower protocol

instance (service : ServiceInfo) (protocol : Str) :
    Decidable (IsNamed service protocol) :=
  inferInstanceAs (Decidable (_ = _))

/-- An identification is stated only of a service of that name. -/
structure StatesOwnName (vulnStd : SortRoutine VulnerabilityFinding)
    (credStd : SortRoutine CredentialFinding) (service : ServiceInfo) :
    Prop where
  vuln : ∀ finding ∈ VulnerabilityScanner.scan vulnStd [service],
    ∀ protocol, (finding.id, protocol) ∈ identifyingRules →
      StatesIdentified finding.evidence protocol → IsNamed service protocol
  cred : ∀ finding ∈ CredentialChecker.check credStd [service],
    ∀ protocol, (finding.id, protocol) ∈ identifyingRules →
      StatesIdentified finding.evidence protocol → IsNamed service protocol

/-- On the ports of the three rules the service is the one they name. -/
structure NamedAfterPort (service : ServiceInfo) : Prop where
  web : service.port = 80 ∨ service.port = 8080 ∨ service.port = 8000 →
    IsNamed service "HTTP".toList
  ftp : service.port = 21 → IsNamed service "FTP".toList
  ssh : service.port = 22 → IsNamed service "SSH".toList

variable {service : ServiceInfo}

/-! ## The scanner -/

section Scanner
open SlipNet.Security.VulnerabilityScanner

variable {finding : VulnerabilityFinding}

theorem mem_raised_iff : finding ∈ raised service ↔
    finding ∈ checkExposure service [] ∨
      finding ∈ checkInsecureProtocol service [] ∨
      finding ∈ checkRemoteAccess service [] ∨
      finding ∈ checkDatabaseExposure service [] ∨
      finding ∈ checkLegacyVersion service [] := by
  simp only [raised, List.mem_append]

theorem webClear_of_mem_raised (h : finding ∈ raised service)
    (hid : finding.id ∈ identifyingRules.map Prod.fst) :
    (service.port = 80 ∨ service.port = 8080 ∨ service.port = 8000) ∧
      finding = webClear service := by
  have hother : finding.id ∉ identifyingRules.map Prod.fst → False :=
    fun hnot => hnot hid
  rcases mem_raised_iff.mp h with h | h | h | h | h
  · unfold checkExposure at h
    split at h
    · cases h
    · simp only [mem_pushIf, List.not_mem_nil, false_or] at h
      rcases h with (⟨hport, rfl⟩ | ⟨_, rfl⟩) | ⟨_, rfl⟩
      · exact ⟨by simpa using hport, rfl⟩
      all_goals exact (hother (of_decide_eq_true rfl)).elim
  · simp only [checkInsecureProtocol, mem_pushIf, List.not_mem_nil,
      false_or] at h
    rcases h with ((⟨_, rfl⟩ | ⟨_, rfl⟩) | ⟨_, rfl⟩) | ⟨_, rfl⟩ <;>
      exact (hother (of_decide_eq_true rfl)).elim
  · simp only [checkRemoteAccess, mem_pushIf, List.not_mem_nil,
      false_or] at h
    rcases h with ⟨_, rfl⟩ | ⟨_, rfl⟩ <;>
      exact (hother (of_decide_eq_true rfl)).elim
  · simp only [checkDatabaseExposure, mem_pushIf, List.not_mem_nil,
      false_or] at h
    obtain ⟨_, rfl⟩ := h
    exact (hother (of_decide_eq_true rfl)).elim
  · have hrule := (mem_checkLegacyVersion.mp h).2
    simp only [legacyRules, List.mem_cons, Prod.mk.injEq, List.not_mem_nil,
      or_false] at hrule
    rcases hrule with ⟨_, rfl⟩ | ⟨_, rfl⟩ | ⟨_, rfl⟩ | ⟨_, rfl⟩ <;>
      exact (hother (of_decide_eq_true rfl)).elim

theorem webClear_mem_raised
    (h : service.port = 80 ∨ service.port = 8080 ∨ service.port = 8000) :
    webClear service ∈ raised service := by
  refine mem_raised_iff.mpr (.inl ?_)
  rw [checkExposure, if_neg (by omega)]
  exact mem_pushIf.mpr (.inl (mem_pushIf.mpr (.inl (mem_pushIf.mpr
    (.inr ⟨decide_eq_true h, rfl⟩)))))

theorem exists_webClear (std : SortRoutine VulnerabilityFinding)
    (h : service.port = 80 ∨ service.port = 8080 ∨ service.port = 8000) :
    webClear service ∈ scan std [service] := by
  obtain ⟨finding, hmem, hid⟩ := (reported_iff std service _).mpr
    ⟨webClear service, webClear_mem_raised h, rfl⟩
  have hrule : finding.id ∈ identifyingRules.map Prod.fst := by
    rw [hid]
    exact .head _
  rwa [(webClear_of_mem_raised (mem_raised_of_mem_scan hmem) hrule).2] at hmem

theorem statesIdentified_webClear (service : ServiceInfo) :
    StatesIdentified (webClear service).evidence "HTTP".toList := by
  refine ⟨"TCP/".toList ++ printInt service.port ++ " is open and".toList, ?_⟩
  rw [webClear, makeFinding, List.append_assoc _ " is open and".toList]
  rfl

end Scanner

/-! ## The checker -/

section Checker
open SlipNet.Security.CredentialChecker

variable {finding : CredentialFinding}

theorem mem_check_singleton_iff (std : SortRoutine CredentialFinding) :
    finding ∈ check std [service] ↔ finding ∈ raised service := by
  rw [check, std.mem_sort riskOrder_strictWeakOrder, List.foldl_cons,
    checkService_eq]
  rfl

def labels : List (Int × Str) :=
  [(21, "SLP-CRED-FTP".toList), (23, "SLP-CRED-TELNET".toList),
    (25, "SLP-CRED-SMTP".toList), (110, "SLP-CRED-POP3".toList),
    (143, "SLP-CRED-IMAP".toList), (22, "SLP-CRED-SSH".toList),
    (3389, "SLP-CRED-RDP".toList), (445, "SLP-CRED-SMB".toList),
    (3306, "SLP-CRED-MYSQL".toList), (5432, "SLP-CRED-POSTGRES".toList),
    (6379, "SLP-CRED-REDIS".toList), (27017, "SLP-CRED-MONGO".toList)]

theorem label_of_mem_raised (h : finding ∈ raised service) :
    (service.port, finding.id) ∈ labels := by
  obtain ⟨rule, hrule, rfl⟩ := exists_of_mem_raised h
  have hlabels : allCases.map (fun case => (case.1, (case.2 service).id)) =
      labels := rfl
  rw [← hlabels]
  exact List.mem_map_of_mem
    (f := fun case : Case => (case.1, (case.2 service).id)) hrule

theorem port_of_mem_raised (h : finding ∈ raised service) {protocol : Str}
    (hrule : (finding.id, protocol) ∈ identifyingRules) :
    service.port = 21 ∧ protocol = "FTP".toList ∨
      service.port = 22 ∧ protocol = "SSH".toList := by
  have hlabel := label_of_mem_raised h
  simp only [identifyingRules, List.mem_cons, Prod.mk.injEq, List.not_mem_nil,
    or_false] at hrule
  rcases hrule with ⟨hid, _⟩ | ⟨hid, hprotocol⟩ | ⟨hid, hprotocol⟩
  · rw [hid] at hlabel
    exact absurd hlabel (by simp [labels])
  · rw [hid] at hlabel
    exact .inl ⟨by simpa [labels] using hlabel, hprotocol⟩
  · rw [hid] at hlabel
    exact .inr ⟨by simpa [labels] using hlabel, hprotocol⟩

theorem ftp_mem_raised (h : service.port = 21) :
    ftp service ∈ raised service := by
  rw [raised_eq, switch, plaintextCases, List.find?_cons_of_pos (by simp [h])]
  simp

theorem ssh_mem_raised (h : service.port = 22) :
    ssh service ∈ raised service := by
  have hremote : switch remoteCases service [] = [ssh service] := by
    rw [switch, remoteCases, List.find?_cons_of_pos (by simp [h])]
    rfl
  rw [raised_eq, hremote]
  simp

end Checker

/-- The statements are true exactly if the service is named after its port. -/
theorem statesOwnName_iff (vulnStd : SortRoutine VulnerabilityFinding)
    (credStd : SortRoutine CredentialFinding) (service : ServiceInfo) :
    StatesOwnName vulnStd credStd service ↔ NamedAfterPort service := by
  constructor
  · intro h
    refine ⟨fun hport => ?_, fun hport => ?_, fun hport => ?_⟩
    · exact h.vuln _ (exists_webClear vulnStd hport) _ (.head _)
        (statesIdentified_webClear service)
    · exact h.cred _ ((mem_check_singleton_iff credStd).mpr
        (ftp_mem_raised hport)) _ (.tail _ (.head _))
        (List.isSuffixOf_iff_suffix.mp rfl)
    · exact h.cred _ ((mem_check_singleton_iff credStd).mpr
        (ssh_mem_raised hport)) _ (.tail _ (.tail _ (.head _)))
        (List.isSuffixOf_iff_suffix.mp rfl)
  · intro h
    constructor
    · intro finding hmem protocol hrule _
      obtain ⟨hport, rfl⟩ := webClear_of_mem_raised
        (mem_raised_of_mem_scan hmem) (List.mem_map_of_mem hrule)
      have hid : (VulnerabilityScanner.webClear service).id =
          "SLP-WEB-CLEAR".toList := rfl
      have hprotocol : protocol = "HTTP".toList := by
        rw [hid] at hrule
        simpa [identifyingRules] using hrule
      rw [hprotocol]
      exact h.web hport
    · intro finding hmem protocol hrule _
      rcases port_of_mem_raised ((mem_check_singleton_iff credStd).mp hmem)
        hrule with ⟨hport, rfl⟩ | ⟨hport, rfl⟩
      · exact h.ftp hport
      · exact h.ssh hport

/-- An SSH server on a web port. -/
theorem not_statesOwnName_ssh :
    let service := Services.detectedInfo "10.0.0.5".toList
      (Services.identify 80 "SSH-2.0-OpenSSH_9.6\r\n".toList)
    service.service = "SSH".toList ∧
      ¬ StatesOwnName (.merge VulnerabilityFinding)
        (.merge CredentialFinding) service := by
  intro service
  refine ⟨by decide, fun h => ?_⟩
  have hnamed := h.vuln _ (exists_webClear _ (.inl rfl)) "HTTP".toList
    (.head _) (statesIdentified_webClear service)
  revert hnamed
  decide

end SlipNet.Security
