import SlipNet.Security.VulnerabilityScanner
import SlipNet.Service.ServiceDetector

/-!
# Legacy software on the wire

The detector names a service after its protocol and keeps the banner or the
server header as the version.  The legacy rules ask for the product in the
name, and the OpenSSH rule for a version without the protocol part.  No legacy
rule can fire on what the detector stores, whatever the peer answered.
-/

namespace SlipNet.Security

open SlipNet.Standard
open SlipNet.Core
open SlipNet.Services
open SlipNet.Security.VulnerabilityScanner

def Reported (std : SortRoutine VulnerabilityFinding) (info : ServiceInfo)
    (id : Str) : Prop :=
  ∃ finding ∈ scan std [info], finding.id = id

/-- What the detector stores for some answer. -/
def IsDetection (service : ServiceInfo) : Prop :=
  ∃ host port response, service = detectedInfo host (identify port response)

/-- Legacy software read off the wire is reported: the answer `response` of a
peer on `port`, classified, stored and scanned. -/
def ReportsLegacySoftware (std : SortRoutine VulnerabilityFinding)
    (host : Str) (port : Int) (response : Str) : Prop :=
  let service := identify port response
  let info := detectedInfo host service
  service.detected = true →
    (startsWith response "SSH-2.0-OpenSSH_7.".toList →
      Reported std info "SLP-LEGACY-OPENSSH".toList) ∧
    ((find "HTTP/".toList response).isSome →
      startsWith service.version "Apache/2.2".toList →
      Reported std info "SLP-LEGACY-APACHE".toList) ∧
    (startsWith service.version "nginx/1.1.".toList →
      Reported std info "SLP-LEGACY-NGINX".toList)

/-- The answers that announce legacy software: an OpenSSH 7 identification
string, or an answer that reaches the HTTP branch with an old Apache or nginx
in its server header. -/
def AnnouncesLegacySoftware (port : Int) (response : Str) : Prop :=
  startsWith response "SSH-2.0-OpenSSH_7.".toList ∨
    takenAsHttp port response ∧
      (startsWith (extractHeader response "Server:".toList)
          "Apache/2.2".toList ∨
        startsWith (extractHeader response "Server:".toList)
          "nginx/1.1.".toList)

/-! ## The rules on stored detections -/

/-- No name the detector gives mentions a product the rules look for, except
MySQL. -/
theorem contains_serviceNames : ∀ name ∈ serviceNames,
    contains (lower name) "openssh".toList = false ∧
      contains (lower name) "apache".toList = false ∧
      contains (lower name) "nginx".toList = false := by
  decide

theorem version_eq_nil_of_contains_mysql {port : Int} {response : Str}
    (h : contains (lower (identify port response).name) "mysql".toList =
      true) :
    (identify port response).version = [] := by
  by_cases hssh : startsWith response "SSH-".toList = true
  · rw [identify_ssh hssh] at h
    exact absurd h (by
      change ¬ contains (lower "SSH".toList) "mysql".toList = true
      decide)
  · rw [Bool.not_eq_true] at hssh
    by_cases hhttp : takenAsHttp port response
    · rw [identify_http hhttp] at h
      exact absurd h (by
        change ¬ contains (lower "HTTP".toList) "mysql".toList = true
        decide)
    · exact version_identify_of_other hssh hhttp

theorem checkLegacyVersion_detectedInfo (host : Str) (port : Int)
    (response : Str) (findings : List VulnerabilityFinding) :
    checkLegacyVersion (detectedInfo host (identify port response)) findings =
      findings := by
  by_cases hversion : (identify port response).version = []
  · simp only [checkLegacyVersion, detectedInfo, hversion, if_true]
  · obtain ⟨hssh, hapache, hnginx⟩ :=
      contains_serviceNames _ (identify_fields port response).2.2
    have hmysql : contains (lower (identify port response).name)
        "mysql".toList = false := by
      by_contra h
      exact hversion
        (version_eq_nil_of_contains_mysql (Bool.not_eq_false _ ▸ h))
    simp only [checkLegacyVersion, detectedInfo, hversion, hssh, hapache,
      hnginx, hmysql, Bool.false_and, pushIf, Bool.false_eq_true, if_false]

def exposureIds : List Str :=
  ["SLP-WEB-CLEAR".toList, "SLP-NETBIOS-EXPOSURE".toList,
    "SLP-SMB-EXPOSURE".toList, "SLP-FTP-CLEARTEXT".toList,
    "SLP-TELNET-CLEARTEXT".toList, "SLP-POP3-CLEARTEXT".toList,
    "SLP-IMAP-CLEARTEXT".toList, "SLP-SSH-EXPOSURE".toList,
    "SLP-RDP-EXPOSURE".toList, "SLP-DATABASE-EXPOSURE".toList]

theorem id_mem_exposureIds {service : ServiceInfo}
    {finding : VulnerabilityFinding} (h : finding ∈ exposureFindings service) :
    finding.id ∈ exposureIds := by
  rcases List.mem_cons.mp h with rfl | h
  · exact of_decide_eq_true rfl
  · rcases List.mem_cons.mp h with rfl | h
    · exact of_decide_eq_true rfl
    · obtain ⟨rule, hrule, rfl⟩ := List.mem_map.mp h
      have hmem := (List.mem_filter.mp hrule).1
      fin_cases hmem <;> exact of_decide_eq_true rfl

/-- The scan of detected services holds port-based findings only. -/
theorem exposure_of_mem_scan (std : SortRoutine VulnerabilityFinding)
    {services : List ServiceInfo} {finding : VulnerabilityFinding}
    (hdetections : ∀ service ∈ services, IsDetection service)
    (h : finding ∈ scan std services) :
    ∃ service ∈ services, finding ∈ exposureFindings service := by
  refine exists_of_mem_scan std (fun service hservice findings finding h => ?_)
    h
  obtain ⟨host, port, response, rfl⟩ := hdetections service hservice
  rw [checkService, checkLegacyVersion_detectedInfo] at h
  exact mem_exposureChecks h

theorem not_reported (std : SortRoutine VulnerabilityFinding) (host : Str)
    (port : Int) (response : Str) {id : Str} (hid : id ∉ exposureIds) :
    ¬ Reported std (detectedInfo host (identify port response)) id := by
  rintro ⟨finding, hmem, rfl⟩
  obtain ⟨service, _, hexposure⟩ := exposure_of_mem_scan std (by
    simp only [List.forall_mem_singleton]
    exact ⟨host, port, response, rfl⟩) hmem
  exact hid (id_mem_exposureIds hexposure)

/-! ## Versions -/

theorem head?_trim {c : Char} (rest : Str) (hc : isspace c = false) :
    (trim (c :: rest)).head? = some c := by
  have hdrop : (c :: rest).dropWhile isspace = c :: rest := by
    simp [hc]
  have hne : (c :: rest).rdropWhile isspace ≠ [] := by
    intro hnil
    have hspace := List.rdropWhile_eq_nil_iff.mp hnil c (by simp)
    simp [hc] at hspace
  obtain ⟨suffix, hsuffix⟩ := List.rdropWhile_prefix isspace (c :: rest)
  rw [trim, hdrop]
  cases hkept : (c :: rest).rdropWhile isspace with
  | nil => exact absurd hkept hne
  | cons d kept =>
      rw [hkept, List.cons_append] at hsuffix
      rw [List.head?_cons, (List.cons.inj hsuffix).1]

theorem version_identify_ssh {port : Int} {response : Str}
    (h : startsWith response "SSH-".toList = true) :
    (identify port response).version.head? = some 'S' := by
  obtain ⟨rest, rfl⟩ := List.isPrefixOf_iff_prefix.mp h
  rw [identify_ssh h]
  exact head?_trim _ (by decide)

theorem head?_of_startsWith {value : Str} {c : Char} {start : Str}
    (h : startsWith value (c :: start) = true) : value.head? = some c := by
  obtain ⟨rest, rfl⟩ := List.isPrefixOf_iff_prefix.mp h
  rfl

theorem takenAsHttp_of_version {port : Int} {response : Str} {c : Char}
    {start : Str} (hc : c ≠ 'S')
    (h : startsWith (identify port response).version (c :: start) = true) :
    takenAsHttp port response ∧
      startsWith (extractHeader response "Server:".toList) (c :: start) =
        true := by
  have hhead := head?_of_startsWith h
  by_cases hssh : startsWith response "SSH-".toList = true
  · rw [version_identify_ssh hssh] at hhead
    exact absurd (Option.some.inj hhead).symm hc
  · rw [Bool.not_eq_true] at hssh
    by_cases hhttp : takenAsHttp port response
    · rw [identify_http hhttp] at h
      exact ⟨hhttp, h⟩
    · rw [version_identify_of_other hssh hhttp] at hhead
      cases hhead

theorem startsWith_ssh_of_openSsh {response : Str}
    (h : startsWith response "SSH-2.0-OpenSSH_7.".toList = true) :
    startsWith response "SSH-".toList = true :=
  List.isPrefixOf_iff_prefix.mpr
    (List.IsPrefix.trans (by decide) (List.isPrefixOf_iff_prefix.mp h))

/-! ## Reports -/

theorem not_reports_of_announces (std : SortRoutine VulnerabilityFinding)
    (host : Str) {port : Int} {response : Str}
    (h : AnnouncesLegacySoftware port response) :
    ¬ ReportsLegacySoftware std host port response := by
  intro hreports
  rcases h with hssh | ⟨hhttp, hversion⟩
  · have hidentify : identify port response = _ :=
      identify_ssh (startsWith_ssh_of_openSsh hssh)
    obtain ⟨hopenssh, _, _⟩ := hreports (by rw [hidentify]; rfl)
    exact not_reported std host port response (by decide) (hopenssh hssh)
  · have hidentify := identify_http hhttp
    obtain ⟨_, hapache, hnginx⟩ := hreports (by rw [hidentify]; rfl)
    rcases hversion with hversion | hversion
    · exact not_reported std host port response (by decide)
        (hapache hhttp.2.2 (by rw [hidentify]; exact hversion))
    · exact not_reported std host port response (by decide)
        (hnginx (by rw [hidentify]; exact hversion))

/-- Legacy software is reported exactly when the answer announces none. -/
theorem reportsLegacySoftware_iff (std : SortRoutine VulnerabilityFinding)
    (host : Str) (port : Int) (response : Str) :
    ReportsLegacySoftware std host port response ↔
      ¬ AnnouncesLegacySoftware port response := by
  constructor
  · exact fun hreports hannounces =>
      not_reports_of_announces std host hannounces hreports
  · intro hsilent _
    refine ⟨fun hssh => absurd (.inl hssh) hsilent, ?_, ?_⟩
    · intro _ hversion
      obtain ⟨hhttp, hheader⟩ := takenAsHttp_of_version (by decide) hversion
      exact absurd (.inr ⟨hhttp, .inl hheader⟩) hsilent
    · intro hversion
      obtain ⟨hhttp, hheader⟩ := takenAsHttp_of_version (by decide) hversion
      exact absurd (.inr ⟨hhttp, .inr hheader⟩) hsilent

/-- The greeting of an OpenSSH 7.4 server. -/
theorem not_reportsLegacySoftware_openSsh74 :
    ¬ ReportsLegacySoftware (.merge VulnerabilityFinding)
      "10.0.0.5".toList 22 "SSH-2.0-OpenSSH_7.4\r\n".toList :=
  not_reports_of_announces _ _ (.inl (by decide))

end SlipNet.Security
