import SlipNet.Core.NetworkState
import SlipNet.Foundation.Folds
import SlipNet.Standard.Integers
import SlipNet.Standard.Sorting
import Mathlib.Data.Char
import Mathlib.Data.List.Lex
import Mathlib.Data.Prod.Lex
import Mathlib.Order.Basic

/-!
# The vulnerability scanner

`VulnerabilityScanner::scan` runs five groups of rules over the stored
services, keeps the first finding for each host, port and rule, and sorts the
rest.  A rule looks at the stored record only; the scanner connects to nothing.
-/

namespace SlipNet.Security

open SlipNet.Foundation
open SlipNet.Standard
open SlipNet.Core

inductive VulnerabilitySeverity
  | info | low | medium | high | critical
  deriving DecidableEq, Repr

def VulnerabilitySeverity.toInt : VulnerabilitySeverity → Int
  | .info => 0
  | .low => 1
  | .medium => 2
  | .high => 3
  | .critical => 4

inductive VulnerabilityCategory
  | exposure | legacySoftware | insecureProtocol | databaseExposure
  | remoteAccess | informationDisclosure | configuration
  deriving DecidableEq, Repr

structure VulnerabilityFinding where
  host : Str
  port : Int
  service : Str
  version : Str
  id : Str
  title : Str
  description : Str
  evidence : Str
  remediation : Str
  severity : VulnerabilitySeverity
  category : VulnerabilityCategory
  confidence : Int
  deriving DecidableEq, Repr

namespace VulnerabilityScanner

def makeFinding (service : ServiceInfo) (severity : VulnerabilitySeverity)
    (category : VulnerabilityCategory)
    (id title description evidence remediation : Str) (confidence : Int) :
    VulnerabilityFinding where
  host := service.ip
  port := service.port
  service := service.service
  version := service.version
  id := id
  title := title
  description := description
  evidence := evidence
  remediation := remediation
  severity := severity
  category := category
  confidence := max 0 (min 100 confidence)

def versionStartsWith (version start : Str) : Bool :=
  startsWith (lower version) (lower start)

/-- One guarded `findings.push_back(...)`. -/
def pushIf (applies : Bool) (finding : VulnerabilityFinding)
    (findings : List VulnerabilityFinding) : List VulnerabilityFinding :=
  if applies then findings ++ [finding] else findings

/-! ## The rules -/

def webClear (service : ServiceInfo) : VulnerabilityFinding :=
  makeFinding service .low .exposure
    "SLP-WEB-CLEAR".toList
    "HTTP service exposed without TLS indication".toList
    ("The detected web service is operating on a plain HTTP port. Traffic may " ++
      "be transmitted without transport encryption.").toList
    ("TCP/".toList ++ printInt service.port ++
      " is open and identified as HTTP.".toList)
    ("Prefer HTTPS and redirect clear-text HTTP traffic to TLS where " ++
      "appropriate.").toList
    90

def netbiosExposure (service : ServiceInfo) : VulnerabilityFinding :=
  makeFinding service .high .exposure
    "SLP-NETBIOS-EXPOSURE".toList
    "NetBIOS session service exposed".toList
    ("NetBIOS exposure can increase information disclosure and " ++
      "lateral-movement risk.").toList
    "TCP/139 is reachable.".toList
    ("Restrict NetBIOS to trusted network segments or disable it when " ++
      "unnecessary.").toList
    92

def smbExposure (service : ServiceInfo) : VulnerabilityFinding :=
  makeFinding service .high .exposure
    "SLP-SMB-EXPOSURE".toList
    "SMB service exposed".toList
    ("SMB is a sensitive network service and unnecessary exposure increases " ++
      "attack surface.").toList
    "TCP/445 is reachable.".toList
    ("Restrict SMB to trusted networks and ensure modern SMB security policies " ++
      "are enabled.").toList
    96

def checkExposure (service : ServiceInfo)
    (findings : List VulnerabilityFinding) : List VulnerabilityFinding :=
  if service.port ≤ 0 then findings
  else
    findings
      |> pushIf (service.port = 80 ∨ service.port = 8080 ∨
          service.port = 8000) (webClear service)
      |> pushIf (service.port = 139) (netbiosExposure service)
      |> pushIf (service.port = 445) (smbExposure service)

def ftpCleartext (service : ServiceInfo) : VulnerabilityFinding :=
  makeFinding service .high .insecureProtocol
    "SLP-FTP-CLEARTEXT".toList
    "FTP service exposed".toList
    ("FTP commonly provides authentication and session communication without " ++
      "transport encryption.").toList
    "TCP/21 is reachable.".toList
    "Replace FTP with SFTP or FTPS and restrict administrative access.".toList
    96

def telnetCleartext (service : ServiceInfo) : VulnerabilityFinding :=
  makeFinding service .critical .insecureProtocol
    "SLP-TELNET-CLEARTEXT".toList
    "Telnet service exposed".toList
    ("Telnet provides remote access without modern transport " ++
      "encryption.").toList
    "TCP/23 is reachable.".toList
    ("Disable Telnet and use SSH or another secure remote administration " ++
      "protocol.").toList
    99

def pop3Cleartext (service : ServiceInfo) : VulnerabilityFinding :=
  makeFinding service .medium .insecureProtocol
    "SLP-POP3-CLEARTEXT".toList
    "POP3 service exposed".toList
    ("Traditional POP3 does not provide transport encryption unless protected " ++
      "by TLS.").toList
    "TCP/110 is reachable.".toList
    "Use POP3S or another mail protocol with proper TLS configuration.".toList
    90

def imapCleartext (service : ServiceInfo) : VulnerabilityFinding :=
  makeFinding service .medium .insecureProtocol
    "SLP-IMAP-CLEARTEXT".toList
    "IMAP service exposed".toList
    ("Traditional IMAP may transmit authentication and mail traffic without " ++
      "encryption.").toList
    "TCP/143 is reachable.".toList
    "Use IMAPS or STARTTLS with a properly configured mail server.".toList
    90

def checkInsecureProtocol (service : ServiceInfo)
    (findings : List VulnerabilityFinding) : List VulnerabilityFinding :=
  findings
    |> pushIf (service.port = 21) (ftpCleartext service)
    |> pushIf (service.port = 23) (telnetCleartext service)
    |> pushIf (service.port = 110) (pop3Cleartext service)
    |> pushIf (service.port = 143) (imapCleartext service)

def sshExposure (service : ServiceInfo) : VulnerabilityFinding :=
  makeFinding service .low .remoteAccess
    "SLP-SSH-EXPOSURE".toList
    "SSH remote administration exposed".toList
    ("SSH is a secure protocol, but exposing remote administration increases " ++
      "the host's attack surface.").toList
    "TCP/22 is reachable.".toList
    ("Restrict SSH to trusted networks or VPN access and enforce strong " ++
      "authentication.").toList
    92

def rdpExposure (service : ServiceInfo) : VulnerabilityFinding :=
  makeFinding service .high .remoteAccess
    "SLP-RDP-EXPOSURE".toList
    "Remote Desktop exposed".toList
    ("RDP exposure increases the remote-access attack surface of the " ++
      "host.").toList
    "TCP/3389 is reachable.".toList
    ("Restrict RDP using firewall/VPN policies and require Network Level " ++
      "Authentication.").toList
    96

def checkRemoteAccess (service : ServiceInfo)
    (findings : List VulnerabilityFinding) : List VulnerabilityFinding :=
  findings
    |> pushIf (service.port = 22) (sshExposure service)
    |> pushIf (service.port = 3389) (rdpExposure service)

/-- MySQL, PostgreSQL, Redis, MongoDB, MSSQL, Oracle. -/
def databasePorts : List Int := [3306, 5432, 6379, 27017, 1433, 1521]

def databaseExposure (service : ServiceInfo) : VulnerabilityFinding :=
  makeFinding service .high .databaseExposure
    "SLP-DATABASE-EXPOSURE".toList
    "Database service exposed".toList
    ("Database services should normally be isolated from untrusted network " ++
      "segments.").toList
    ("Database service detected on TCP/".toList ++ printInt service.port ++
      ".".toList)
    ("Restrict access with firewall rules, network segmentation and strong " ++
      "authentication.").toList
    95

def checkDatabaseExposure (service : ServiceInfo)
    (findings : List VulnerabilityFinding) : List VulnerabilityFinding :=
  findings |> pushIf (service.port ∈ databasePorts) (databaseExposure service)

def legacyOpenSsh (service : ServiceInfo) : VulnerabilityFinding :=
  makeFinding service .medium .legacySoftware
    "SLP-LEGACY-OPENSSH".toList
    "Potentially outdated OpenSSH release".toList
    "The detected OpenSSH version belongs to an older release family.".toList
    service.version
    ("Verify the installed release against current vendor security advisories " ++
      "and upgrade where appropriate.").toList
    72

def legacyApache (service : ServiceInfo) : VulnerabilityFinding :=
  makeFinding service .high .legacySoftware
    "SLP-LEGACY-APACHE".toList
    "Legacy Apache HTTP Server detected".toList
    "Apache HTTP Server 2.2 belongs to a legacy release family.".toList
    service.version
    ("Upgrade to a currently supported Apache release and verify vendor " ++
      "security advisories.").toList
    96

def legacyNginx (service : ServiceInfo) : VulnerabilityFinding :=
  makeFinding service .medium .legacySoftware
    "SLP-LEGACY-NGINX".toList
    "Potentially outdated Nginx release".toList
    ("The detected Nginx version appears to belong to an older release " ++
      "family.").toList
    service.version
    ("Verify the release against current Nginx security advisories and upgrade " ++
      "if necessary.").toList
    72

def legacyMysql (service : ServiceInfo) : VulnerabilityFinding :=
  makeFinding service .high .legacySoftware
    "SLP-LEGACY-MYSQL".toList
    "Legacy MySQL release detected".toList
    ("The detected MySQL release appears to belong to an old software " ++
      "generation.").toList
    service.version
    ("Upgrade to a supported MySQL or compatible database release after " ++
      "validating application compatibility.").toList
    90

def checkLegacyVersion (service : ServiceInfo)
    (findings : List VulnerabilityFinding) : List VulnerabilityFinding :=
  if service.version = [] then findings
  else
    let name := lower service.service
    let version := lower service.version
    findings
      |> pushIf (contains name "openssh".toList &&
          versionStartsWith version "openssh_7.".toList)
          (legacyOpenSsh service)
      |> pushIf (contains name "apache".toList &&
          versionStartsWith version "apache/2.2".toList)
          (legacyApache service)
      |> pushIf (contains name "nginx".toList &&
          versionStartsWith version "nginx/1.1".toList)
          (legacyNginx service)
      |> pushIf (contains name "mysql".toList &&
          (contains version "5.0".toList || contains version "5.1".toList))
          (legacyMysql service)

/-! ## The scan -/

def checkService (findings : List VulnerabilityFinding)
    (service : ServiceInfo) : List VulnerabilityFinding :=
  findings
    |> checkExposure service
    |> checkInsecureProtocol service
    |> checkRemoteAccess service
    |> checkDatabaseExposure service
    |> checkLegacyVersion service

def duplicateFinding (findings : List VulnerabilityFinding) (host : Str)
    (port : Int) (id : Str) : Bool :=
  findings.any fun finding =>
    finding.host = host && finding.port = port && finding.id = id

def keepFirst (unique : List VulnerabilityFinding)
    (finding : VulnerabilityFinding) : List VulnerabilityFinding :=
  if duplicateFinding unique finding.host finding.port finding.id then unique
  else unique ++ [finding]

def riskOrder (a b : VulnerabilityFinding) : Bool :=
  if a.severity.toInt ≠ b.severity.toInt then
    a.severity.toInt > b.severity.toInt
  else if a.confidence ≠ b.confidence then a.confidence > b.confidence
  else if a.host ≠ b.host then a.host < b.host
  else a.port < b.port

def scan (std : SortRoutine VulnerabilityFinding)
    (services : List ServiceInfo) : List VulnerabilityFinding :=
  let findings := services.foldl checkService []
  let unique := findings.foldl keepFirst []
  std.sort riskOrder unique

/-! ## The order of the report -/

/-- Severity and confidence count downwards, host and port upwards. -/
def riskKey (finding : VulnerabilityFinding) :
    ℤᵒᵈ ×ₗ ℤᵒᵈ ×ₗ Str ×ₗ ℤ :=
  toLex (.toDual finding.severity.toInt,
    toLex (.toDual finding.confidence, toLex (finding.host, finding.port)))

theorem riskOrder_iff (a b : VulnerabilityFinding) :
    riskOrder a b = true ↔ riskKey a < riskKey b := by
  simp only [riskKey, Prod.Lex.toLex_lt_toLex, OrderDual.toDual_lt_toDual,
    OrderDual.toDual_inj]
  unfold riskOrder
  split_ifs with hseverity hconfidence hhost
  · simp [hseverity]
  · rw [ne_eq, not_not] at hseverity
    simp [hseverity, hconfidence]
  · rw [ne_eq, not_not] at hseverity hconfidence
    simp [hseverity, hconfidence, hhost]
  · rw [ne_eq, not_not] at hseverity hconfidence hhost
    simp [hseverity, hconfidence, hhost]

theorem riskOrder_strictWeakOrder : StrictWeakOrder riskOrder :=
  .of_key riskKey riskOrder_iff

/-! ## What a scan reports -/

def portRules : List (Int × (ServiceInfo → VulnerabilityFinding)) :=
  [(139, netbiosExposure), (445, smbExposure), (21, ftpCleartext),
    (23, telnetCleartext), (110, pop3Cleartext), (143, imapCleartext),
    (22, sshExposure), (3389, rdpExposure)]

def exposureFindings (service : ServiceInfo) : List VulnerabilityFinding :=
  webClear service :: databaseExposure service ::
    (portRules.filter fun (port, _) => port = service.port).map
      fun (_, rule) => rule service

variable {service : ServiceInfo} {finding : VulnerabilityFinding}
  {findings : List VulnerabilityFinding}

theorem mem_pushIf {applies : Bool} {pushed : VulnerabilityFinding} :
    finding ∈ pushIf applies pushed findings ↔
      finding ∈ findings ∨ applies = true ∧ finding = pushed := by
  cases applies <;> simp [pushIf]

theorem mem_exposureFindings {port : Int}
    {rule : ServiceInfo → VulnerabilityFinding} (hport : service.port = port)
    (hrule : (port, rule) ∈ portRules) (h : finding = rule service) :
    finding ∈ exposureFindings service := by
  subst h hport
  refine List.mem_cons_of_mem _ (List.mem_cons_of_mem _ ?_)
  exact List.mem_map_of_mem
    (f := fun rule : Int × (ServiceInfo → VulnerabilityFinding) =>
      rule.2 service)
    (List.mem_filter.mpr ⟨hrule, by simp⟩)

theorem mem_checkExposure
    (h : finding ∈ checkExposure service findings) :
    finding ∈ findings ∨ finding ∈ exposureFindings service := by
  unfold checkExposure at h
  split at h
  · exact .inl h
  · simp only [mem_pushIf] at h
    rcases h with ((h | ⟨_, h⟩) | ⟨hport, h⟩) | ⟨hport, h⟩
    · exact .inl h
    · exact .inr (by simp [exposureFindings, h])
    all_goals
      exact .inr (mem_exposureFindings (by simpa using hport)
        (by simp [portRules]) h)

theorem mem_checkInsecureProtocol
    (h : finding ∈ checkInsecureProtocol service findings) :
    finding ∈ findings ∨ finding ∈ exposureFindings service := by
  simp only [checkInsecureProtocol, mem_pushIf] at h
  rcases h with (((h | ⟨hport, h⟩) | ⟨hport, h⟩) | ⟨hport, h⟩) | ⟨hport, h⟩
  · exact .inl h
  all_goals
    exact .inr (mem_exposureFindings (by simpa using hport)
      (by simp [portRules]) h)

theorem mem_checkRemoteAccess
    (h : finding ∈ checkRemoteAccess service findings) :
    finding ∈ findings ∨ finding ∈ exposureFindings service := by
  simp only [checkRemoteAccess, mem_pushIf] at h
  rcases h with (h | ⟨hport, h⟩) | ⟨hport, h⟩
  · exact .inl h
  all_goals
    exact .inr (mem_exposureFindings (by simpa using hport)
      (by simp [portRules]) h)

theorem mem_checkDatabaseExposure
    (h : finding ∈ checkDatabaseExposure service findings) :
    finding ∈ findings ∨ finding ∈ exposureFindings service := by
  simp only [checkDatabaseExposure, mem_pushIf] at h
  exact h.imp_right fun ⟨_, h⟩ => by simp [exposureFindings, h]

theorem mem_exposureChecks (h : finding ∈ checkDatabaseExposure service
      (checkRemoteAccess service
        (checkInsecureProtocol service (checkExposure service findings)))) :
    finding ∈ findings ∨ finding ∈ exposureFindings service := by
  rcases mem_checkDatabaseExposure h with h | h
  · rcases mem_checkRemoteAccess h with h | h
    · rcases mem_checkInsecureProtocol h with h | h
      · exact mem_checkExposure h
      · exact .inr h
    · exact .inr h
  · exact .inr h

theorem exists_of_mem_foldl_checkService {services : List ServiceInfo}
    {raised : ServiceInfo → VulnerabilityFinding → Prop}
    (hcheck : ∀ service ∈ services, ∀ findings, ∀ finding ∈
      checkService findings service, finding ∈ findings ∨
        raised service finding)
    (h : finding ∈ services.foldl checkService findings) :
    finding ∈ findings ∨ ∃ service ∈ services, raised service finding :=
  foldl_adds_only (finding ∈ ·)
    (fun findings service hservice => hcheck service hservice findings finding)
    h

theorem mem_of_mem_foldl_keepFirst {unique : List VulnerabilityFinding}
    (h : finding ∈ findings.foldl keepFirst unique) :
    finding ∈ unique ∨ finding ∈ findings := by
  have hkept : finding ∈ unique ∨ ∃ first ∈ findings, finding = first := by
    refine foldl_adds_only (finding ∈ ·) ?_ h
    intro unique first _ hfirst
    rw [keepFirst] at hfirst
    split at hfirst
    · exact .inl hfirst
    · simpa using hfirst
  simpa using hkept

variable (std : SortRoutine VulnerabilityFinding) {services : List ServiceInfo}

theorem mem_collected_of_mem_scan (h : finding ∈ scan std services) :
    finding ∈ services.foldl checkService [] := by
  rw [scan, std.mem_sort riskOrder_strictWeakOrder] at h
  exact (mem_of_mem_foldl_keepFirst h).resolve_left (by simp)

theorem exists_of_mem_scan
    {raised : ServiceInfo → VulnerabilityFinding → Prop}
    (hcheck : ∀ service ∈ services, ∀ findings, ∀ finding ∈
      checkService findings service, finding ∈ findings ∨
        raised service finding)
    (h : finding ∈ scan std services) :
    ∃ service ∈ services, raised service finding :=
  (exists_of_mem_foldl_checkService hcheck
    (mem_collected_of_mem_scan std h)).resolve_left (by simp)

end VulnerabilityScanner

end SlipNet.Security
