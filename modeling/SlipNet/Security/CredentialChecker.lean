import SlipNet.Core.NetworkState
import SlipNet.Foundation.Folds
import SlipNet.Standard.Integers
import SlipNet.Standard.Sorting
import Mathlib.Data.Char
import Mathlib.Data.List.Lex
import Mathlib.Data.Prod.Lex
import Mathlib.Order.Basic

/-!
# The credential checker

`CredentialChecker::check` raises a finding for a service on a well-known
authentication port and sorts the findings by risk.  It looks at the stored
record only.
-/

namespace SlipNet.Security

open SlipNet.Foundation
open SlipNet.Standard
open SlipNet.Core

inductive CredentialRisk
  | info | low | medium | high | critical
  deriving DecidableEq, Repr

def CredentialRisk.toInt : CredentialRisk → Int
  | .info => 0
  | .low => 1
  | .medium => 2
  | .high => 3
  | .critical => 4

structure CredentialFinding where
  host : Str
  port : Int
  service : Str
  version : Str
  id : Str
  title : Str
  description : Str
  evidence : Str
  remediation : Str
  risk : CredentialRisk
  confidence : Int
  deriving DecidableEq, Repr

namespace CredentialChecker

def makeFinding (service : ServiceInfo) (risk : CredentialRisk)
    (id title description evidence remediation : Str) (confidence : Int) :
    CredentialFinding where
  host := service.ip
  port := service.port
  service := service.service
  version := service.version
  risk := risk
  id := id
  title := title
  description := description
  evidence := evidence
  remediation := remediation
  confidence := max 0 (min 100 confidence)

/-- A case label of a `switch (service.port)` with the finding it pushes. -/
abbrev Case := Int × (ServiceInfo → CredentialFinding)

/-- One `switch (service.port)`, each case of which pushes a finding. -/
def switch (cases : List Case) (service : ServiceInfo)
    (findings : List CredentialFinding) : List CredentialFinding :=
  match cases.find? fun (port, _) => service.port = port with
  | some (_, finding) => findings ++ [finding service]
  | none => findings

/-! ## The rules -/

def ftp (service : ServiceInfo) : CredentialFinding :=
  makeFinding service .high
    "SLP-CRED-FTP".toList
    "FTP authentication may expose credentials".toList
    ("Traditional FTP does not provide transport encryption by itself. " ++
      "Authentication material may therefore be transmitted without " ++
      "protection.").toList
    "TCP/21 is reachable and identified as FTP.".toList
    ("Prefer SFTP or FTPS and restrict FTP access to trusted network " ++
      "segments.").toList
    95

def telnet (service : ServiceInfo) : CredentialFinding :=
  makeFinding service .critical
    "SLP-CRED-TELNET".toList
    "Telnet authentication may expose credentials".toList
    ("Telnet provides no native transport encryption. Credentials and " ++
      "session traffic may be exposed to network observers.").toList
    "TCP/23 is reachable.".toList
    ("Disable Telnet and use SSH or another encrypted remote administration " ++
      "protocol.").toList
    98

def smtp (service : ServiceInfo) : CredentialFinding :=
  makeFinding service .medium
    "SLP-CRED-SMTP".toList
    "SMTP authentication exposure".toList
    ("SMTP services may support authentication over unencrypted or " ++
      "improperly protected connections.").toList
    "TCP/25 is reachable and may provide SMTP service.".toList
    ("Require TLS for authenticated SMTP sessions and disable insecure " ++
      "authentication mechanisms.").toList
    80

def pop3 (service : ServiceInfo) : CredentialFinding :=
  makeFinding service .high
    "SLP-CRED-POP3".toList
    "POP3 authentication may expose credentials".toList
    ("Traditional POP3 does not inherently protect authentication traffic " ++
      "with encryption.").toList
    "TCP/110 is reachable.".toList
    ("Prefer POP3S or enforce STARTTLS with secure authentication " ++
      "policies.").toList
    92

def imap (service : ServiceInfo) : CredentialFinding :=
  makeFinding service .high
    "SLP-CRED-IMAP".toList
    "IMAP authentication may expose credentials".toList
    ("Traditional IMAP can expose authentication material when TLS is not " ++
      "enforced.").toList
    "TCP/143 is reachable.".toList
    ("Require TLS/STARTTLS and disable insecure authentication where " ++
      "possible.").toList
    90

def plaintextCases : List Case :=
  [(21, ftp), (23, telnet), (25, smtp), (110, pop3), (143, imap)]

def checkPlaintextAuthentication : ServiceInfo → List CredentialFinding →
    List CredentialFinding :=
  switch plaintextCases

def ssh (service : ServiceInfo) : CredentialFinding :=
  makeFinding service .low
    "SLP-CRED-SSH".toList
    "SSH authentication surface exposed".toList
    ("SSH provides encrypted authentication, but an exposed remote " ++
      "authentication service increases the authentication attack " ++
      "surface.").toList
    "TCP/22 is reachable and identified as SSH.".toList
    ("Restrict SSH access using firewall rules, VPN access, key-based " ++
      "authentication and appropriate rate-limiting controls.").toList
    90

def rdp (service : ServiceInfo) : CredentialFinding :=
  makeFinding service .high
    "SLP-CRED-RDP".toList
    "RDP authentication surface exposed".toList
    ("Remote Desktop exposes a remote authentication interface that should " ++
      "normally be restricted to trusted networks.").toList
    "TCP/3389 is reachable.".toList
    ("Restrict RDP through VPN or firewall policies and enforce strong " ++
      "authentication controls.").toList
    94

def smb (service : ServiceInfo) : CredentialFinding :=
  makeFinding service .high
    "SLP-CRED-SMB".toList
    "SMB authentication surface exposed".toList
    ("SMB provides a network authentication surface that can increase " ++
      "credential-related attack risk when exposed to untrusted " ++
      "networks.").toList
    "TCP/445 is reachable.".toList
    ("Restrict SMB to trusted networks and enforce modern SMB security " ++
      "policies.").toList
    93

def remoteCases : List Case :=
  [(22, ssh), (3389, rdp), (445, smb)]

def checkRemoteAuthenticationExposure : ServiceInfo →
    List CredentialFinding → List CredentialFinding :=
  switch remoteCases

def mysql (service : ServiceInfo) : CredentialFinding :=
  makeFinding service .high
    "SLP-CRED-MYSQL".toList
    "MySQL authentication endpoint exposed".toList
    ("A remotely reachable database authentication service increases the " ++
      "risk of credential attacks and unauthorized database access.").toList
    "TCP/3306 is reachable.".toList
    ("Restrict MySQL access to trusted application hosts and require strong " ++
      "authentication.").toList
    93

def postgres (service : ServiceInfo) : CredentialFinding :=
  makeFinding service .high
    "SLP-CRED-POSTGRES".toList
    "PostgreSQL authentication endpoint exposed".toList
    ("A remotely reachable PostgreSQL authentication service increases the " ++
      "database attack surface.").toList
    "TCP/5432 is reachable.".toList
    ("Restrict PostgreSQL access using network controls and strong " ++
      "authentication policies.").toList
    93

def redis (service : ServiceInfo) : CredentialFinding :=
  makeFinding service .high
    "SLP-CRED-REDIS".toList
    "Redis authentication surface exposed".toList
    ("An exposed Redis service may present a serious authentication and " ++
      "unauthorized-access risk depending on its configuration.").toList
    "TCP/6379 is reachable.".toList
    ("Restrict Redis to trusted hosts and enforce authentication and " ++
      "network access controls.").toList
    90

def mongo (service : ServiceInfo) : CredentialFinding :=
  makeFinding service .high
    "SLP-CRED-MONGO".toList
    "MongoDB authentication surface exposed".toList
    ("A remotely reachable MongoDB service increases the risk of " ++
      "unauthorized database access when authentication or network " ++
      "controls are weak.").toList
    "TCP/27017 is reachable.".toList
    ("Restrict MongoDB access and enforce authentication with appropriate " ++
      "network segmentation.").toList
    90

def databaseCases : List Case :=
  [(3306, mysql), (5432, postgres), (6379, redis), (27017, mongo)]

def checkDatabaseAuthenticationExposure : ServiceInfo →
    List CredentialFinding → List CredentialFinding :=
  switch databaseCases

/-! ## The check -/

def checkService (findings : List CredentialFinding) (service : ServiceInfo) :
    List CredentialFinding :=
  findings
    |> checkPlaintextAuthentication service
    |> checkRemoteAuthenticationExposure service
    |> checkDatabaseAuthenticationExposure service

def riskOrder (a b : CredentialFinding) : Bool :=
  if a.risk ≠ b.risk then a.risk.toInt > b.risk.toInt
  else if a.host ≠ b.host then a.host < b.host
  else a.port < b.port

def check (std : SortRoutine CredentialFinding)
    (services : List ServiceInfo) : List CredentialFinding :=
  std.sort riskOrder (services.foldl checkService [])

/-! ## The order of the report -/

theorem CredentialRisk.toInt_injective :
    Function.Injective CredentialRisk.toInt := by
  intro a b h
  cases a <;> cases b <;> first | rfl | cases h

/-- Risk counts downwards, host and port upwards. -/
def riskKey (finding : CredentialFinding) : ℤᵒᵈ ×ₗ Str ×ₗ ℤ :=
  toLex (.toDual finding.risk.toInt, toLex (finding.host, finding.port))

theorem riskOrder_iff (a b : CredentialFinding) :
    riskOrder a b = true ↔ riskKey a < riskKey b := by
  simp only [riskKey, Prod.Lex.toLex_lt_toLex, OrderDual.toDual_lt_toDual,
    OrderDual.toDual_inj]
  unfold riskOrder
  split_ifs with hrisk hhost
  · have hne : a.risk.toInt ≠ b.risk.toInt := fun h =>
      hrisk (CredentialRisk.toInt_injective h)
    simp [hne]
  · rw [ne_eq, not_not] at hrisk
    simp [hrisk, hhost]
  · rw [ne_eq, not_not] at hrisk hhost
    simp [hrisk, hhost]

theorem riskOrder_strictWeakOrder : StrictWeakOrder riskOrder :=
  .of_key riskKey riskOrder_iff

/-! ## What a check reports -/

def allCases : List Case := plaintextCases ++ remoteCases ++ databaseCases

variable {service : ServiceInfo} {finding : CredentialFinding}
  {findings : List CredentialFinding}

theorem mem_switch {cases : List Case}
    (h : finding ∈ switch cases service findings) :
    finding ∈ findings ∨
      ∃ rule, (service.port, rule) ∈ cases ∧ finding = rule service := by
  rw [switch] at h
  split at h
  · next port rule hfind =>
      rw [List.mem_append, List.mem_singleton] at h
      refine h.imp_right fun h => ⟨rule, ?_, h⟩
      have hport : service.port = port := by simpa using List.find?_some hfind
      rw [hport]
      exact List.mem_of_find?_eq_some hfind
  · exact .inl h

theorem mem_checkService (h : finding ∈ checkService findings service) :
    finding ∈ findings ∨
      ∃ rule, (service.port, rule) ∈ allCases ∧ finding = rule service := by
  rcases mem_switch h with h | ⟨rule, hrule, h⟩
  · rcases mem_switch h with h | ⟨rule, hrule, h⟩
    · refine (mem_switch h).imp_right fun ⟨rule, hrule, h⟩ => ⟨rule, ?_, h⟩
      simp [allCases, hrule]
    · exact .inr ⟨rule, by simp [allCases, hrule], h⟩
  · exact .inr ⟨rule, by simp [allCases, hrule], h⟩

theorem exists_of_mem_foldl_checkService {services : List ServiceInfo}
    (h : finding ∈ services.foldl checkService findings) :
    finding ∈ findings ∨ ∃ service ∈ services, ∃ rule,
      (service.port, rule) ∈ allCases ∧ finding = rule service :=
  foldl_adds_only (finding ∈ ·) (fun _ _ _ hcheck => mem_checkService hcheck) h

theorem exists_of_mem_check (std : SortRoutine CredentialFinding)
    {services : List ServiceInfo} (h : finding ∈ check std services) :
    ∃ service ∈ services, ∃ rule,
      (service.port, rule) ∈ allCases ∧ finding = rule service := by
  rw [check, std.mem_sort riskOrder_strictWeakOrder] at h
  exact (exists_of_mem_foldl_checkService h).resolve_left (by simp)

end CredentialChecker

end SlipNet.Security
