import SlipNet.Standard.Integers
import SlipNet.Standard.Strings

/-!
# The SSL auditor

`SSLAuditor::audit` connects to a service through OpenSSL with peer
verification switched on, and assesses the certificate, the protocol version
and the cipher after the handshake.  OpenSSL and the server are parameters.  A
handshake that fails ends the audit, so a certificate that does not verify is
never assessed.
-/

namespace SlipNet.Security

open SlipNet.Standard

inductive SSLSeverity
  | info | low | medium | high | critical
  deriving DecidableEq, Repr

structure SSLFinding where
  severity : SSLSeverity := .info
  id : Str := []
  title : Str := []
  description : Str := []
  evidence : Str := []
  remediation : Str := []
  confidence : Int := 0
  deriving DecidableEq, Repr

structure SSLAuditResult where
  connected : Bool := false
  tlsEstablished : Bool := false
  host : Str := []
  port : Int := 443
  tlsVersion : Str := []
  cipher : Str := []
  subject : Str := []
  issuer : Str := []
  validFrom : Str := []
  validUntil : Str := []
  certificateValid : Bool := false
  certificateExpired : Bool := false
  selfSigned : Bool := false
  findings : List SSLFinding := []
  deriving DecidableEq, Repr

def SSLAuditResult.push (result : SSLAuditResult) (finding : SSLFinding) :
    SSLAuditResult :=
  { result with findings := result.findings ++ [finding] }

namespace SSLAuditor

/-! ## OpenSSL -/

inductive VerifyMode
  | SSL_VERIFY_NONE | SSL_VERIFY_PEER
  deriving DecidableEq, Repr

structure Settings where
  mode : VerifyMode := .SSL_VERIFY_NONE
  callback : Bool := false
  defaultVerifyPaths : Bool := false
  host : Option Str := none
  deriving DecidableEq, Repr

structure X509 (Time Name : Type) where
  notBefore : Option Time
  notAfter : Option Time
  subject : Option Name
  issuer : Option Name

/-- The protocol versions a server speaks and the certificate it presents. -/
structure TlsServer (Time Name : Type) where
  versions : List Str
  certificate : Option (X509 Time Name)

/-- What the calls of OpenSSL return; targets are the texts `host:port`.  A
Boolean tells whether a pointer is not null, and the two printers cover the
memory BIO they print to. -/
structure OpenSsl (Time Name : Type) where
  versions : List Str
  server : Str → TlsServer Time Name
  SSL_CTX_new : Bool
  BIO_new_connect : Str → Bool
  BIO_do_connect : Str → Int
  SSL_new : Bool
  SSL_get0_param : Bool
  SSL_connect : Settings → Str → Int
  SSL_get_version : Str → Option Str
  SSL_CIPHER_get_name : Str → Option Str
  SSL_get_verify_result : Settings → Str → Int
  X509_verify_cert_error_string : Int → Str
  X509_cmp_current_time : Time → Int
  X509_NAME_cmp : Option Name → Option Name → Int
  X509_NAME_print_ex : Name → Option Str
  ASN1_TIME_print : Time → Option Str

def X509_V_OK : Int := 0

variable {Time Name : Type} (lib : OpenSsl Time Name)

def certificateName (name : Option Name) : Str :=
  (name.bind lib.X509_NAME_print_ex).getD []

def asn1TimeToString (time : Option Time) : Str :=
  (time.bind lib.ASN1_TIME_print).getD []

def certificateTimeExpired (certificate : X509 Time Name) : Bool :=
  match certificate.notBefore, certificate.notAfter with
  | some notBefore, some notAfter =>
      if lib.X509_cmp_current_time notBefore > 0 then true
      else lib.X509_cmp_current_time notAfter < 0
  | _, _ => true

def certificateIsExpired (certificate : X509 Time Name) : Bool :=
  match certificate.notAfter with
  | some notAfter => lib.X509_cmp_current_time notAfter < 0
  | none => true

def certificateIsSelfSigned (certificate : X509 Time Name) : Bool :=
  lib.X509_NAME_cmp certificate.subject certificate.issuer = 0

/-! ## Findings -/

def makeFinding (severity : SSLSeverity)
    (id title description evidence remediation : Str) (confidence : Int) :
    SSLFinding where
  severity := severity
  id := id
  title := title
  description := description
  evidence := evidence
  remediation := remediation
  confidence := max 0 (min 100 confidence)

def contextFailed : SSLFinding :=
  makeFinding .high
    "SLP-SSL-CONTEXT".toList
    "Unable to initialize TLS context".toList
    "SlipNet could not initialize the OpenSSL TLS client context.".toList
    "SSL_CTX_new() failed.".toList
    "Verify the OpenSSL installation and runtime configuration.".toList
    100

def endpointUnreachable (target : Str) : SSLFinding :=
  makeFinding .info
    "SLP-SSL-NOCONNECT".toList
    "TLS endpoint unreachable".toList
    ("SlipNet could not establish the underlying TCP connection to the TLS " ++
      "service.").toList
    target
    ("Verify that the host is reachable and that the specified port " ++
      "provides a TLS service.").toList
    100

def handshakeFailed (target : Str) : SSLFinding :=
  makeFinding .medium
    "SLP-TLS-HANDSHAKE".toList
    "TLS handshake failed".toList
    ("The TCP service accepted a connection but did not complete a TLS " ++
      "handshake.").toList
    target
    ("Verify that the service actually speaks TLS and supports a compatible " ++
      "protocol version.").toList
    100

def certificateMissing (target : Str) : SSLFinding :=
  makeFinding .high
    "SLP-TLS-NOCERT".toList
    "TLS service did not provide a certificate".toList
    "The TLS handshake completed without a peer certificate.".toList
    target
    "Configure the TLS service with a valid server certificate.".toList
    100

def certificateExpired (validUntil : Str) : SSLFinding :=
  makeFinding .high
    "SLP-SSL-EXPIRED".toList
    "Expired TLS certificate".toList
    "The server certificate is no longer valid.".toList
    ("Certificate expiry: ".toList ++ validUntil)
    "Replace the certificate with a currently valid certificate.".toList
    100

def certificateSelfSigned : SSLFinding :=
  makeFinding .medium
    "SLP-SSL-SELFSIGNED".toList
    "Self-signed TLS certificate".toList
    ("The server certificate is self-signed and may not be trusted by " ++
      "standard clients.").toList
    "Subject and issuer are identical.".toList
    ("Use a certificate issued by a trusted certificate authority when " ++
      "appropriate.").toList
    100

def weakTlsVersion (tlsVersion : Str) : SSLFinding :=
  makeFinding .high
    "SLP-WEAK-TLS-VERSION".toList
    "Legacy TLS protocol negotiated".toList
    ("The server negotiated a legacy TLS protocol version that should " ++
      "generally no longer be used.").toList
    tlsVersion
    "Disable legacy TLS protocols and require TLS 1.2 or newer.".toList
    100

def tls12 (tlsVersion : Str) : SSLFinding :=
  makeFinding .info
    "SLP-TLS12".toList
    "TLS 1.2 negotiated".toList
    "The service successfully negotiated TLS 1.2.".toList
    tlsVersion
    ("Prefer TLS 1.3 where supported while maintaining compatibility " ++
      "requirements.").toList
    100

def weakCipher (cipher : Str) : SSLFinding :=
  makeFinding .high
    "SLP-WEAK-CIPHER".toList
    "Weak TLS cipher negotiated".toList
    ("The negotiated TLS cipher indicates a legacy or weak cryptographic " ++
      "configuration.").toList
    cipher
    "Disable weak cipher suites and use modern AEAD-based cipher suites.".toList
    98

def verificationFailed (error : Str) : SSLFinding :=
  makeFinding .high
    "SLP-CERT-VERIFY".toList
    "Certificate trust verification failed".toList
    ("OpenSSL could not establish a trusted certificate chain for the TLS " ++
      "service.").toList
    error
    ("Install a certificate issued by a trusted certificate authority and " ++
      "provide the correct certificate chain.").toList
    100

def tls13 (tlsVersion : Str) : SSLFinding :=
  makeFinding .info
    "SLP-TLS13".toList
    "Modern TLS protocol negotiated".toList
    "The service successfully negotiated TLS 1.3.".toList
    tlsVersion
    ("Continue maintaining current TLS configuration and monitor future " ++
      "cryptographic recommendations.").toList
    100

/-! ## After the handshake -/

def assessCertificate (target : Str) (certificate : Option (X509 Time Name))
    (result : SSLAuditResult) : SSLAuditResult :=
  match certificate with
  | none => result.push (certificateMissing target)
  | some certificate =>
      let result : SSLAuditResult :=
        { result with
          subject := certificateName lib certificate.subject
          issuer := certificateName lib certificate.issuer
          validFrom := asn1TimeToString lib certificate.notBefore
          validUntil := asn1TimeToString lib certificate.notAfter
          certificateExpired := certificateIsExpired lib certificate
          certificateValid := !certificateTimeExpired lib certificate
          selfSigned := certificateIsSelfSigned lib certificate }
      let result :=
        if result.certificateExpired then
          result.push (certificateExpired result.validUntil)
        else result
      if result.selfSigned then result.push certificateSelfSigned else result

def assessVersion (result : SSLAuditResult) : SSLAuditResult :=
  if result.tlsVersion = "TLSv1".toList ∨
      result.tlsVersion = "TLSv1.1".toList then
    result.push (weakTlsVersion result.tlsVersion)
  else if result.tlsVersion = "TLSv1.2".toList then
    result.push (tls12 result.tlsVersion)
  else result

def assessCipher (result : SSLAuditResult) : SSLAuditResult :=
  if (find "RC4".toList result.cipher).isSome ∨
      (find "3DES".toList result.cipher).isSome ∨
      (find "DES".toList result.cipher).isSome ∨
      (find "NULL".toList result.cipher).isSome ∨
      (find "EXPORT".toList result.cipher).isSome then
    result.push (weakCipher result.cipher)
  else result

def assessTrust (verifyResult : Int) (result : SSLAuditResult) :
    SSLAuditResult :=
  if verifyResult ≠ X509_V_OK then
    result.push (verificationFailed
      (lib.X509_verify_cert_error_string verifyResult))
  else result

def assessModern (result : SSLAuditResult) : SSLAuditResult :=
  if result.tlsVersion = "TLSv1.3".toList then
    result.push (tls13 result.tlsVersion)
  else result

/-! ## The audit -/

def targetOf (host : Str) (port : Int) : Str :=
  host ++ ":".toList ++ printInt port

def settingsFor (host : Str) : Settings where
  mode := .SSL_VERIFY_PEER
  callback := false
  defaultVerifyPaths := true
  host := if lib.SSL_get0_param then some (cStr host) else none

def audit (host : Str) (port : Int) : SSLAuditResult :=
  let result : SSLAuditResult := { host := host, port := port }
  let target := targetOf host port
  if !lib.SSL_CTX_new then result.push contextFailed
  else if !lib.BIO_new_connect (cStr target) then result
  else if lib.BIO_do_connect (cStr target) ≤ 0 then
    result.push (endpointUnreachable target)
  else
    let result := { result with connected := true }
    if !lib.SSL_new then result
    else if lib.SSL_connect (settingsFor lib host) (cStr target) ≠ 1 then
      result.push (handshakeFailed target)
    else
      { result with
        tlsEstablished := true
        tlsVersion := (lib.SSL_get_version (cStr target)).getD []
        cipher := (lib.SSL_CIPHER_get_name (cStr target)).getD [] }
        |> assessCertificate lib target (lib.server (cStr target)).certificate
        |> assessVersion
        |> assessCipher
        |> assessTrust lib
          (lib.SSL_get_verify_result (settingsFor lib host) (cStr target))
        |> assessModern

/-! ## Which findings an audit reaches -/

def ids (result : SSLAuditResult) : List Str :=
  result.findings.map SSLFinding.id

def Completes (host : Str) (port : Int) : Prop :=
  lib.SSL_CTX_new = true ∧
    lib.BIO_new_connect (cStr (targetOf host port)) = true ∧
    0 < lib.BIO_do_connect (cStr (targetOf host port)) ∧
    lib.SSL_new = true ∧
    lib.SSL_connect (settingsFor lib host) (cStr (targetOf host port)) = 1

/-- The settings as they are when the handshake starts, and the replies of the
server to it, decide how the verification ends. -/
def verification (host : Str) (port : Int) : Int :=
  lib.SSL_get_verify_result (settingsFor lib host)
    (cStr (targetOf host port))

variable {lib} {host : Str} {port : Int} {result : SSLAuditResult} {id : Str}

@[simp] theorem mem_ids_push {finding : SSLFinding} :
    id ∈ ids (result.push finding) ↔ id ∈ ids result ∨ id = finding.id := by
  simp [ids, SSLAuditResult.push]

theorem mem_ids_assessVersion (h : id ∈ ids result) :
    id ∈ ids (assessVersion result) := by
  unfold assessVersion
  split_ifs <;> simp [h]

theorem mem_ids_assessCipher (h : id ∈ ids result) :
    id ∈ ids (assessCipher result) := by
  unfold assessCipher
  split_ifs <;> simp [h]

theorem mem_ids_assessTrust {verifyResult : Int} (h : id ∈ ids result) :
    id ∈ ids (assessTrust lib verifyResult result) := by
  unfold assessTrust
  split_ifs <;> simp [h]

theorem mem_ids_assessModern (h : id ∈ ids result) :
    id ∈ ids (assessModern result) := by
  unfold assessModern
  split_ifs <;> simp [h]

theorem mem_ids_audit (hcompletes : Completes lib host port)
    (h : ∀ result, id ∈ ids (assessCertificate lib (targetOf host port)
      (lib.server (cStr (targetOf host port))).certificate result)) :
    id ∈ ids (audit lib host port) := by
  obtain ⟨hcontext, hbio, hconnect, hssl, hhandshake⟩ := hcompletes
  unfold audit
  simp only [hcontext, hbio, hssl, hhandshake, not_le.mpr hconnect,
    Bool.not_true, Bool.false_eq_true, if_false, ne_eq, not_true_eq_false]
  exact mem_ids_assessModern (mem_ids_assessTrust (mem_ids_assessCipher
    (mem_ids_assessVersion (h _))))

/-- The findings of an audit that ends before it sees the certificate. -/
def earlyIds : List Str :=
  ["SLP-SSL-CONTEXT".toList, "SLP-SSL-NOCONNECT".toList,
    "SLP-TLS-HANDSHAKE".toList]

theorem mem_earlyIds (h : ¬ Completes lib host port)
    (hid : id ∈ ids (audit lib host port)) : id ∈ earlyIds := by
  have hnone : ∀ connected, id ∉ ids { connected, host, port } := by
    simp [ids]
  unfold audit at hid
  dsimp only at hid
  split_ifs at hid with hcontext hbio hconnect hssl hhandshake
  · obtain rfl := (mem_ids_push.mp hid).resolve_left (hnone _)
    exact .head _
  · exact absurd hid (hnone _)
  · obtain rfl := (mem_ids_push.mp hid).resolve_left (hnone _)
    exact .tail _ (.head _)
  · exact absurd hid (hnone _)
  · obtain rfl := (mem_ids_push.mp hid).resolve_left (hnone _)
    exact .tail _ (.tail _ (.head _))
  · refine absurd ⟨?_, ?_, ?_, ?_, ?_⟩ h
    · simpa using hcontext
    · simpa using hbio
    · exact not_le.mp hconnect
    · simpa using hssl
    · exact not_not.mp hhandshake

/-! ## Certificate problems -/

def Expired (lib : OpenSsl Time Name) (certificate : X509 Time Name) : Prop :=
  ∃ notAfter, certificate.notAfter = some notAfter ∧
    lib.X509_cmp_current_time notAfter < 0

def SelfSigned (lib : OpenSsl Time Name) (certificate : X509 Time Name) :
    Prop :=
  lib.X509_NAME_cmp certificate.subject certificate.issuer = 0

/-- The server accepts connections and speaks a version of the client. -/
def Reachable (lib : OpenSsl Time Name) (host : Str) (port : Int) : Prop :=
  0 < lib.BIO_do_connect (cStr (targetOf host port)) ∧
    ∃ version ∈ (lib.server (cStr (targetOf host port))).versions,
      version ∈ lib.versions

/-- With peer verification and no callback, a handshake completes only if the
verification succeeded. -/
def VerifiesPeer (lib : OpenSsl Time Name) : Prop :=
  ∀ settings target, settings.mode = .SSL_VERIFY_PEER →
    settings.callback = false → lib.SSL_connect settings target = 1 →
    lib.SSL_get_verify_result settings target = X509_V_OK

/-- Every problem of the presented certificate is among the findings. -/
structure ReportsProblems (lib : OpenSsl Time Name) (host : Str) (port : Int) :
    Prop where
  expired : ∀ certificate ∈
    (lib.server (cStr (targetOf host port))).certificate,
    Expired lib certificate →
      "SLP-SSL-EXPIRED".toList ∈ ids (audit lib host port)
  selfSigned : ∀ certificate ∈
    (lib.server (cStr (targetOf host port))).certificate,
    SelfSigned lib certificate →
      "SLP-SSL-SELFSIGNED".toList ∈ ids (audit lib host port)
  unverified : verification lib host port ≠ X509_V_OK →
    "SLP-CERT-VERIFY".toList ∈ ids (audit lib host port)

theorem mem_ids_expired {target : Str} {certificate : X509 Time Name}
    (h : Expired lib certificate) (result : SSLAuditResult) :
    "SLP-SSL-EXPIRED".toList ∈
      ids (assessCertificate lib target (some certificate) result) := by
  obtain ⟨notAfter, hnotAfter, hpast⟩ := h
  have hexpired : certificateIsExpired lib certificate = true := by
    simp [certificateIsExpired, hnotAfter, hpast]
  simp only [assessCertificate, hexpired, if_true]
  split
  · exact mem_ids_push.mpr (.inl (mem_ids_push.mpr (.inr rfl)))
  · exact mem_ids_push.mpr (.inr rfl)

theorem mem_ids_selfSigned {target : Str} {certificate : X509 Time Name}
    (h : SelfSigned lib certificate) (result : SSLAuditResult) :
    "SLP-SSL-SELFSIGNED".toList ∈
      ids (assessCertificate lib target (some certificate) result) := by
  have hself : certificateIsSelfSigned lib certificate = true :=
    decide_eq_true h
  simp only [assessCertificate, hself]
  split <;> exact mem_ids_push.mpr (.inr rfl)

/-- A certificate that does not verify is never assessed, whatever else is wrong
with it; one that verifies is assessed if the handshake completes. -/
theorem reportsProblems_iff (hverifies : VerifiesPeer lib) (host : Str)
    (port : Int) :
    ReportsProblems lib host port ↔
      verification lib host port = X509_V_OK ∧
        (Completes lib host port ∨ ∀ certificate ∈
          (lib.server (cStr (targetOf host port))).certificate,
          ¬ Expired lib certificate ∧ ¬ SelfSigned lib certificate) := by
  constructor
  · intro hreports
    refine ⟨?_, ?_⟩
    · by_contra hfailed
      have hexit : ¬ Completes lib host port := fun hcompletes =>
        hfailed (hverifies _ _ rfl rfl hcompletes.2.2.2.2)
      have hearly := mem_earlyIds hexit (hreports.unverified hfailed)
      exact absurd hearly (by decide)
    · by_cases hcompletes : Completes lib host port
      · exact .inl hcompletes
      · refine .inr fun certificate hcertificate => ⟨fun h => ?_, fun h => ?_⟩
        · have hearly := mem_earlyIds hcompletes
            (hreports.expired certificate hcertificate h)
          exact absurd hearly (by decide)
        · have hearly := mem_earlyIds hcompletes
            (hreports.selfSigned certificate hcertificate h)
          exact absurd hearly (by decide)
  · rintro ⟨hverified, hcompletes | hclean⟩
    · refine ⟨fun certificate hcertificate h => ?_,
        fun certificate hcertificate h => ?_, fun h => absurd hverified h⟩
      · refine mem_ids_audit hcompletes fun result => ?_
        rw [Option.mem_def.mp hcertificate]
        exact mem_ids_expired h result
      · refine mem_ids_audit hcompletes fun result => ?_
        rw [Option.mem_def.mp hcertificate]
        exact mem_ids_selfSigned h result
    · exact ⟨fun certificate hcertificate h =>
          absurd h (hclean certificate hcertificate).1,
        fun certificate hcertificate h =>
          absurd h (hclean certificate hcertificate).2,
        fun h => absurd hverified h⟩

/-- A TLS 1.3 server with a self-signed certificate that expires at a given
time, seen at time 1000.  The handshake completes if the verification does. -/
def labServer (notAfter verifyResult : Int) : OpenSsl Int Str where
  versions := ["TLSv1.2".toList, "TLSv1.3".toList]
  server _ :=
    { versions := ["TLSv1.3".toList]
      certificate := some
        { notBefore := some 0
          notAfter := some notAfter
          subject := some "CN=lab".toList
          issuer := some "CN=lab".toList } }
  SSL_CTX_new := true
  BIO_new_connect _ := true
  BIO_do_connect _ := 1
  SSL_new := true
  SSL_get0_param := true
  SSL_connect _ _ := if verifyResult = X509_V_OK then 1 else -1
  SSL_get_version _ := some "TLSv1.3".toList
  SSL_CIPHER_get_name _ := some "TLS_AES_256_GCM_SHA384".toList
  SSL_get_verify_result _ _ := verifyResult
  X509_verify_cert_error_string _ := "certificate has expired".toList
  X509_cmp_current_time time := if time ≤ 1000 then -1 else 1
  X509_NAME_cmp a b := if a = b then 0 else 1
  X509_NAME_print_ex := some
  ASN1_TIME_print time := some (printInt time)

theorem verifiesPeer_labServer (notAfter verifyResult : Int) :
    VerifiesPeer (labServer notAfter verifyResult) := by
  intro settings target _ _ hconnect
  by_contra hfailed
  have hresult : ¬ verifyResult = X509_V_OK := hfailed
  simp [labServer, hresult] at hconnect

/-- A self-signed certificate that is trusted and still valid. -/
theorem reportsProblems_trusted :
    ReportsProblems (labServer 2000 0) "10.0.0.5".toList 443 :=
  (reportsProblems_iff (verifiesPeer_labServer 2000 0) _ _).mpr
    ⟨rfl, .inl ⟨rfl, rfl, by decide, rfl, rfl⟩⟩

/-- The certificate is expired and self-signed, and its verification fails with
`X509_V_ERR_CERT_HAS_EXPIRED`; the audit reports a failed handshake only. -/
theorem not_reportsProblems_expired :
    let lib := labServer 500 10
    Reachable lib "10.0.0.5".toList 443 ∧ VerifiesPeer lib ∧
      ids (audit lib "10.0.0.5".toList 443) =
        ["SLP-TLS-HANDSHAKE".toList] ∧
      ¬ ReportsProblems lib "10.0.0.5".toList 443 := by
  have hids : ids (audit (labServer 500 10) "10.0.0.5".toList 443) =
      ["SLP-TLS-HANDSHAKE".toList] := by decide
  refine ⟨⟨by decide, "TLSv1.3".toList, by simp [labServer],
    by simp [labServer]⟩, verifiesPeer_labServer 500 10, hids, fun h => ?_⟩
  have hfound := h.expired _ rfl ⟨500, rfl, by decide⟩
  rw [hids] at hfound
  exact absurd hfound (by decide)

end SSLAuditor

end SlipNet.Security
