import SlipNet.Foundation.Handles
import SlipNet.Security.SslAuditor

/-!
# The calls of an SSL audit

`SSLAuditor::audit` as a program over the calls to OpenSSL, with every `free`.
Against a library that keeps the settings and a memory BIO as its state it
returns what the model of the audit returns.  Whatever OpenSSL answers, the
context, the connection, the session, the certificate and the memory BIOs are
used while they live and freed once, and the connection is freed with the
session it was handed to.
-/

namespace SlipNet.Security.SslCalls

open SlipNet.Foundation
open SlipNet.Standard
open SlipNet.Security.SSLAuditor

variable {Time Name H : Type}

/-! ## The calls -/

/-- Names and times belong to the certificate they come with, parameters and
the cipher to the session. -/
inductive SslCall (Time Name H : Type)
  | SSL_CTX_new
  | SSL_CTX_set_verify (context : H) (mode : VerifyMode) (callback : Bool)
  | SSL_CTX_set_default_verify_paths (context : H)
  | SSL_CTX_free (context : H)
  | BIO_new_connect (target : Str)
  | BIO_set_conn_hostname (bio : H) (target : Str)
  | BIO_do_connect (bio : H)
  | BIO_free_all (bio : H)
  | SSL_new (context : H)
  | SSL_set_bio (ssl bio : H)
  | SSL_get0_param (ssl : H)
  | X509_VERIFY_PARAM_set1_host (ssl : H) (host : Str)
  | SSL_connect (ssl : H)
  | SSL_get_version (ssl : H)
  | SSL_CIPHER_get_name (ssl : H)
  | SSL_get_peer_certificate (ssl : H)
  | SSL_get_verify_result (ssl : H)
  | X509_verify_cert_error_string (verifyResult : Int)
  | SSL_shutdown (ssl : H)
  | SSL_free (ssl : H)
  | X509_get_subject_name (certificate : H)
  | X509_get_issuer_name (certificate : H)
  | X509_get0_notBefore (certificate : H)
  | X509_get0_notAfter (certificate : H)
  | X509_cmp_current_time (certificate : H) (time : Time)
  | X509_NAME_cmp (certificate : H) (a b : Option Name)
  | X509_free (certificate : H)
  | BIO_new
  | X509_NAME_print_ex (bio certificate : H) (name : Name)
  | ASN1_TIME_print (bio certificate : H) (time : Time)
  | BIO_get_mem_data (bio : H)
  | BIO_free (bio : H)

/-- A null pointer is `none`; `SSL_get0_param` tells whether its pointer is not
null, and no data is the empty text. -/
abbrev SslCall.Reply : SslCall Time Name H → Type
  | .SSL_CTX_new => Option H
  | .SSL_CTX_set_verify _ _ _ => Unit
  | .SSL_CTX_set_default_verify_paths _ => Unit
  | .SSL_CTX_free _ => Unit
  | .BIO_new_connect _ => Option H
  | .BIO_set_conn_hostname _ _ => Unit
  | .BIO_do_connect _ => Int
  | .BIO_free_all _ => Unit
  | .SSL_new _ => Option H
  | .SSL_set_bio _ _ => Unit
  | .SSL_get0_param _ => Bool
  | .X509_VERIFY_PARAM_set1_host _ _ => Unit
  | .SSL_connect _ => Int
  | .SSL_get_version _ => Option Str
  | .SSL_CIPHER_get_name _ => Option Str
  | .SSL_get_peer_certificate _ => Option H
  | .SSL_get_verify_result _ => Int
  | .X509_verify_cert_error_string _ => Str
  | .SSL_shutdown _ => Unit
  | .SSL_free _ => Unit
  | .X509_get_subject_name _ => Option Name
  | .X509_get_issuer_name _ => Option Name
  | .X509_get0_notBefore _ => Option Time
  | .X509_get0_notAfter _ => Option Time
  | .X509_cmp_current_time _ _ => Int
  | .X509_NAME_cmp _ _ _ => Int
  | .X509_free _ => Unit
  | .BIO_new => Option H
  | .X509_NAME_print_ex _ _ _ => Int
  | .ASN1_TIME_print _ _ _ => Int
  | .BIO_get_mem_data _ => Str
  | .BIO_free _ => Unit

abbrev SslProgram (Time Name H α : Type) :=
  Program (SslCall Time Name H) SslCall.Reply α

inductive Resource (H : Type)
  | context (pointer : H)
  | bio (pointer : H)
  | ssl (pointer : H)
  | certificate (pointer : H)
  deriving DecidableEq

/-- `SSL_set_bio` hands the connection over; `SSL_free` frees it. -/
def resources :
    Handles (SslCall Time Name H) SslCall.Reply (Resource H) where
  issued _ := True
  opened
    | .SSL_CTX_new, reply => reply.map .context
    | .BIO_new_connect _, reply => reply.map .bio
    | .SSL_new _, reply => reply.map .ssl
    | .SSL_get_peer_certificate _, reply => reply.map .certificate
    | .BIO_new, reply => reply.map .bio
    | _, _ => none
  used
    | .SSL_CTX_set_verify context _ _ => [.context context]
    | .SSL_CTX_set_default_verify_paths context => [.context context]
    | .BIO_set_conn_hostname bio _ => [.bio bio]
    | .BIO_do_connect bio => [.bio bio]
    | .SSL_new context => [.context context]
    | .SSL_set_bio ssl _ => [.ssl ssl]
    | .SSL_get0_param ssl => [.ssl ssl]
    | .X509_VERIFY_PARAM_set1_host ssl _ => [.ssl ssl]
    | .SSL_connect ssl => [.ssl ssl]
    | .SSL_get_version ssl => [.ssl ssl]
    | .SSL_CIPHER_get_name ssl => [.ssl ssl]
    | .SSL_get_peer_certificate ssl => [.ssl ssl]
    | .SSL_get_verify_result ssl => [.ssl ssl]
    | .SSL_shutdown ssl => [.ssl ssl]
    | .X509_get_subject_name certificate => [.certificate certificate]
    | .X509_get_issuer_name certificate => [.certificate certificate]
    | .X509_get0_notBefore certificate => [.certificate certificate]
    | .X509_get0_notAfter certificate => [.certificate certificate]
    | .X509_cmp_current_time certificate _ => [.certificate certificate]
    | .X509_NAME_cmp certificate _ _ => [.certificate certificate]
    | .X509_NAME_print_ex bio certificate _ =>
        [.bio bio, .certificate certificate]
    | .ASN1_TIME_print bio certificate _ =>
        [.bio bio, .certificate certificate]
    | .BIO_get_mem_data bio => [.bio bio]
    | _ => []
  closed
    | .SSL_CTX_free context => some (.context context)
    | .BIO_free_all bio => some (.bio bio)
    | .SSL_set_bio _ bio => some (.bio bio)
    | .SSL_free ssl => some (.ssl ssl)
    | .X509_free certificate => some (.certificate certificate)
    | .BIO_free bio => some (.bio bio)
    | _ => none

def call (c : SslCall Time Name H) : SslProgram Time Name H c.Reply :=
  .call c .done

/-! ## The certificate -/

/-- Both printers read what they printed and free the BIO, also when printing
has failed. -/
def readMemory (bio : H) (printed : Bool) : SslProgram Time Name H Str := do
  if !printed then
    call (.BIO_free bio)
    return []
  else
    let data ← call (.BIO_get_mem_data bio)
    call (.BIO_free bio)
    return data

/-- `certificateName`, behind `X509_get_issuer_name` or
`X509_get_subject_name`. -/
def certificateName (certificate : H) (name : Option Name) :
    SslProgram Time Name H Str := do
  match name with
  | none => return []
  | some name =>
      match ← call .BIO_new with
      | none => return []
      | some bio =>
          let printed ← call (.X509_NAME_print_ex bio certificate name)
          readMemory bio (printed ≥ 0)

def asn1TimeToString (certificate : H) (time : Option Time) :
    SslProgram Time Name H Str := do
  match time with
  | none => return []
  | some time =>
      match ← call .BIO_new with
      | none => return []
      | some bio =>
          let printed ← call (.ASN1_TIME_print bio certificate time)
          readMemory bio (printed = 1)

def certificateTimeExpired (certificate : H) :
    SslProgram Time Name H Bool := do
  let notBefore ← call (.X509_get0_notBefore certificate)
  let notAfter ← call (.X509_get0_notAfter certificate)
  match notBefore, notAfter with
  | some notBefore, some notAfter =>
      let begun ← call (.X509_cmp_current_time certificate notBefore)
      if begun > 0 then return true
      else
        let ended ← call (.X509_cmp_current_time certificate notAfter)
        return ended < 0
  | _, _ => return true

def certificateIsExpired (certificate : H) :
    SslProgram Time Name H Bool := do
  match ← call (.X509_get0_notAfter certificate) with
  | none => return true
  | some notAfter =>
      let ended ← call (.X509_cmp_current_time certificate notAfter)
      return ended < 0

def certificateIsSelfSigned (certificate : H) :
    SslProgram Time Name H Bool := do
  let subject ← call (.X509_get_subject_name certificate)
  let issuer ← call (.X509_get_issuer_name certificate)
  let compared ← call (.X509_NAME_cmp certificate subject issuer)
  return compared = 0

def readCertificate (certificate : H) (result : SSLAuditResult) :
    SslProgram Time Name H SSLAuditResult := do
  let subjectName ← call (.X509_get_subject_name certificate)
  let subject ← certificateName certificate subjectName
  let issuerName ← call (.X509_get_issuer_name certificate)
  let issuer ← certificateName certificate issuerName
  let notBefore ← call (.X509_get0_notBefore certificate)
  let validFrom ← asn1TimeToString certificate notBefore
  let notAfter ← call (.X509_get0_notAfter certificate)
  let validUntil ← asn1TimeToString certificate notAfter
  let certificateExpired ← certificateIsExpired certificate
  let timeExpired ← certificateTimeExpired certificate
  let selfSigned ← certificateIsSelfSigned certificate
  return { result with
    subject := subject
    issuer := issuer
    validFrom := validFrom
    validUntil := validUntil
    certificateExpired := certificateExpired
    certificateValid := !timeExpired
    selfSigned := selfSigned }

def assessCertificate (ssl : H) (target : Str) (result : SSLAuditResult) :
    SslProgram Time Name H SSLAuditResult := do
  match ← call (.SSL_get_peer_certificate ssl) with
  | none => return result.push (certificateMissing target)
  | some certificate =>
      let result ← readCertificate certificate result
      let result :=
        if result.certificateExpired then
          result.push (certificateExpired result.validUntil)
        else result
      let result :=
        if result.selfSigned then result.push certificateSelfSigned else result
      call (.X509_free certificate)
      return result

/-! ## The audit -/

def assessTrust (ssl : H) (result : SSLAuditResult) :
    SslProgram Time Name H SSLAuditResult := do
  let verifyResult ← call (.SSL_get_verify_result ssl)
  if verifyResult ≠ X509_V_OK then
    let error ← call (.X509_verify_cert_error_string verifyResult)
    return result.push (verificationFailed error)
  else return result

/-- `param` is not null: the host is verified. -/
def verifyHost (ssl : H) (host : Str) : SslProgram Time Name H Unit := do
  if ← call (.SSL_get0_param ssl) then
    call (.X509_VERIFY_PARAM_set1_host ssl (cStr host))
  else return ()

def releaseSession (ssl context : H) (result : SSLAuditResult) :
    SslProgram Time Name H SSLAuditResult := do
  call (.SSL_free ssl)
  call (.SSL_CTX_free context)
  return result

def releaseConnection (bio context : H) (result : SSLAuditResult) :
    SslProgram Time Name H SSLAuditResult := do
  call (.BIO_free_all bio)
  call (.SSL_CTX_free context)
  return result

def assessSession (ssl context : H) (target : Str) (result : SSLAuditResult) :
    SslProgram Time Name H SSLAuditResult := do
  let version ← call (.SSL_get_version ssl)
  let cipher ← call (.SSL_CIPHER_get_name ssl)
  let result ← assessCertificate ssl target { result with
    tlsEstablished := true
    tlsVersion := version.getD []
    cipher := cipher.getD [] }
  let result ← assessTrust ssl (assessCipher (assessVersion result))
  call (.SSL_shutdown ssl)
  releaseSession ssl context (assessModern result)

def auditSession (ssl context : H) (host target : Str)
    (result : SSLAuditResult) : SslProgram Time Name H SSLAuditResult := do
  verifyHost ssl host
  let handshake ← call (.SSL_connect ssl)
  if handshake ≠ 1 then
    releaseSession ssl context (result.push (handshakeFailed target))
  else assessSession ssl context target result

def audit (host : Str) (port : Int) :
    SslProgram Time Name H SSLAuditResult := do
  let result : SSLAuditResult := { host := host, port := port }
  let target := targetOf host port
  match ← call .SSL_CTX_new with
  | none => return result.push contextFailed
  | some context =>
      call (.SSL_CTX_set_verify context .SSL_VERIFY_PEER false)
      call (.SSL_CTX_set_default_verify_paths context)
      match ← call (.BIO_new_connect (cStr target)) with
      | none =>
          call (.SSL_CTX_free context)
          return result
      | some bio =>
          call (.BIO_set_conn_hostname bio (cStr target))
          let connected ← call (.BIO_do_connect bio)
          if connected ≤ 0 then
            releaseConnection bio context
              (result.push (endpointUnreachable target))
          else
            let result := { result with connected := true }
            match ← call (.SSL_new context) with
            | none => releaseConnection bio context result
            | some ssl =>
                call (.SSL_set_bio ssl bio)
                auditSession ssl context host target result

/-! ## What is held -/

section Contract

variable [DecidableEq H] {α : Type} {post : α → List (Resource H) → Prop}
  {held : List (Resource H)} {context bio ssl certificate : H}
  {result : SSLAuditResult}

theorem safe_use {c : SslCall Time Name H}
    {rest : c.Reply → SslProgram Time Name H α}
    (hopened : ∀ reply, resources.opened c reply = none)
    (hclosed : resources.closed c = none)
    (hused : ∀ resource ∈ resources.used c, resource ∈ held)
    (h : ∀ reply, resources.monitor.Safe post (rest reply) held) :
    resources.monitor.Safe post (call c >>= rest) held :=
  Handles.safe_uses hopened hused hclosed h

theorem safe_keep {program : SslProgram Time Name H α}
    {rest : α → SslProgram Time Name H SSLAuditResult}
    {post : SSLAuditResult → List (Resource H) → Prop}
    (hprogram : resources.monitor.Safe (fun _ after => after = held) program
      held)
    (h : ∀ value, resources.monitor.Safe post (rest value) held) :
    resources.monitor.Safe post (program >>= rest) held := by
  refine hprogram.bind ?_
  rintro value _ rfl
  exact h value

theorem safe_readMemory (hfresh : Resource.bio bio ∉ held) (printed : Bool) :
    resources.monitor.Safe (fun _ after => after = held)
      (readMemory bio printed : SslProgram Time Name H Str)
      (held ++ [.bio bio]) := by
  have herase : (held ++ [Resource.bio bio]).erase (.bio bio) = held := by
    rw [List.erase_append_right _ hfresh]
    simp
  have hfree {rest : Unit → SslProgram Time Name H Str}
      (h : resources.monitor.Safe (fun _ after => after = held) (rest ())
        held) :
      resources.monitor.Safe (fun _ after => after = held)
        (call (.BIO_free bio) >>= rest) (held ++ [.bio bio]) := by
    refine Handles.safe_close (fun _ => rfl) rfl rfl (by simp) fun _ => ?_
    rw [herase]
    exact h
  cases printed with
  | false => exact hfree rfl
  | true =>
      exact safe_use (fun _ => rfl) rfl (by simp [resources]) fun _ =>
        hfree rfl

theorem safe_print {print : H → SslCall Time Name H}
    {printed : ∀ bio, (print bio).Reply → Bool}
    (hopened : ∀ bio reply, resources.opened (print bio) reply = none)
    (hclosed : ∀ bio, resources.closed (print bio) = none)
    (hused : ∀ bio, resources.used (print bio) =
      [.bio bio, .certificate certificate])
    (hheld : .certificate certificate ∈ held) :
    resources.monitor.Safe (fun _ after => after = held)
      (do
        match ← call .BIO_new with
        | none => return []
        | some bio =>
            let reply ← call (print bio)
            readMemory bio (printed bio reply)) held := by
  refine Handles.safe_open rfl rfl fun reply hfresh => ?_
  cases reply with
  | none => exact List.append_nil held
  | some bio =>
      refine safe_use (hopened bio) (hclosed bio) ?_ fun reply => ?_
      · rw [hused]
        simp [hheld, resources]
      · exact safe_readMemory (hfresh _ rfl).2 _

theorem safe_certificateName (name : Option Name)
    (hheld : .certificate certificate ∈ held) :
    resources.monitor.Safe (fun _ after => after = held)
      (certificateName certificate name : SslProgram Time Name H Str) held := by
  cases name with
  | none => rfl
  | some name =>
      exact safe_print (fun _ _ => rfl) (fun _ => rfl) (fun _ => rfl) hheld

theorem safe_asn1TimeToString (time : Option Time)
    (hheld : .certificate certificate ∈ held) :
    resources.monitor.Safe (fun _ after => after = held)
      (asn1TimeToString certificate time : SslProgram Time Name H Str)
      held := by
  cases time with
  | none => rfl
  | some time =>
      exact safe_print (fun _ _ => rfl) (fun _ => rfl) (fun _ => rfl) hheld

theorem safe_ask {c : SslCall Time Name H}
    {rest : c.Reply → SslProgram Time Name H α}
    (hheld : .certificate certificate ∈ held)
    (hopened : ∀ reply, resources.opened c reply = none)
    (hclosed : resources.closed c = none)
    (hused : resources.used c = [.certificate certificate])
    (h : ∀ reply, resources.monitor.Safe post (rest reply) held) :
    resources.monitor.Safe post (call c >>= rest) held :=
  Handles.safe_use hopened hused hclosed hheld h

theorem safe_certificateTimeExpired
    (hheld : .certificate certificate ∈ held) :
    resources.monitor.Safe (fun _ after => after = held)
      (certificateTimeExpired certificate : SslProgram Time Name H Bool)
      held := by
  refine safe_ask hheld (fun _ => rfl) rfl rfl fun notBefore => ?_
  refine safe_ask hheld (fun _ => rfl) rfl rfl fun notAfter => ?_
  cases notBefore with
  | none => rfl
  | some notBefore =>
      cases notAfter with
      | none => rfl
      | some notAfter =>
          refine safe_ask hheld (fun _ => rfl) rfl rfl fun begun => ?_
          split_ifs
          · rfl
          · exact safe_ask hheld (fun _ => rfl) rfl rfl fun _ => rfl

theorem safe_certificateIsExpired (hheld : .certificate certificate ∈ held) :
    resources.monitor.Safe (fun _ after => after = held)
      (certificateIsExpired certificate : SslProgram Time Name H Bool)
      held := by
  refine safe_ask hheld (fun _ => rfl) rfl rfl fun notAfter => ?_
  cases notAfter with
  | none => rfl
  | some notAfter => exact safe_ask hheld (fun _ => rfl) rfl rfl fun _ => rfl

theorem safe_certificateIsSelfSigned
    (hheld : .certificate certificate ∈ held) :
    resources.monitor.Safe (fun _ after => after = held)
      (certificateIsSelfSigned certificate : SslProgram Time Name H Bool)
      held := by
  refine safe_ask hheld (fun _ => rfl) rfl rfl fun subject => ?_
  refine safe_ask hheld (fun _ => rfl) rfl rfl fun issuer => ?_
  exact safe_ask hheld (fun _ => rfl) rfl rfl fun _ => rfl

theorem safe_readCertificate (hheld : .certificate certificate ∈ held) :
    resources.monitor.Safe (fun _ after => after = held)
      (readCertificate certificate result :
        SslProgram Time Name H SSLAuditResult) held := by
  refine safe_ask hheld (fun _ => rfl) rfl rfl fun subjectName => ?_
  refine safe_keep (safe_certificateName subjectName hheld) fun subject => ?_
  refine safe_ask hheld (fun _ => rfl) rfl rfl fun issuerName => ?_
  refine safe_keep (safe_certificateName issuerName hheld) fun issuer => ?_
  refine safe_ask hheld (fun _ => rfl) rfl rfl fun notBefore => ?_
  refine safe_keep (safe_asn1TimeToString notBefore hheld) fun validFrom => ?_
  refine safe_ask hheld (fun _ => rfl) rfl rfl fun notAfter => ?_
  refine safe_keep (safe_asn1TimeToString notAfter hheld) fun validUntil => ?_
  refine safe_keep (safe_certificateIsExpired hheld) fun expired => ?_
  refine safe_keep (safe_certificateTimeExpired hheld) fun timeExpired => ?_
  exact safe_keep (safe_certificateIsSelfSigned hheld) fun _ => rfl

theorem safe_assessCertificate (target : Str) :
    resources.monitor.Safe
      (fun _ after => after = [.context context, .ssl ssl])
      (assessCertificate ssl target result :
        SslProgram Time Name H SSLAuditResult)
      [.context context, .ssl ssl] := by
  refine Handles.safe_make (by simp [resources]) rfl fun reply _ => ?_
  cases reply with
  | none => rfl
  | some certificate =>
      refine safe_keep (safe_readCertificate (by simp [resources]))
        fun read => ?_
      refine Handles.safe_close (fun _ => rfl) rfl rfl (by simp [resources])
        fun _ => ?_
      simp [resources]

theorem safe_assessTrust (hheld : .ssl ssl ∈ held) :
    resources.monitor.Safe (fun _ after => after = held)
      (assessTrust ssl result : SslProgram Time Name H SSLAuditResult)
      held := by
  refine Handles.safe_use (fun _ => rfl) rfl rfl hheld fun verifyResult => ?_
  split_ifs
  · exact Handles.safe_plain (fun _ => rfl) rfl rfl fun _ => rfl
  · rfl

theorem safe_verifyHost (host : Str) (hheld : .ssl ssl ∈ held) :
    resources.monitor.Safe (fun _ after => after = held)
      (verifyHost ssl host : SslProgram Time Name H Unit) held := by
  refine Handles.safe_use (fun _ => rfl) rfl rfl hheld fun param => ?_
  split_ifs
  · exact Handles.safe_use (fun _ => rfl) rfl rfl hheld fun _ => rfl
  · rfl

theorem safe_releaseSession :
    resources.monitor.Safe (fun _ after => after = [])
      (releaseSession ssl context result :
        SslProgram Time Name H SSLAuditResult)
      [.context context, .ssl ssl] := by
  refine Handles.safe_close (fun _ => rfl) rfl rfl (by simp) fun _ => ?_
  refine Handles.safe_close (fun _ => rfl) rfl rfl (by simp) fun _ => ?_
  simp

theorem safe_releaseConnection :
    resources.monitor.Safe (fun _ after => after = [])
      (releaseConnection bio context result :
        SslProgram Time Name H SSLAuditResult)
      [.context context, .bio bio] := by
  refine Handles.safe_close (fun _ => rfl) rfl rfl (by simp) fun _ => ?_
  refine Handles.safe_close (fun _ => rfl) rfl rfl (by simp) fun _ => ?_
  simp

theorem safe_assessSession (target : Str) :
    resources.monitor.Safe (fun _ after => after = [])
      (assessSession ssl context target result :
        SslProgram Time Name H SSLAuditResult)
      [.context context, .ssl ssl] := by
  have hheld : Resource.ssl ssl ∈ [Resource.context context, .ssl ssl] := by
    simp
  refine Handles.safe_use (fun _ => rfl) rfl rfl hheld fun version => ?_
  refine Handles.safe_use (fun _ => rfl) rfl rfl hheld fun cipher => ?_
  refine safe_keep (safe_assessCertificate target) fun assessed => ?_
  refine safe_keep (safe_assessTrust hheld) fun trusted => ?_
  exact Handles.safe_use (fun _ => rfl) rfl rfl hheld fun _ =>
    safe_releaseSession

theorem safe_auditSession (host target : Str) :
    resources.monitor.Safe (fun _ after => after = [])
      (auditSession ssl context host target result :
        SslProgram Time Name H SSLAuditResult)
      [.context context, .ssl ssl] := by
  have hheld : Resource.ssl ssl ∈ [Resource.context context, .ssl ssl] := by
    simp
  refine safe_keep (safe_verifyHost host hheld) fun _ => ?_
  refine Handles.safe_use (fun _ => rfl) rfl rfl hheld fun handshake => ?_
  split_ifs
  · exact safe_releaseSession
  · exact safe_assessSession target

theorem safe_audit (host : Str) (port : Int) :
    resources.monitor.Safe (fun _ after => after = [])
      (audit host port : SslProgram Time Name H SSLAuditResult) [] := by
  refine Handles.safe_open rfl rfl fun reply _ => ?_
  cases reply with
  | none => rfl
  | some context =>
      have hcontext : Resource.context context ∈ [Resource.context context] :=
        List.mem_cons_self
      refine Handles.safe_use (fun _ => rfl) rfl rfl hcontext fun _ => ?_
      refine Handles.safe_use (fun _ => rfl) rfl rfl hcontext fun _ => ?_
      refine Handles.safe_open rfl rfl fun reply _ => ?_
      cases reply with
      | none =>
          refine Handles.safe_close (fun _ => rfl) rfl rfl hcontext
            fun _ => ?_
          simp [resources]
      | some bio =>
          have hbio : Resource.bio bio ∈
              [Resource.context context, .bio bio] := by simp
          refine Handles.safe_use (fun _ => rfl) rfl rfl hbio fun _ => ?_
          refine Handles.safe_use (fun _ => rfl) rfl rfl hbio
            fun connected => ?_
          split_ifs
          · exact safe_releaseConnection
          refine Handles.safe_make (by simp [resources]) rfl
            fun reply _ => ?_
          cases reply with
          | none => exact safe_releaseConnection
          | some ssl =>
              refine Handles.safe_give (fun _ => rfl) (by simp [resources])
                rfl (by simp [resources]) fun _ => ?_
              simpa [resources] using safe_auditSession host _

end Contract

/-! ## Against the library -/

/-- What the library keeps between the calls: the server it talks to, the
settings of the handshake and the text in the memory BIO. -/
structure Bench where
  target : Str := []
  settings : Settings := {}
  memory : Str := []

variable (lib : OpenSsl Time Name)

def OpenSsl.present (state : Bench) : Option (X509 Time Name) :=
  (lib.server state.target).certificate

def pointer (success : Bool) : Option Unit :=
  if success then some () else none

def print (text : Option Str) (done failed : Int) (state : Bench) :
    Int × Bench :=
  match text with
  | none => (failed, state)
  | some text => (done, { state with memory := text })

/-- There is one pointer of each kind. -/
def answer (c : SslCall Time Name Unit) (state : Bench) : c.Reply × Bench :=
  match c with
  | .SSL_CTX_new => (pointer lib.SSL_CTX_new, state)
  | .SSL_CTX_set_verify _ mode callback =>
      ((), { state with settings := { state.settings with
        mode := mode, callback := callback } })
  | .SSL_CTX_set_default_verify_paths _ =>
      ((), { state with settings := { state.settings with
        defaultVerifyPaths := true } })
  | .SSL_CTX_free _ => ((), state)
  | .BIO_new_connect target =>
      (pointer (lib.BIO_new_connect target), { state with target := target })
  | .BIO_set_conn_hostname _ target => ((), { state with target := target })
  | .BIO_do_connect _ => (lib.BIO_do_connect state.target, state)
  | .BIO_free_all _ => ((), state)
  | .SSL_new _ => (pointer lib.SSL_new, state)
  | .SSL_set_bio _ _ => ((), state)
  | .SSL_get0_param _ => (lib.SSL_get0_param, state)
  | .X509_VERIFY_PARAM_set1_host _ host =>
      ((), { state with settings := { state.settings with host := host } })
  | .SSL_connect _ => (lib.SSL_connect state.settings state.target, state)
  | .SSL_get_version _ => (lib.SSL_get_version state.target, state)
  | .SSL_CIPHER_get_name _ => (lib.SSL_CIPHER_get_name state.target, state)
  | .SSL_get_peer_certificate _ =>
      (pointer (OpenSsl.present lib state).isSome, state)
  | .SSL_get_verify_result _ =>
      (lib.SSL_get_verify_result state.settings state.target, state)
  | .X509_verify_cert_error_string verifyResult =>
      (lib.X509_verify_cert_error_string verifyResult, state)
  | .SSL_shutdown _ => ((), state)
  | .SSL_free _ => ((), state)
  | .X509_get_subject_name _ =>
      ((OpenSsl.present lib state).bind X509.subject, state)
  | .X509_get_issuer_name _ =>
      ((OpenSsl.present lib state).bind X509.issuer, state)
  | .X509_get0_notBefore _ =>
      ((OpenSsl.present lib state).bind X509.notBefore, state)
  | .X509_get0_notAfter _ =>
      ((OpenSsl.present lib state).bind X509.notAfter, state)
  | .X509_cmp_current_time _ time => (lib.X509_cmp_current_time time, state)
  | .X509_NAME_cmp _ a b => (lib.X509_NAME_cmp a b, state)
  | .X509_free _ => ((), state)
  | .BIO_new => (some (), { state with memory := [] })
  | .X509_NAME_print_ex _ _ name =>
      print (lib.X509_NAME_print_ex name) 1 (-1) state
  | .ASN1_TIME_print _ _ time => print (lib.ASN1_TIME_print time) 1 0 state
  | .BIO_get_mem_data _ => (state.memory, state)
  | .BIO_free _ => ((), state)

section Playing

variable {lib} {state : Bench} {text : Str} {target : Str}
  {certificate : X509 Time Name} {result : SSLAuditResult}

def SameSession (state after : Bench) : Prop :=
  after.target = state.target ∧ after.settings = state.settings

theorem SameSession.refl (state : Bench) : SameSession state state :=
  ⟨rfl, rfl⟩

theorem SameSession.trans {first second third : Bench}
    (h : SameSession first second) (h' : SameSession second third) :
    SameSession first third :=
  ⟨h'.1.trans h.1, h'.2.trans h.2⟩

/-- The program returns the value and leaves the handshake alone. -/
def Gives {α : Type} (lib : OpenSsl Time Name)
    (program : SslProgram Time Name Unit α) (state : Bench) (value : α) :
    Prop :=
  Program.Yields (answer lib)
    (fun given after => given = value ∧ SameSession state after) program state

theorem Gives.bind {α β : Type} {program : SslProgram Time Name Unit α}
    {rest : α → SslProgram Time Name Unit β} {part : α} {value : β}
    (h : Gives lib program state part)
    (hrest : ∀ after, SameSession state after →
      Gives lib (rest part) after value) :
    Gives lib (program >>= rest) state value := by
  refine Program.Yields.bind h ?_
  rintro _ after ⟨rfl, hsame⟩
  obtain ⟨given, last, hplay, hgiven, hlast⟩ := hrest after hsame
  exact ⟨given, last, hplay, hgiven, hsame.trans hlast⟩

theorem gives_readMemory (printed : Int → Bool) (text : Option Str)
    {done failed : Int} (hdone : printed done = true)
    (hfailed : printed failed = false) :
    Program.Yields (answer lib) (fun given after =>
        given = text.getD [] ∧ SameSession state after)
      (readMemory ()
        (printed (print text done failed { state with memory := [] }).1))
      (print text done failed { state with memory := [] }).2 := by
  cases text with
  | none =>
      rw [print, hfailed]
      exact Program.yields_call (Program.yields_done ⟨rfl, rfl, rfl⟩)
  | some text =>
      rw [print, hdone]
      exact Program.yields_call (Program.yields_call
        (Program.yields_done ⟨rfl, rfl, rfl⟩))

theorem gives_certificateName (name : Option Name) :
    Gives lib (certificateName () name) state
      (SSLAuditor.certificateName lib name) := by
  cases name with
  | none => exact Program.yields_done ⟨rfl, .refl state⟩
  | some name =>
      exact Program.yields_call (Program.yields_call (gives_readMemory
        (· ≥ 0) (lib.X509_NAME_print_ex name) rfl rfl))

theorem gives_asn1TimeToString (time : Option Time) :
    Gives lib (asn1TimeToString () time) state
      (SSLAuditor.asn1TimeToString lib time) := by
  cases time with
  | none => exact Program.yields_done ⟨rfl, .refl state⟩
  | some time =>
      exact Program.yields_call (Program.yields_call (gives_readMemory
        (· = 1) (lib.ASN1_TIME_print time) rfl rfl))

theorem gives_call {α : Type} {c : SslCall Time Name Unit}
    {rest : c.Reply → SslProgram Time Name Unit α} {reply : c.Reply} {value : α}
    (hanswer : answer lib c state = (reply, state))
    (h : Gives lib (rest reply) state value) :
    Gives lib (call c >>= rest) state value := by
  refine Program.yields_call ?_
  rw [hanswer]
  exact h

theorem SameSession.present {after : Bench} (h : SameSession state after) :
    OpenSsl.present lib after = OpenSsl.present lib state := by
  rw [OpenSsl.present, h.1, OpenSsl.present]

theorem gives_done {α : Type} {value value' : α} (h : value = value') :
    Gives lib (.done value) state value' :=
  Program.yields_done ⟨h, .refl state⟩

section Certificate

variable (hpresent : OpenSsl.present lib state = some certificate)
include hpresent

theorem answer_subject : answer lib (.X509_get_subject_name ()) state =
    (certificate.subject, state) := by
  rw [answer, hpresent, Option.bind_some]

theorem answer_issuer : answer lib (.X509_get_issuer_name ()) state =
    (certificate.issuer, state) := by
  rw [answer, hpresent, Option.bind_some]

theorem answer_notBefore : answer lib (.X509_get0_notBefore ()) state =
    (certificate.notBefore, state) := by
  rw [answer, hpresent, Option.bind_some]

theorem answer_notAfter : answer lib (.X509_get0_notAfter ()) state =
    (certificate.notAfter, state) := by
  rw [answer, hpresent, Option.bind_some]

theorem gives_certificateTimeExpired :
    Gives lib (certificateTimeExpired ()) state
      (SSLAuditor.certificateTimeExpired lib certificate) := by
  refine gives_call (answer_notBefore hpresent) ?_
  refine gives_call (answer_notAfter hpresent) ?_
  unfold SSLAuditor.certificateTimeExpired
  cases certificate.notBefore with
  | none => exact gives_done rfl
  | some notBefore =>
      cases certificate.notAfter with
      | none => exact gives_done rfl
      | some notAfter =>
          refine gives_call rfl ?_
          dsimp only
          split_ifs
          · exact gives_done rfl
          · exact gives_call rfl (gives_done rfl)

theorem gives_certificateIsExpired :
    Gives lib (certificateIsExpired ()) state
      (SSLAuditor.certificateIsExpired lib certificate) := by
  refine gives_call (answer_notAfter hpresent) ?_
  unfold SSLAuditor.certificateIsExpired
  cases certificate.notAfter with
  | none => exact gives_done rfl
  | some notAfter => exact gives_call rfl (gives_done rfl)

theorem gives_certificateIsSelfSigned :
    Gives lib (certificateIsSelfSigned ()) state
      (SSLAuditor.certificateIsSelfSigned lib certificate) := by
  refine gives_call (answer_subject hpresent) ?_
  refine gives_call (answer_issuer hpresent) ?_
  exact gives_call rfl (gives_done rfl)

theorem gives_readCertificate (result : SSLAuditResult) :
    Gives lib (readCertificate () result) state { result with
      subject := SSLAuditor.certificateName lib certificate.subject
      issuer := SSLAuditor.certificateName lib certificate.issuer
      validFrom := SSLAuditor.asn1TimeToString lib certificate.notBefore
      validUntil := SSLAuditor.asn1TimeToString lib certificate.notAfter
      certificateExpired := SSLAuditor.certificateIsExpired lib certificate
      certificateValid := !SSLAuditor.certificateTimeExpired lib certificate
      selfSigned := SSLAuditor.certificateIsSelfSigned lib certificate } := by
  refine gives_call (answer_subject hpresent) ?_
  refine (gives_certificateName certificate.subject).bind fun _ hsame => ?_
  have hpresent := hsame.present.trans hpresent
  refine gives_call (answer_issuer hpresent) ?_
  refine (gives_certificateName certificate.issuer).bind fun _ hsame => ?_
  have hpresent := hsame.present.trans hpresent
  refine gives_call (answer_notBefore hpresent) ?_
  refine (gives_asn1TimeToString certificate.notBefore).bind fun _ hsame => ?_
  have hpresent := hsame.present.trans hpresent
  refine gives_call (answer_notAfter hpresent) ?_
  refine (gives_asn1TimeToString certificate.notAfter).bind fun _ hsame => ?_
  have hpresent := hsame.present.trans hpresent
  refine (gives_certificateIsExpired hpresent).bind fun _ hsame => ?_
  have hpresent := hsame.present.trans hpresent
  refine (gives_certificateTimeExpired hpresent).bind fun _ hsame => ?_
  have hpresent := hsame.present.trans hpresent
  exact (gives_certificateIsSelfSigned hpresent).bind fun _ _ =>
    gives_done rfl

end Certificate

theorem gives_assessCertificate (target : Str) (result : SSLAuditResult) :
    Gives lib (assessCertificate () target result) state
      (SSLAuditor.assessCertificate lib target (OpenSsl.present lib state)
        result) := by
  refine gives_call rfl ?_
  cases hpresent : OpenSsl.present lib state with
  | none => exact gives_done rfl
  | some certificate =>
      refine (gives_readCertificate hpresent result).bind fun _ _ => ?_
      exact gives_call rfl (gives_done rfl)

theorem gives_assessTrust (result : SSLAuditResult) :
    Gives lib (assessTrust () result) state
      (SSLAuditor.assessTrust lib
        (lib.SSL_get_verify_result state.settings state.target) result) := by
  refine gives_call rfl ?_
  unfold SSLAuditor.assessTrust
  split_ifs
  · exact gives_call rfl (gives_done rfl)
  · exact gives_done rfl

theorem gives_releaseSession (result : SSLAuditResult) :
    Gives lib (releaseSession () () result) state result :=
  gives_call rfl (gives_call rfl (gives_done rfl))

variable {host : Str} {port : Int}

def opened (host : Str) (port : Int) : Bench where
  target := cStr (targetOf host port)
  settings := { mode := .SSL_VERIFY_PEER, defaultVerifyPaths := true }

def ready (lib : OpenSsl Time Name) (host : Str) (port : Int) : Bench where
  target := cStr (targetOf host port)
  settings := settingsFor lib host

theorem yields_verifyHost :
    Program.Yields (answer lib) (fun _ after => after = ready lib host port)
      (verifyHost () host) (opened host port) := by
  refine Program.yields_call ?_
  unfold ready settingsFor
  change Program.Yields _ _ (if lib.SSL_get0_param then _ else _) _
  split_ifs
  · exact Program.yields_call (Program.yields_done rfl)
  · exact Program.yields_done rfl

theorem gives_assessSession (result : SSLAuditResult) :
    Gives lib (assessSession () () (targetOf host port) result)
      (ready lib host port)
      ({ result with
        tlsEstablished := true
        tlsVersion :=
          (lib.SSL_get_version (cStr (targetOf host port))).getD []
        cipher :=
          (lib.SSL_CIPHER_get_name (cStr (targetOf host port))).getD [] }
        |> SSLAuditor.assessCertificate lib (targetOf host port)
          (lib.server (cStr (targetOf host port))).certificate
        |> assessVersion
        |> assessCipher
        |> SSLAuditor.assessTrust lib
          (lib.SSL_get_verify_result (settingsFor lib host)
            (cStr (targetOf host port)))
        |> assessModern) := by
  refine gives_call rfl (gives_call rfl ?_)
  refine (gives_assessCertificate _ _).bind fun after hsame => ?_
  have htrust (result : SSLAuditResult) : Gives lib (assessTrust () result)
      after (SSLAuditor.assessTrust lib
        (lib.SSL_get_verify_result (settingsFor lib host)
          (cStr (targetOf host port))) result) := by
    have hgives := @gives_assessTrust _ _ lib after result
    rwa [hsame.1, hsame.2] at hgives
  refine (htrust _).bind fun _ _ => ?_
  exact gives_call rfl (gives_releaseSession _)

theorem gives_releaseConnection (result : SSLAuditResult) :
    Gives lib (releaseConnection () () result) state result :=
  gives_call rfl (gives_call rfl (gives_done rfl))

theorem Gives.yields {program : SslProgram Time Name Unit SSLAuditResult}
    (h : Gives lib program state result) :
    Program.Yields (answer lib) (fun given _ => given = result) program
      state := by
  obtain ⟨given, after, hplay, hgiven, _⟩ := h
  exact ⟨given, after, hplay, hgiven⟩

theorem yields_answered {α : Type} {post : α → Bench → Prop}
    {c : SslCall Time Name Unit} {rest : c.Reply → SslProgram Time Name Unit α}
    {reply : c.Reply} {next : Bench}
    (hanswer : answer lib c state = (reply, next))
    (h : Program.Yields (answer lib) post (rest reply) next) :
    Program.Yields (answer lib) post (call c >>= rest) state := by
  refine Program.yields_call ?_
  rw [hanswer]
  exact h

/-- Played against the library, the program returns what the model does. -/
theorem yields_audit (host : Str) (port : Int) :
    Program.Yields (answer lib)
      (fun result _ => result = SSLAuditor.audit lib host port)
      (audit host port) {} := by
  unfold SSLAuditor.audit
  dsimp only
  cases hcontext : lib.SSL_CTX_new with
  | false =>
      exact yields_answered (by rw [answer, hcontext]) (gives_done rfl).yields
  | true =>
  refine yields_answered (by rw [answer, hcontext]) ?_
  refine yields_answered rfl (yields_answered rfl ?_)
  cases hbio : lib.BIO_new_connect (cStr (targetOf host port)) with
  | false =>
      refine yields_answered (by rw [answer, hbio]) ?_
      change Program.Yields _ _ (call (.SSL_CTX_free ()) >>= _) _
      exact yields_answered rfl (gives_done rfl).yields
  | true =>
  refine yields_answered (by rw [answer, hbio]) ?_
  change Program.Yields _ _ (call (.BIO_set_conn_hostname () _) >>= _) _
  refine yields_answered rfl (yields_answered rfl ?_)
  simp only [Bool.not_true, Bool.false_eq_true, if_false]
  by_cases hconnect : lib.BIO_do_connect (cStr (targetOf host port)) ≤ 0
  · rw [if_pos hconnect]
    change Program.Yields _ _
      (if lib.BIO_do_connect (cStr (targetOf host port)) ≤ 0 then _ else _) _
    rw [if_pos hconnect]
    exact (gives_releaseConnection _).yields
  rw [if_neg hconnect]
  change Program.Yields _ _
    (if lib.BIO_do_connect (cStr (targetOf host port)) ≤ 0 then _ else _) _
  rw [if_neg hconnect]
  cases hssl : lib.SSL_new with
  | false =>
      refine yields_answered (by rw [answer, hssl]) ?_
      exact (gives_releaseConnection _).yields
  | true =>
  refine yields_answered (by rw [answer, hssl]) ?_
  change Program.Yields _ _ (call (.SSL_set_bio () ()) >>= _) _
  refine yields_answered rfl ?_
  refine Program.Yields.bind yields_verifyHost ?_
  rintro _ _ rfl
  refine yields_answered rfl ?_
  change Program.Yields _ _ (if lib.SSL_connect (settingsFor lib host)
    (cStr (targetOf host port)) ≠ 1 then _ else _) _
  simp only [Bool.not_true, Bool.false_eq_true, if_false]
  split_ifs
  · exact (gives_releaseSession _).yields
  · exact (gives_assessSession { connected := true, host, port }).yields

end Playing

/-- The audit uses what lives and leaves nothing behind, whatever OpenSSL
answers; against the library it returns what the model of the audit does. -/
theorem audit_releases [DecidableEq H] (lib : OpenSsl Time Name) (host : Str)
    (port : Int) :
    let handles : Handles (SslCall Time Name H) _ _ := resources
    handles.Releases (audit host port) ∧
      ∃ after, (audit host port).play (answer lib) {} =
        some (SSLAuditor.audit lib host port, after) := by
  refine ⟨Handles.releases_of_safe (safe_audit host port), ?_⟩
  have hyields : Program.Yields (answer lib)
      (fun result _ => result = SSLAuditor.audit lib host port)
      (audit host port) {} := yields_audit host port
  obtain ⟨_, after, hplay, rfl⟩ := hyields
  exact ⟨after, hplay⟩

end SlipNet.Security.SslCalls
