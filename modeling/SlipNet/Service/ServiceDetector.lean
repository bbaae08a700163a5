import SlipNet.Core.NetworkState

/-!
# Service detection

`ServiceDetector` connects to an open port, reads what the peer sends and
classifies the answer.  The peer is a parameter: whether it accepts, and what
it answers to the bytes it was sent.
-/

namespace SlipNet.Services

open SlipNet.Standard
open SlipNet.Core

structure Service where
  port : Int := 0
  protocol : Str := []
  name : Str := []
  version : Str := []
  banner : Str := []
  detected : Bool := false
  deriving DecidableEq, Repr

/-- The other end of one `tcpConnect`: `answer request` is the result of
`tcpReceive` after `request` was sent. -/
structure Peer where
  accepts : Bool
  answer : Str → Str

def extractHeader (response header : Str) : Str :=
  match find header response with
  | none => []
  | some position =>
      trim ((response.drop (position + header.length)).takeWhile (· ≠ '\n'))

def httpRequest : Str :=
  ("HEAD / HTTP/1.0\r\n" ++
    "Host: localhost\r\n" ++
    "Connection: close\r\n" ++
    "\r\n").toList

def probe (network : Str → Int → Peer) (host : Str) (port : Int) : Str :=
  let connection := network host port
  if !connection.accepts then []
  else
    let request :=
      if port = 80 ∨ port = 443 ∨ port = 8000 ∨ port = 8080 ∨ port = 8443 ∨
          port = 8888 then httpRequest
      else []
    connection.answer request

def looksLikeFtp (port : Int) (response : Str) : Prop :=
  port = 21 ∧
    (startsWith response "220".toList ∨ (find "FTP".toList response).isSome)

instance (port : Int) (response : Str) :
    Decidable (looksLikeFtp port response) :=
  inferInstanceAs (Decidable (_ ∧ _))

def unidentified (port : Int) (response : Str) : Service where
  port := port
  protocol := "TCP".toList
  name := "Unknown".toList
  banner := response

def Service.named (name : Str) (service : Service) : Service :=
  { service with name := name, detected := true }

/-- The final `switch`: ports whose number alone, or with little evidence,
names the service. -/
def identifyByPort (port : Int) (response : Str) (service : Service) :
    Service :=
  if port = 22 then
    if response ≠ [] then service.named "SSH".toList else service
  else if port = 53 then service.named "DNS".toList
  else if port = 110 then
    if startsWith response "+OK".toList then service.named "POP3".toList
    else service
  else if port = 143 then
    if (find "* OK".toList response).isSome then service.named "IMAP".toList
    else service
  else service

/-- The branches behind SSH, FTP and HTTP. -/
def identifyOther (port : Int) (response : Str) (service : Service) :
    Service :=
  if port = 25 ∧ startsWith response "220".toList then
    service.named "SMTP".toList
  else if port = 3306 then
    if response ≠ [] then service.named "MySQL".toList else service
  else if port = 5432 then service.named "PostgreSQL".toList
  else if port = 6379 ∧ (find "+".toList response = some 0 ∨
      find "-".toList response = some 0) then
    service.named "Redis".toList
  else identifyByPort port response service

def identify (port : Int) (response : Str) : Service :=
  let service := unidentified port response
  if startsWith response "SSH-".toList then
    { service.named "SSH".toList with
      version := trim (response.takeWhile (· ≠ '\n')) }
  else if looksLikeFtp port response then service.named "FTP".toList
  else if (find "HTTP/".toList response).isSome then
    { service.named "HTTP".toList with
      version := extractHeader response "Server:".toList }
  else identifyOther port response service

def detect (network : Str → Int → Peer) (host : Str) (port : Int) : Service :=
  if port < 1 ∨ port > 65535 then {}
  else identify port (probe network host port)

def detectAll (network : Str → Int → Peer) (host : Str) (ports : List Int) :
    List Service :=
  (ports.map (detect network host)).filter Service.detected

/-- The record `handleServiceDetect` stores for a detected service. -/
def detectedInfo (host : Str) (service : Service) : ServiceInfo where
  ip := host
  port := service.port
  protocol := service.protocol
  service := service.name
  version := service.version

/-! ## What the classification can answer -/

def serviceNames : List Str :=
  ["Unknown".toList, "SSH".toList, "FTP".toList, "HTTP".toList, "SMTP".toList,
    "MySQL".toList, "PostgreSQL".toList, "Redis".toList, "DNS".toList,
    "POP3".toList, "IMAP".toList]

theorem identifyOther_cases (port : Int) (response : Str)
    (service : Service) :
    identifyOther port response service = service ∨
      ∃ name ∈ serviceNames,
        identifyOther port response service = service.named name := by
  have hnamed : ∀ name, name ∈ serviceNames →
      service.named name = service ∨
        ∃ other ∈ serviceNames, service.named name = service.named other :=
    fun name hname => .inr ⟨name, hname, rfl⟩
  unfold identifyOther identifyByPort
  repeat' split
  all_goals first
    | exact .inl rfl
    | exact hnamed _ (by decide)

/-- The answers the HTTP branch takes: neither SSH nor FTP came first. -/
def takenAsHttp (port : Int) (response : Str) : Prop :=
  startsWith response "SSH-".toList = false ∧ ¬ looksLikeFtp port response ∧
    (find "HTTP/".toList response).isSome

theorem identify_ssh {port : Int} {response : Str}
    (h : startsWith response "SSH-".toList = true) :
    identify port response =
      { (unidentified port response).named "SSH".toList with
        version := trim (response.takeWhile (· ≠ '\n')) } := by
  rw [identify, if_pos h]

theorem identify_http {port : Int} {response : Str}
    (h : takenAsHttp port response) :
    identify port response =
      { (unidentified port response).named "HTTP".toList with
        version := extractHeader response "Server:".toList } := by
  rw [identify, if_neg (by rw [h.1]; decide), if_neg h.2.1, if_pos h.2.2]

/-- Outside the SSH and the HTTP branch the record is at most named. -/
theorem identify_of_other {port : Int} {response : Str}
    (hssh : startsWith response "SSH-".toList = false)
    (hhttp : ¬ takenAsHttp port response) :
    identify port response = unidentified port response ∨
      ∃ name ∈ serviceNames,
        identify port response = (unidentified port response).named name := by
  rw [identify, if_neg (by rw [hssh]; decide)]
  by_cases hftp : looksLikeFtp port response
  · rw [if_pos hftp]
    exact .inr ⟨"FTP".toList, by decide, rfl⟩
  · rw [if_neg hftp, if_neg fun hfind => hhttp ⟨hssh, hftp, hfind⟩]
    exact identifyOther_cases port response _

theorem identify_fields (port : Int) (response : Str) :
    (identify port response).port = port ∧
      (identify port response).banner = response ∧
      (identify port response).name ∈ serviceNames := by
  by_cases hssh : startsWith response "SSH-".toList = true
  · rw [identify_ssh hssh]
    exact ⟨rfl, rfl, (by decide : "SSH".toList ∈ serviceNames)⟩
  · rw [Bool.not_eq_true] at hssh
    by_cases hhttp : takenAsHttp port response
    · rw [identify_http hhttp]
      exact ⟨rfl, rfl, (by decide : "HTTP".toList ∈ serviceNames)⟩
    · rcases identify_of_other hssh hhttp with h | ⟨name, hname, h⟩
      · rw [h]
        exact ⟨rfl, rfl, (by decide : "Unknown".toList ∈ serviceNames)⟩
      · rw [h]
        exact ⟨rfl, rfl, hname⟩

theorem version_identify_of_other {port : Int} {response : Str}
    (hssh : startsWith response "SSH-".toList = false)
    (hhttp : ¬ takenAsHttp port response) :
    (identify port response).version = [] := by
  rcases identify_of_other hssh hhttp with h | ⟨name, _, h⟩ <;> rw [h] <;> rfl

theorem exists_of_mem_detectAll {network : Str → Int → Peer} {host : Str}
    {ports : List Int} {service : Service}
    (h : service ∈ detectAll network host ports) :
    ∃ port ∈ ports, ∃ response, service = identify port response := by
  obtain ⟨hmem, hdetected⟩ := List.mem_filter.mp h
  obtain ⟨port, hport, rfl⟩ := List.mem_map.mp hmem
  rw [detect] at hdetected ⊢
  split at hdetected
  · cases hdetected
  · next hrange => exact ⟨port, hport, _, if_neg hrange⟩

end SlipNet.Services
