import SlipNet.Core.NetworkState
import SlipNet.Foundation.FirstKept
import SlipNet.Standard.Integers
import SlipNet.Standard.Sorting
import Mathlib.Data.Char
import Mathlib.Data.List.Lex
import Mathlib.Data.Prod.Lex
import Mathlib.Order.Basic

/-!
# The security detector

`SecurityDetector::analyze` runs eleven checks over the recorded ports and
services of a host.  All of them add to one list of alerts, which refuses an
alert whose type and description it already holds.  What the list contains in
the end depends on the open port numbers and on the services of the host only.
-/

namespace SlipNet.Security

open SlipNet.Foundation
open SlipNet.Standard
open SlipNet.Core

structure Alert where
  type : Str := []
  description : Str := []
  severity : Int := 0
  deriving DecidableEq, Repr

namespace SecurityDetector

def isOpen (port : PortInfo) : Bool := port.isOpen

def containsInsensitive (value search : Str) : Bool :=
  if search = [] then true
  else if value.length < search.length then false
  else
    (List.range (value.length + 1 - search.length)).any fun i =>
      (List.range search.length).all fun j =>
        value[i + j]?.map Char.toLower = search[j]?.map Char.toLower

def addAlert (alerts : List Alert) (type description : Str) (severity : Int) :
    List Alert :=
  if alerts.any fun existing =>
      existing.type = type && existing.description = description then alerts
  else
    alerts ++ [{ type := type, description := description, severity := severity }]

/-- A branch on the port number with the arguments of its `addAlert`; the
address of the host stands between the two parts of the description. -/
structure PortRule where
  port : Int
  type : Str
  before : Str
  after : Str
  severity : Int
  deriving DecidableEq, Repr

def PortRule.description (rule : PortRule) (ip : Str) : Str :=
  rule.before ++ ip ++ rule.after

/-- A loop over the open ports with one branch a rule. -/
def checkPorts (rules : List PortRule) (ip : Str) (ports : List PortInfo)
    (alerts : List Alert) : List Alert :=
  ports.foldl
    (fun alerts port =>
      if !isOpen port then alerts
      else
        match rules.find? fun rule => port.port = rule.port with
        | some rule =>
            addAlert alerts rule.type (rule.description ip) rule.severity
        | none => alerts)
    alerts

/-! ## Checks of the ports -/

def legacyProtocols : List PortRule :=
  [⟨23, "TELNET_EXPOSED".toList, "Telnet is exposed on ".toList,
      (" through TCP port 23. Telnet transmits credentials and session data " ++
        "without modern encryption.").toList, 3⟩,
    ⟨21, "FTP_EXPOSED".toList, "FTP is exposed on ".toList,
      (" through TCP port 21. Standard FTP does not provide encrypted " ++
        "transport.").toList, 2⟩,
    ⟨69, "TFTP_EXPOSED".toList, "TFTP is exposed on ".toList,
      (" through UDP port 69. TFTP provides minimal authentication and should " ++
        "normally be restricted.").toList, 3⟩]

def checkLegacyProtocols : Str → List PortInfo → List Alert → List Alert :=
  checkPorts legacyProtocols

def exposedDatabases : List PortRule :=
  [⟨3306, "DATABASE_EXPOSED".toList,
      "MySQL/MariaDB appears exposed on ".toList,
      " through TCP port 3306.".toList, 3⟩,
    ⟨5432, "DATABASE_EXPOSED".toList, "PostgreSQL appears exposed on ".toList,
      " through TCP port 5432.".toList, 3⟩,
    ⟨27017, "DATABASE_EXPOSED".toList, "MongoDB appears exposed on ".toList,
      " through TCP port 27017.".toList, 3⟩,
    ⟨6379, "CACHE_EXPOSED".toList, "Redis appears exposed on ".toList,
      (" through TCP port 6379. Redis should normally be restricted to " ++
        "trusted network segments.").toList, 3⟩,
    ⟨9200, "SEARCH_ENGINE_EXPOSED".toList,
      "Elasticsearch appears exposed on ".toList,
      (" through TCP port 9200. Administrative interfaces should not normally " ++
        "be publicly reachable.").toList, 3⟩]

def checkExposedDatabases : Str → List PortInfo → List Alert → List Alert :=
  checkPorts exposedDatabases

def remoteAdministration : List PortRule :=
  [⟨22, "SSH_EXPOSED".toList, "SSH is exposed on ".toList,
      (" through TCP port 22. Restrict access and use strong authentication " ++
        "controls.").toList, 1⟩,
    ⟨3389, "RDP_EXPOSED".toList,
      "Remote Desktop Protocol is exposed on ".toList,
      (" through TCP port 3389. RDP should be protected by network access " ++
        "controls and strong authentication.").toList, 3⟩,
    ⟨5900, "VNC_EXPOSED".toList, "VNC is exposed on ".toList,
      (" through TCP port 5900. Remote graphical administration should be " ++
        "restricted to trusted networks.").toList, 2⟩]

def checkRemoteAdministration : Str → List PortInfo → List Alert → List Alert :=
  checkPorts remoteAdministration

def managementServices : List PortRule :=
  [⟨161, "SNMP_EXPOSED".toList, "SNMP appears exposed on ".toList,
      (" through UDP port 161. SNMP configuration and community access should " ++
        "be restricted.").toList, 2⟩,
    ⟨2375, "DOCKER_API_EXPOSED".toList,
      "The Docker API appears exposed on ".toList,
      (" through TCP port 2375. An unauthenticated Docker API can provide " ++
        "high-impact administrative access.").toList, 3⟩,
    ⟨2376, "DOCKER_TLS_API_EXPOSED".toList,
      "The Docker API TLS endpoint appears exposed on ".toList,
      (" through TCP port 2376. Verify certificate and authorization " ++
        "controls.").toList, 2⟩]

def checkManagementServices : Str → List PortInfo → List Alert → List Alert :=
  checkPorts managementServices

def checkFileSharing (ip : Str) (ports : List PortInfo) (alerts : List Alert) :
    List Alert :=
  let smb445 := ports.any fun port => isOpen port && port.port = 445
  let netbios139 := ports.any fun port => isOpen port && port.port = 139
  let alerts :=
    if smb445 then
      addAlert alerts "SMB_EXPOSED".toList
        ("SMB is exposed on ".toList ++ ip ++
          (" through TCP port 445. File-sharing services should be " ++
            "restricted to trusted networks.").toList) 3
    else alerts
  if netbios139 then
    addAlert alerts "NETBIOS_EXPOSED".toList
      ("NetBIOS session service is exposed on ".toList ++ ip ++
        " through TCP port 139.".toList) 2
  else alerts

def cleartextServices : List PortRule :=
  [⟨25, "SMTP_EXPOSED".toList, "SMTP is exposed on ".toList,
      (" through TCP port 25. Verify relay restrictions and mail-service " ++
        "security configuration.").toList, 1⟩,
    ⟨110, "POP3_EXPOSED".toList, "POP3 is exposed on ".toList,
      (" through TCP port 110. Prefer encrypted mail access where " ++
        "supported.").toList, 2⟩,
    ⟨143, "IMAP_EXPOSED".toList, "IMAP is exposed on ".toList,
      (" through TCP port 143. Verify that encrypted authentication is " ++
        "enforced.").toList, 1⟩,
    ⟨80, "HTTP_EXPOSED".toList, "HTTP is exposed on ".toList,
      (" through TCP port 80. If sensitive applications are hosted here, " ++
        "HTTPS should be preferred.").toList, 1⟩]

def checkCleartextServices : Str → List PortInfo → List Alert → List Alert :=
  checkPorts cleartextServices

def highRiskServices : List PortRule :=
  [⟨111, "RPC_EXPOSED".toList, "RPC portmapper appears exposed on ".toList,
      " through TCP/UDP port 111.".toList, 2⟩,
    ⟨2049, "NFS_EXPOSED".toList, "NFS appears exposed on ".toList,
      (" through port 2049. Verify export restrictions and network access " ++
        "controls.").toList, 3⟩,
    ⟨5000, "APPLICATION_SERVICE_EXPOSED".toList,
      "A service is exposed on ".toList,
      (" through TCP port 5000. Verify that the application interface is " ++
        "intended to be network accessible.").toList, 1⟩]

def checkHighRiskServices : Str → List PortInfo → List Alert → List Alert :=
  checkPorts highRiskServices

/-! ## Checks of the services -/

def checkServiceExposure (ip : Str) (services : List ServiceInfo)
    (alerts : List Alert) : List Alert :=
  services.foldl
    (fun alerts service =>
      if service.ip ≠ ip then alerts
      else if service.service = [] then alerts
      else if containsInsensitive service.service "telnet".toList then
        addAlert alerts "LEGACY_SERVICE_DETECTED".toList
          ("Service detection identified Telnet on ".toList ++ ip ++
            " port ".toList ++ printInt service.port ++ ".".toList) 3
      else alerts)
    alerts

def checkServicePortConsistency (ip : Str) (ports : List PortInfo)
    (services : List ServiceInfo) (alerts : List Alert) : List Alert :=
  services.foldl
    (fun alerts service =>
      if service.ip ≠ ip then alerts
      else
        let matchingOpenPort :=
          ports.any fun port => port.isOpen && port.port = service.port
        if !matchingOpenPort then
          addAlert alerts "SERVICE_STATE_MISMATCH".toList
            ("Service information reports ".toList ++ service.service ++
              " on port ".toList ++ printInt service.port ++
              (", but the corresponding port is not currently recorded as " ++
                "open.").toList) 1
        else alerts)
    alerts

/-! ## Summaries -/

def checkAttackSurface (ip : Str) (ports : List PortInfo)
    (alerts : List Alert) : List Alert :=
  let openPorts := ports.countP PortInfo.isOpen
  if openPorts ≥ 20 then
    addAlert alerts "VERY_LARGE_ATTACK_SURFACE".toList
      ("Host ".toList ++ ip ++ " has ".toList ++ printInt openPorts ++
        (" open TCP ports. Review whether all exposed services are " ++
          "required.").toList) 3
  else if openPorts ≥ 10 then
    addAlert alerts "LARGE_ATTACK_SURFACE".toList
      ("Host ".toList ++ ip ++ " has ".toList ++ printInt openPorts ++
        (" open TCP ports. Reducing unnecessary exposed services can reduce " ++
          "attack surface.").toList) 2
  else alerts

def checkAdministrativeExposure (ip : Str) (ports : List PortInfo)
    (alerts : List Alert) : List Alert :=
  let ssh := ports.any fun port => port.isOpen && port.port = 22
  let rdp := ports.any fun port => port.isOpen && port.port = 3389
  let smb := ports.any fun port => port.isOpen && port.port = 445
  let vnc := ports.any fun port => port.isOpen && port.port = 5900
  let administrativeServices :=
    ssh.toNat + rdp.toNat + smb.toNat + vnc.toNat
  if administrativeServices ≥ 2 then
    addAlert alerts "MULTIPLE_ADMIN_SERVICES".toList
      ("Host ".toList ++ ip ++
        (" exposes multiple administrative or remote-management services. " ++
          "Review access controls and minimize unnecessary remote " ++
          "administration interfaces.").toList) 2
  else alerts

def alertOrder (left right : Alert) : Bool :=
  if left.severity ≠ right.severity then left.severity > right.severity
  else left.type < right.type

/-- The checks of `analyze`, one after the other. -/
def collect (ip : Str) (ports : List PortInfo) (services : List ServiceInfo)
    (alerts : List Alert) : List Alert :=
  alerts
    |> checkLegacyProtocols ip ports
    |> checkExposedDatabases ip ports
    |> checkRemoteAdministration ip ports
    |> checkManagementServices ip ports
    |> checkFileSharing ip ports
    |> checkCleartextServices ip ports
    |> checkHighRiskServices ip ports
    |> checkServiceExposure ip services
    |> checkServicePortConsistency ip ports services
    |> checkAttackSurface ip ports
    |> checkAdministrativeExposure ip ports

def analyze (std : SortRoutine Alert) (ip : Str) (ports : List PortInfo)
    (services : List ServiceInfo) : List Alert :=
  std.sort alertOrder (collect ip ports services [])

end SecurityDetector

end SlipNet.Security
