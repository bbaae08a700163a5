import SlipNet.Cli.CommandParser
import SlipNet.Network.NetworkDiscovery
import SlipNet.Port.PortScanner
import SlipNet.Security.CredentialChecker
import SlipNet.Security.VulnerabilityScanner
import SlipNet.Service.ServiceDetector
import SlipNet.Standard.Integers

/-!
# The command handlers

Four handlers write the network state: `ip|:seek`, `port|:scan`, `svc|:detect`
and `net|:clear`.  The reports read it, most of them through the host list.  A
handler that gives up does so with the message it prints.
-/

namespace SlipNet.Cli

open SlipNet.Foundation
open SlipNet.Standard
open SlipNet.Core
open SlipNet.Network
open SlipNet.Scanning
open SlipNet.Services
open SlipNet.Security

def separatorLine : Str := List.replicate 60 '=' ++ ['\n']

/-! ## port|:scan -/

/-- The host and the job the arguments ask for. -/
def portScanRequest : List Str → Except Str (Str × ScanJob)
  | [] => .error "[!] Usage: port|:scan <IP> [start-end]\n".toList
  | [host] => .ok (host, .common)
  | host :: range :: _ =>
      match findChar '-' range with
      | none =>
          .error ("[!] Invalid port range.\n".toList ++
            "    Example: port|:scan ".toList ++ host ++ " 1-1024\n".toList)
      | some separator =>
          match stoi (range.take separator),
            stoi (range.drop (separator + 1)) with
          | some (startPort, _), some (endPort, _) =>
              if startPort < 1 ∨ endPort > 65535 ∨ startPort > endPort then
                .error ("[!] Port range must be 1-65535 and start <= " ++
                  "end.\n").toList
              else .ok (host, .range startPort endPort)
          | _, _ => .error "[!] Invalid port range.\n".toList

/-- `results` is what the scanner returns if a scan is started. -/
def handlePortScan (results : List Port) (arguments : List Str)
    (network : NetworkState) : NetworkState :=
  match portScanRequest arguments with
  | .error _ => network
  | .ok (host, _) => storeResults host results network

/-! ## svc|:detect -/

def openPorts (ports : List PortInfo) : List Int :=
  (ports.filter PortInfo.isOpen).map PortInfo.port

/-- The host to connect to and the ports to try. -/
def detectionRequest (network : NetworkState) :
    List Str → Except Str (Str × List Int)
  | [] => .error "[!] Usage: svc|:detect <IP>\n".toList
  | host :: _ =>
      let storedPorts := network.getPorts host
      if storedPorts = [] then
        .error ("[!] No port scan data for ".toList ++ host ++ ".\n".toList ++
          "[*] Run:\n    port|:scan ".toList ++ host ++ "\n".toList)
      else if openPorts storedPorts = [] then
        .error ("[!] No open ports found for ".toList ++ host ++ ".\n".toList)
      else .ok (host, openPorts storedPorts)

def storeServices (host : Str) (services : List Service)
    (network : NetworkState) : NetworkState :=
  services.foldl
    (fun network service => network.addService (detectedInfo host service))
    network

def handleServiceDetect (peers : Str → Int → Peer) (arguments : List Str)
    (network : NetworkState) : NetworkState :=
  match detectionRequest network arguments with
  | .error _ => network
  | .ok (host, ports) =>
      storeServices host (detectAll peers host ports) network

/-! ## net|:show, session|:info and net|:clear -/

def countOpenPorts (network : NetworkState) : Nat :=
  (network.getHosts.map fun host =>
    (network.getPorts host.ip).countP PortInfo.isOpen).sum

structure NetworkSummary where
  hostCount : Nat
  onlineHostCount : Nat
  offlineHostCount : Nat
  openPortCount : Nat
  serviceCount : Nat
  deriving DecidableEq, Repr

def handleNetworkShow (network : NetworkState) : NetworkSummary where
  hostCount := network.getHostCount
  onlineHostCount := network.getOnlineHostCount
  offlineHostCount :=
    if network.getHostCount ≥ network.getOnlineHostCount then
      network.getHostCount - network.getOnlineHostCount
    else 0
  openPortCount := countOpenPorts network
  serviceCount := network.getServices.length

structure SessionSummary where
  hostCount : Nat
  onlineHostCount : Nat
  discoveredPorts : Nat
  openPorts : Nat
  serviceCount : Nat
  deriving DecidableEq, Repr

def handleSessionInfo (network : NetworkState) : SessionSummary where
  hostCount := network.getHostCount
  onlineHostCount := network.getOnlineHostCount
  discoveredPorts :=
    (network.getHosts.map fun host => (network.getPorts host.ip).length).sum
  openPorts := countOpenPorts network
  serviceCount := network.getServices.length

structure ClearReport where
  hostsBefore : Nat
  onlineBefore : Nat
  openPortsBefore : Nat
  servicesBefore : Nat
  cleared : Bool
  deriving DecidableEq, Repr

def handleNetworkClear (network : NetworkState) :
    ClearReport × NetworkState :=
  let after := network.clear
  ({ hostsBefore := network.getHostCount
     onlineBefore := network.getOnlineHostCount
     openPortsBefore := countOpenPorts network
     servicesBefore := network.getServices.length
     cleared := after.getHostCount = 0 && after.getOnlineHostCount = 0 &&
       after.getServices.isEmpty },
    after)

/-! ## sec|:detect -/

/-- What the handler passes to the detector for one host. -/
structure HostAnalysis where
  ip : Str
  ports : List PortInfo
  services : List ServiceInfo
  deriving DecidableEq, Repr

def analysisScope (network : NetworkState) (arguments : List Str) :
    Except Str (List HostInfo) :=
  if arguments.length > 1 then
    .error (("\n[!] Invalid arguments.\n\nUsage:\n  sec|:detect\n" ++
      "  sec|:detect <IP>\n\nExamples:\n  sec|:detect\n" ++
      "  sec|:detect 192.168.1.10\n\n").toList ++ separatorLine)
  else if network.getHosts = [] then
    .error (("\n[!] No discovered hosts available.\n" ++
      "\n[*] Security analysis requires information\n" ++
      "    collected by SlipNet first.\n\n[*] Recommended sequence:\n" ++
      "    ip|:seek\n    port|:scan <IP>\n    svc|:detect <IP>\n" ++
      "    sec|:detect\n\n").toList ++ separatorLine)
  else
    match arguments with
    | [] => .ok network.getHosts
    | targetIp :: _ =>
        if network.getHosts.any fun host => host.ip = targetIp then
          .ok (network.getHosts.filter fun host =>
            targetIp = [] || host.ip = targetIp)
        else
          .error (("\n[!] Host is not present in SlipNet's discovered " ++
            "network state.\n    IP: ").toList ++ targetIp ++
            ("\n\n[*] Run ip|:seek first or use an IP already discovered " ++
              "by SlipNet.\n\n").toList ++ separatorLine)

def handleSecurityDetect (network : NetworkState) (arguments : List Str) :
    Except Str (List HostAnalysis) := do
  let hosts ← analysisScope network arguments
  return hosts.map fun host =>
    { ip := host.ip
      ports := network.getPorts host.ip
      services := network.getServices.filter fun service =>
        service.ip = host.ip }

/-! ## vuln|:scan and cred|:check -/

/-- The stored services of all hosts, or of the first argument. -/
def serviceTargets (command : String) (closing : Str)
    (network : NetworkState) (arguments : List Str) :
    Except Str (List ServiceInfo) :=
  if network.getServices = [] then
    .error (("[!] No service intelligence available.\n[*] Run:\n" ++
      "    ip|:seek\n    port|:scan <IP>\n    svc|:detect <IP>\n    " ++
      command ++ "\n\n").toList ++ separatorLine)
  else
    match arguments with
    | [] => .ok network.getServices
    | target :: _ =>
        let targets := network.getServices.filter fun service =>
          service.ip = target
        if targets = [] then
          .error ("[!] No detected services for ".toList ++ target ++
            ".\n".toList ++ closing)
        else .ok targets

def handleVulnScan (std : SortRoutine VulnerabilityFinding)
    (network : NetworkState) (arguments : List Str) :
    Except Str (List VulnerabilityFinding) := do
  let targets ← serviceTargets "vuln|:scan" [] network arguments
  return VulnerabilityScanner.scan std targets

def handleCredCheck (std : SortRoutine CredentialFinding)
    (network : NetworkState) (arguments : List Str) :
    Except Str (List CredentialFinding) :=
  if arguments.length > 1 then
    .error ("[!] Usage: cred|:check [IP]\n".toList ++ separatorLine)
  else do
    let targets ← serviceTargets "cred|:check" separatorLine network arguments
    return CredentialChecker.check std targets

/-! ## Storing services -/

variable {network : NetworkState} {host : Str} {services : List Service}

@[simp] theorem getHosts_storeServices :
    (storeServices host services network).getHosts = network.getHosts :=
  foldl_keeps NetworkState.getHosts fun _ _ => rfl

@[simp] theorem getPorts_storeServices :
    (storeServices host services network).getPorts = network.getPorts :=
  foldl_keeps NetworkState.getPorts fun _ _ => rfl

theorem mem_getServices_storeServices {record : ServiceInfo}
    (h : record ∈ (storeServices host services network).getServices) :
    record ∈ network.getServices ∨
      ∃ service ∈ services, record = detectedInfo host service := by
  refine foldl_adds_only (record ∈ NetworkState.getServices ·) ?_ h
  intro network service _ hadded
  rw [NetworkState.getServices_addService] at hadded
  exact (mem_put hadded).symm

theorem wellKeyed_storeServices (h : network.WellKeyed) (host : Str)
    (services : List Service) :
    (storeServices host services network).WellKeyed :=
  List.foldlRecOn services _ h fun _ hkeyed service _ =>
    hkeyed.addService (detectedInfo host service)

theorem of_detectionRequest {arguments : List Str} {ports : List Int}
    (h : detectionRequest network arguments = .ok (host, ports)) :
    network.getPorts host ≠ [] ∧ ports = openPorts (network.getPorts host) := by
  unfold detectionRequest at h
  split at h
  · cases h
  · dsimp only at h
    split_ifs at h with hempty hclosed
    cases h
    exact ⟨hempty, rfl⟩

/-! ## The scopes of the reports -/

theorem serviceTargets_subset {command : String} {closing : Str}
    {arguments : List Str} {targets : List ServiceInfo}
    (h : serviceTargets command closing network arguments = .ok targets) :
    ∀ service ∈ targets, service ∈ network.getServices := by
  unfold serviceTargets at h
  split at h
  · cases h
  · split at h
    · cases h
      exact fun service hservice => hservice
    · dsimp only at h
      split at h
      · cases h
      · cases h
        exact fun service hservice => (List.mem_filter.mp hservice).1

theorem of_handleVulnScan {std : SortRoutine VulnerabilityFinding}
    {arguments : List Str} {findings : List VulnerabilityFinding}
    (h : handleVulnScan std network arguments = .ok findings) :
    ∃ targets, (∀ service ∈ targets, service ∈ network.getServices) ∧
      findings = VulnerabilityScanner.scan std targets := by
  unfold handleVulnScan at h
  cases htargets : serviceTargets "vuln|:scan" [] network arguments with
  | error message =>
      rw [htargets] at h
      cases h
  | ok targets =>
      rw [htargets] at h
      cases h
      exact ⟨targets, serviceTargets_subset htargets, rfl⟩

theorem of_handleCredCheck {std : SortRoutine CredentialFinding}
    {arguments : List Str} {findings : List CredentialFinding}
    (h : handleCredCheck std network arguments = .ok findings) :
    ∃ targets, (∀ service ∈ targets, service ∈ network.getServices) ∧
      findings = CredentialChecker.check std targets := by
  unfold handleCredCheck at h
  split at h
  · cases h
  · cases htargets : serviceTargets "cred|:check" separatorLine network
        arguments with
    | error message =>
        rw [htargets] at h
        cases h
    | ok targets =>
        rw [htargets] at h
        cases h
        exact ⟨targets, serviceTargets_subset htargets, rfl⟩

theorem exists_analysis {ip : Str}
    (h : ip ∈ network.getHosts.map HostInfo.ip) {arguments : List Str}
    (harguments : arguments = [] ∨ arguments = [ip]) :
    ∃ analyses, handleSecurityDetect network arguments = .ok analyses ∧
      ∃ analysis ∈ analyses, analysis.ip = ip ∧
        analysis.ports = network.getPorts ip := by
  obtain ⟨host, hhost, rfl⟩ := List.mem_map.mp h
  have hne : network.getHosts ≠ [] := List.ne_nil_of_mem hhost
  have hscope : ∃ hosts, analysisScope network arguments = .ok hosts ∧
      host ∈ hosts := by
    rcases harguments with rfl | rfl
    · exact ⟨network.getHosts, by simp [analysisScope, hne], hhost⟩
    · have hany : (network.getHosts.any fun other => other.ip = host.ip) =
          true := List.any_eq_true.mpr ⟨host, hhost, by simp⟩
      refine ⟨network.getHosts.filter fun other =>
        host.ip = [] || other.ip = host.ip, ?_, by simp [hhost]⟩
      rw [analysisScope, if_neg (by simp), if_neg hne]
      exact if_pos hany
  obtain ⟨hosts, hok, hmem⟩ := hscope
  rw [handleSecurityDetect, hok]
  exact ⟨_, rfl, _, List.mem_map_of_mem hmem, rfl, rfl⟩

end SlipNet.Cli
