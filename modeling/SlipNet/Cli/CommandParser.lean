import SlipNet.Standard.Strings

/-!
# The command parser

A command line is a list of tokens: the first names the command, in any case,
and the others are its arguments.
-/

namespace SlipNet.Cli

open SlipNet.Standard

inductive CommandType
  | ipSeek
  | hostFind
  | portScan
  | serviceDetect
  | topologyMap
  | packetCapture
  | packetInspect
  | networkMonitor
  | networkShow
  | networkClear
  | securityDetect
  | aiAnalyze
  | sessionInfo
  | macResolve
  | dnsResolve
  | osFingerprint
  | bannerGrab
  | subnetCalc
  | vulnScan
  | credCheck
  | sslAudit
  | firewallProbe
  | systemInfo
  | help
  | exit
  | unknown
  deriving DecidableEq, Repr

structure ParsedCommand where
  type : CommandType := .unknown
  raw : Str := []
  arguments : List Str := []
  deriving DecidableEq, Repr

/-- The texts `identifyCommand` compares with, in its order. -/
def commandTexts : List (Str × CommandType) :=
  [("ip|:seek".toList, .ipSeek),
    ("host|:find".toList, .hostFind),
    ("port|:scan".toList, .portScan),
    ("svc|:detect".toList, .serviceDetect),
    ("topo|:map".toList, .topologyMap),
    ("pkt|:capture".toList, .packetCapture),
    ("pkt|:inspect".toList, .packetInspect),
    ("net|:monitor".toList, .networkMonitor),
    ("net|:show".toList, .networkShow),
    ("net|:clear".toList, .networkClear),
    ("sec|:detect".toList, .securityDetect),
    ("ai|:analyze".toList, .aiAnalyze),
    ("session|:info".toList, .sessionInfo),
    ("mac|:resolve".toList, .macResolve),
    ("dns|:resolve".toList, .dnsResolve),
    ("os|:fingerprint".toList, .osFingerprint),
    ("banner|:grab".toList, .bannerGrab),
    ("subnet|:calc".toList, .subnetCalc),
    ("vuln|:scan".toList, .vulnScan),
    ("cred|:check".toList, .credCheck),
    ("ssl|:audit".toList, .sslAudit),
    ("firewall|:probe".toList, .firewallProbe),
    ("system|:info".toList, .systemInfo),
    ("help".toList, .help),
    ("?".toList, .help),
    ("fire".toList, .exit),
    ("exit".toList, .exit),
    ("quit".toList, .exit)]

def tokenize (input : Str) : List Str := words input

def identifyCommand (command : Str) : CommandType :=
  let normalized := lower (trim command)
  match commandTexts.find? fun (text, _) => normalized = text with
  | some (_, type) => type
  | none => .unknown

def parse (input : Str) : ParsedCommand :=
  match tokenize input with
  | [] => { raw := input }
  | command :: arguments =>
      { type := identifyCommand command
        raw := input
        arguments := arguments }

def commandName : CommandType → Str
  | .ipSeek => "ip|:seek".toList
  | .hostFind => "host|:find".toList
  | .portScan => "port|:scan".toList
  | .serviceDetect => "svc|:detect".toList
  | .topologyMap => "topo|:map".toList
  | .packetCapture => "pkt|:capture".toList
  | .packetInspect => "pkt|:inspect".toList
  | .networkMonitor => "net|:monitor".toList
  | .networkShow => "net|:show".toList
  | .networkClear => "net|:clear".toList
  | .securityDetect => "sec|:detect".toList
  | .aiAnalyze => "ai|:analyze".toList
  | .sessionInfo => "session|:info".toList
  | .macResolve => "mac|:resolve".toList
  | .dnsResolve => "dns|:resolve".toList
  | .osFingerprint => "os|:fingerprint".toList
  | .bannerGrab => "banner|:grab".toList
  | .subnetCalc => "subnet|:calc".toList
  | .vulnScan => "vuln|:scan".toList
  | .credCheck => "cred|:check".toList
  | .sslAudit => "ssl|:audit".toList
  | .firewallProbe => "firewall|:probe".toList
  | .help => "help".toList
  | .exit => "fire".toList
  | .systemInfo => "system|:info".toList
  | .unknown => "unknown".toList

/-- Every command is found under the name it is shown with. -/
theorem identifyCommand_commandName (type : CommandType) :
    identifyCommand (commandName type) = type := by
  cases type <;> decide

theorem mem_arguments_parse {input argument : Str}
    (h : argument ∈ (parse input).arguments) :
    argument ≠ [] ∧ ∀ c ∈ argument, isspace c = false := by
  rw [parse] at h
  split at h
  · simp at h
  · next command arguments htokens =>
      have hmem : argument ∈ tokenize input := by
        rw [htokens]
        exact List.mem_cons_of_mem _ h
      exact of_mem_words hmem

end SlipNet.Cli
