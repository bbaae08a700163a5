import SlipNet.Cli.CommandParser
import SlipNet.Host.BatchedProbing
import SlipNet.Network.OsFingerprint

/-!
# host|:find and os|:fingerprint

Both commands take one target from the prompt and probe it with `ping`.  On the
way to the shell the target is checked for a `/` by the first command and for
nothing by the second.
-/

namespace SlipNet.Cli

open SlipNet.Foundation
open SlipNet.Standard
open SlipNet.Discovery
open SlipNet.Network
open SlipNet.Platform

/-! ## The components, with the commands they hand to the shell -/

def checkHost (machine : Machine) (ip : Str) : Host × List Str :=
  (check (fun target => (pingHost machine target).1) ip,
    if '/' ∈ ip then [] else (pingHost machine ip).2)

def fingerprint (machine : Machine) (target : Str) :
    OSFingerprint × List Str :=
  let (probe, commands) := fingerprintHost machine target
  (OSFingerprinter.fingerprint probe target, commands)

/-! ## The handlers -/

def handleHostFind (machine : Machine) :
    List Str → Except Str Host × List Str
  | [target] =>
      if '/' ∈ target then
        (.error ("\n[!] Invalid host target.\n" ++
          "[*] CIDR notation is not valid for host lookup.\n" ++
          "[*] Use ip|:seek for network discovery.\n").toList, [])
      else
        let (host, commands) := checkHost machine target
        (.ok host, commands)
  | _ =>
      (.error ("\nUsage: host|:find <IP>\n\nExamples:\n" ++
        "  host|:find 192.168.1.10\n  host|:find 10.108.155.140\n\n" ++
        "Use ip|:seek for network discovery.\n").toList, [])

def handleOSFingerprint (machine : Machine) :
    List Str → Except Str OSFingerprint × List Str
  | [target] =>
      let (result, commands) := fingerprint machine target
      (.ok result, commands)
  | _ =>
      (.error ("\nUsage: os|:fingerprint <IP>\n\nExample:\n" ++
        "  os|:fingerprint 192.168.1.10\n").toList, [])

/-- The commands with a target of the user that an input line hands to the
shell. -/
def shellCommands (machine : Machine) (input : Str) : List Str :=
  let command := parse input
  match command.type with
  | .hostFind => (handleHostFind machine command.arguments).2
  | .osFingerprint => (handleOSFingerprint machine command.arguments).2
  | _ => []

theorem commands_handleHostFind (machine : Machine) (arguments : List Str) :
    (handleHostFind machine arguments).2 =
      match arguments with
      | [target] =>
          if '/' ∈ target then [] else [cStr (pingCommand target)]
      | _ => [] := by
  unfold handleHostFind
  split
  · split_ifs with hslash
    · rfl
    · simp [checkHost, hslash]
  · rfl

theorem commands_handleOSFingerprint (machine : Machine)
    (arguments : List Str) :
    (handleOSFingerprint machine arguments).2 =
      match arguments with
      | [target] => [cStr (fingerprintCommand target)]
      | _ => [] := by
  unfold handleOSFingerprint
  split
  · simp [fingerprint]
  · rfl

/-! ## What reaches the shell -/

def Probes (command : ParsedCommand) (target : Str) : Prop :=
  command.arguments = [target] ∧
    (command.type = .hostFind ∧ '/' ∉ target ∨ command.type = .osFingerprint)

def PingsOnly (machine : Machine) (input : Str) : Prop :=
  ∀ text ∈ shellCommands machine input,
    ∃ target ∈ (parse input).arguments, IsPing target text

theorem Probes.unique {command : ParsedCommand} {target other : Str}
    (h : Probes command target) (hother : Probes command other) :
    other = target := by
  simpa [h.1, eq_comm] using hother.1

theorem isEmpty_or_single_shellCommands (machine : Machine) (input : Str) :
    shellCommands machine input = [] ∧
        (∀ target, ¬ Probes (parse input) target) ∨
      ∃ target text, Probes (parse input) target ∧
        shellCommands machine input = [text] ∧
        (IsPing target text ↔ IsPlainTarget target) := by
  unfold shellCommands
  generalize parse input = command
  obtain ⟨type, raw, arguments⟩ := command
  dsimp only
  split
  · rw [commands_handleHostFind]
    split
    · next target =>
        split_ifs with hslash
        · refine .inl ⟨rfl, ?_⟩
          rintro other ⟨hother, ⟨_, hfree⟩ | hother'⟩
          · obtain rfl : target = other := by simpa using hother
            exact hfree hslash
          · cases hother'
        · exact .inr ⟨target, _, ⟨rfl, .inl ⟨rfl, hslash⟩⟩, rfl,
            isPing_pingCommand_iff⟩
    · next hmany =>
        exact .inl ⟨rfl, fun target hprobes => hmany target hprobes.1⟩
  · rw [commands_handleOSFingerprint]
    split
    · next target =>
        exact .inr ⟨target, _, ⟨rfl, .inr rfl⟩, rfl,
          isPing_fingerprintCommand_iff⟩
    · next hmany =>
        exact .inl ⟨rfl, fun target hprobes => hmany target hprobes.1⟩
  · next hfind hfingerprint =>
      refine .inl ⟨rfl, ?_⟩
      rintro target ⟨_, ⟨htype, _⟩ | htype⟩
      · exact hfind htype
      · exact hfingerprint htype

/-- No handler looks at the target, so what the shell runs is as harmless as
what the user types. -/
theorem pingsOnly_iff (machine : Machine) (input : Str) :
    PingsOnly machine input ↔
      ∀ target, Probes (parse input) target → IsPlainTarget target := by
  unfold PingsOnly
  rcases isEmpty_or_single_shellCommands machine input with
    ⟨hnone, hnot⟩ | ⟨target, text, hprobes, hsingle, hping⟩
  · simp [hnone, hnot]
  · have harguments := hprobes.1
    simp only [hsingle, harguments, List.mem_singleton, forall_eq,
      exists_eq_left, hping]
    constructor
    · intro hplain other hother
      rwa [hprobes.unique hother]
    · exact fun hall => hall target hprobes

/-- The target carries a second command. -/
theorem not_pingsOnly_secondCommand :
    ¬ PingsOnly ⟨fun _ => (0, .zero), fun _ => none⟩
      "host|:find 1.1.1.1;reboot".toList := by
  intro hpings
  have harguments : (parse "host|:find 1.1.1.1;reboot".toList).arguments =
      ["1.1.1.1;reboot".toList] := by decide
  obtain ⟨target, hmem, hping⟩ := hpings
    (cStr (pingCommand "1.1.1.1;reboot".toList)) (by decide)
  rw [harguments, List.mem_singleton] at hmem
  subst hmem
  exact hping.plain ';' (by decide) (by decide)

end SlipNet.Cli
