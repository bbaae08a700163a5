import SlipNet.Foundation.Tokens
import SlipNet.Network.NetworkDiscovery

/-!
# ping on Linux

`pingHost` and `fingerprintHost` put their target between the options of a
`ping` command and its redirections and hand the text to the shell.
-/

namespace SlipNet.Platform

open SlipNet.Foundation
open SlipNet.Standard
open SlipNet.Network

/-! ## The shell's reading of a command -/

/-- The characters that can mean something to a shell within or at the start of
an argument: operators, expansions, quotes, wildcards, braces and comments. -/
def shellSpecials : Str :=
  "\n|&;<>()$`\\\"'*?[#~\x7b\x7d".toList

def shellKind (c : Char) : CharKind :=
  if c = ' ' ∨ c = '\t' then .blank
  else if c ∈ shellSpecials then .operator
  else .plain

/-- Nothing but redirections: `>file`, `n>file` and `n>&m`. -/
def onlyRedirects : List (Token Char) → Bool
  | [] => true
  | .operator '>' :: .word _ :: rest => onlyRedirects rest
  | .word n :: .operator '>' :: .word _ :: rest =>
      n.all isdigit && onlyRedirects rest
  | .word n :: .operator '>' :: .operator '&' :: .word m :: rest =>
      n.all isdigit && m.all isdigit && onlyRedirects rest
  | _ => false

def IsSimpleCommand (words : List Str) (text : Str) : Prop :=
  ∃ redirects, onlyRedirects redirects = true ∧
    tokens shellKind text = words.map .word ++ redirects

/-- The text runs `ping` on the target and does nothing else. -/
structure IsPing (target text : Str) : Prop where
  simple : ∃ options,
    IsSimpleCommand ("ping".toList :: options ++ [target]) text
  plain : ∀ c ∈ target, c ∉ shellSpecials
  not_option : startsWith target "-".toList = false

/-! ## The probes -/

/-- What the rest of the machine does with a command. -/
structure Machine where
  /-- The exit code and the time that `std::system` takes. -/
  system : Str → Int × Double
  /-- What is read from the pipe of `popen`; `none` is a null pointer. -/
  popen : Str → Option Str

def pingCommand (ip : Str) : Str :=
  "ping -c 1 -W 1 ".toList ++ ip ++ " > /dev/null 2>&1".toList

/-- A probe returns its result with the commands it hands to the shell. -/
def pingHost (machine : Machine) (ip : Str) : PingResult × List Str :=
  let command := pingCommand ip
  let (exitCode, latencyMs) := machine.system (cStr command)
  ({ reachable := exitCode = 0, latencyMs := latencyMs }, [cStr command])

structure OSFingerprintPlatformResult where
  reachable : Bool := false
  ttl : Int := 0
  deriving DecidableEq, Repr

/-- A match of `(?:ttl|TTL)[=|:](\d+)` at the start of the text. -/
def matchTtl (text : Str) : Option Str :=
  if startsWith text "ttl".toList || startsWith text "TTL".toList then
    match text.drop 3 with
    | [] => none
    | c :: rest =>
        if c ∉ "=|:".toList then none
        else if rest.takeWhile isdigit = [] then none
        else some (rest.takeWhile isdigit)
  else none

def searchTtl : Str → Option Str
  | [] => none
  | c :: rest => (matchTtl (c :: rest)).or (searchTtl rest)

def fingerprintCommand (target : Str) : Str :=
  "ping -c 1 -W 2 ".toList ++ target ++ " 2>/dev/null".toList

def readTtl (output : Str) : OSFingerprintPlatformResult :=
  match searchTtl output with
  | none => {}
  | some text =>
      match stoi text with
      | none => {}
      | some (ttl, _) =>
          if ttl ≤ 0 then {} else { reachable := true, ttl := ttl }

def fingerprintHost (machine : Machine) (target : Str) :
    OSFingerprintPlatformResult × List Str :=
  let command := fingerprintCommand target
  match machine.popen (cStr command) with
  | none => ({}, [cStr command])
  | some output => (readTtl output, [cStr command])

@[simp] theorem commands_pingHost (machine : Machine) (ip : Str) :
    (pingHost machine ip).2 = [cStr (pingCommand ip)] := rfl

@[simp] theorem commands_fingerprintHost (machine : Machine) (target : Str) :
    (fingerprintHost machine target).2 =
      [cStr (fingerprintCommand target)] := by
  unfold fingerprintHost
  dsimp only
  split <;> rfl

/-! ## Targets that stay one word -/

structure IsPlainTarget (target : Str) : Prop where
  word : IsWord shellKind target
  no_nul : '\x00' ∉ target
  not_option : startsWith target "-".toList = false

theorem notMem_shellSpecials_of_plain {c : Char} (h : shellKind c = .plain) :
    c ∉ shellSpecials := by
  unfold shellKind at h
  split_ifs at h with _ hspecial
  exact hspecial

/-- A command that puts the target behind options that are words and before
redirections runs `ping` alone exactly on a plain target. -/
theorem isPing_iff {beginning ending target redirects : Str}
    {options : List Str}
    (hbeginning : beginning =
      ("ping".toList :: options).flatMap (· ++ [' ']))
    (hending : ending = ' ' :: redirects)
    (hwords : ∀ word ∈ "ping".toList :: options, IsWord shellKind word)
    (hredirects : onlyRedirects (tokens shellKind redirects) = true)
    (hnul : '\x00' ∉ beginning ++ ending) :
    IsPing target (cStr (beginning ++ target ++ ending)) ↔
      IsPlainTarget target := by
  constructor
  · rintro ⟨⟨_, _, _, htokens⟩, _, hoption⟩
    have hmem : .word target ∈
        tokens shellKind (cStr (beginning ++ target ++ ending)) := by
      rw [htokens]
      simp
    obtain ⟨hword, hread⟩ := of_mem_tokens hmem
    refine ⟨hword, fun hc => ?_, hoption⟩
    have hkept := List.mem_takeWhile_imp (hread _ hc)
    simp at hkept
  · rintro ⟨hword, htarget, hoption⟩
    have htext : '\x00' ∉ beginning ++ target ++ ending := by
      simp only [List.mem_append, not_or] at hnul ⊢
      exact ⟨⟨hnul.1, htarget⟩, hnul.2⟩
    refine ⟨⟨options, tokens shellKind redirects, hredirects, ?_⟩,
      fun c hc => notMem_shellSpecials_of_plain (hword.2 c hc), hoption⟩
    rw [cStr_eq_self htext, hbeginning, hending, List.append_assoc,
      tokens_words hwords (by rfl), tokens_word_blank hword (by rfl)]
    simp

theorem isPing_pingCommand_iff {ip : Str} :
    IsPing ip (cStr (pingCommand ip)) ↔ IsPlainTarget ip := by
  exact @isPing_iff _ _ ip "> /dev/null 2>&1".toList
    ["-c".toList, "1".toList, "-W".toList, "1".toList]
    (by decide) (by decide) (by decide) (by decide) (by decide)

theorem isPing_fingerprintCommand_iff {target : Str} :
    IsPing target (cStr (fingerprintCommand target)) ↔
      IsPlainTarget target := by
  exact @isPing_iff _ _ target "2>/dev/null".toList
    ["-c".toList, "1".toList, "-W".toList, "2".toList]
    (by decide) (by decide) (by decide) (by decide) (by decide)

end SlipNet.Platform
