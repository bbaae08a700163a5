import SlipNet.Foundation.Simulation
import SlipNet.Cli.Session

/-!
# The prompt

`Terminal::run` action by action, with Ctrl+C between any two of them.  Its
turns make up a session, in which a turn counts as interrupted exactly if
Ctrl+C came while the prompt was up.  At any other time Ctrl+C stops what is
running at most: the session goes on.  An exception that leaves a command is
caught by nothing and aborts the program.
-/

namespace SlipNet.Cli

open SlipNet.Foundation
open SlipNet.Standard
open SlipNet.Scanning

/-! ## The loop -/

/-- Where the loop is: before the flag is cleared, waiting for a line, before
the look at the flag, or inside `execute`. -/
inductive Phase
  | top
  | reading
  | looking (input : Str)
  | executing (input : Str) (nonempty : input ≠ [])
  | terminated
  | aborted
  deriving DecidableEq

def Phase.atPrompt : Phase → Bool
  | .reading | .looking _ => true
  | _ => false

def Phase.ended : Phase → Bool
  | .terminated | .aborted => true
  | _ => false

/-- Where `execute` leads, which returns or throws. -/
def Phase.after : Except Platform.Exception Bool → Phase
  | .ok true => .top
  | .ok false => .terminated
  | .error _ => .aborted

structure Terminal where
  context : EngineContext := {}
  stopRequested : Bool := false
  phase : Phase := .top

/-- `getline` is `none` where it fails; `handlerClears` is a `clearStop` of the
command that runs; `finish` is the end of the command, also by an exception. -/
inductive Action
  | ctrlC
  | clearStop
  | getline (input : Option Str)
  | look
  | handlerClears
  | finish (outcome : Outcome)

/-- The handlers that clear the flag themselves. -/
def clearsStop (command : ParsedCommand) : Bool :=
  command.type = .packetCapture || command.type = .networkMonitor

inductive TerminalStep (std : SortRoutine Port) :
    Terminal → Action → Terminal → Prop
  | ctrlC {terminal : Terminal} (h : terminal.phase.ended = false) :
      TerminalStep std terminal .ctrlC { terminal with stopRequested := true }
  | clearStop {terminal : Terminal} (h : terminal.phase = .top) :
      TerminalStep std terminal .clearStop
        { terminal with stopRequested := false, phase := .reading }
  | endOfInput {terminal : Terminal} (h : terminal.phase = .reading) :
      TerminalStep std terminal (.getline none)
        { terminal with phase := .terminated }
  | getline {terminal : Terminal} (input : Str)
      (h : terminal.phase = .reading) :
      TerminalStep std terminal (.getline (some input))
        { terminal with phase := .looking input }
  | look {terminal : Terminal} {input : Str}
      (h : terminal.phase = .looking input) :
      TerminalStep std terminal .look
        { terminal with
          phase :=
            if terminal.stopRequested then .terminated
            else if nonempty : input ≠ [] then .executing input nonempty
            else .top }
  | handlerClears {terminal : Terminal} {input : Str} {nonempty : input ≠ []}
      (h : terminal.phase = .executing input nonempty)
      (hclears : clearsStop (parse input) = true) :
      TerminalStep std terminal .handlerClears
        { terminal with stopRequested := false }
  | finish {terminal : Terminal} {input : Str} {nonempty : input ≠ []}
      (outcome : Outcome) (h : terminal.phase = .executing input nonempty)
      (hreturns : ∀ host job,
        (⟨some input, false, outcome⟩ : Turn).scan? = some (host, job) →
          Returns std job outcome.results) :
      TerminalStep std terminal (.finish outcome)
        { terminal with
          context := (execute outcome (parse input) terminal.context).1
          phase := .after (execute outcome (parse input) terminal.context).2 }

/-! ## Turns -/

def Terminal.session (terminal : Terminal) : Session where
  context := terminal.context
  prompting := !terminal.phase.ended

def quiet : Outcome where
  surroundings := ⟨[], fun _ => {}, fun _ => false⟩
  results := []
  peers := fun _ _ => refusing

def Terminal.turn? (terminal : Terminal) : Action → Option Turn
  | .getline none => some ⟨none, terminal.stopRequested, quiet⟩
  | .look =>
      match terminal.phase with
      | .looking input =>
          if terminal.stopRequested || input = [] then
            some ⟨some input, terminal.stopRequested, quiet⟩
          else none
      | _ => none
  | .finish outcome =>
      match terminal.phase with
      | .executing input _ => some ⟨some input, false, outcome⟩
      | _ => none
  | _ => none

variable {std : SortRoutine Port} {terminal next : Terminal} {action : Action}

theorem scan?_quiet {input : Option Str} {interrupted : Bool}
    (h : interrupted = true ∨ input = none ∨ input = some []) :
    (⟨input, interrupted, quiet⟩ : Turn).scan? = none := by
  have hcommand : (⟨input, interrupted, quiet⟩ : Turn).command? = none := by
    rcases h with rfl | rfl | rfl
    · cases input <;> rfl
    · rfl
    · cases interrupted <;> rfl
  rw [Turn.scan?, hcommand]
  rfl

theorem prompting_of_phase {phase : Phase} (h : terminal.phase = phase)
    (hphase : phase.ended = false) : terminal.session.prompting = true := by
  subst h
  simpa [Terminal.session] using hphase

theorem ended_after (returned : Except Platform.Exception Bool) :
    (Phase.after returned).ended = !decide (returned = .ok true) := by
  rcases returned with exception | (_ | _) <;> rfl

theorem sessionStep_of_turn? {turn : Turn}
    (h : TerminalStep std terminal action next)
    (hturn : terminal.turn? action = some turn) :
    SessionStep std terminal.session turn next.session := by
  cases h with
  | ctrlC => cases hturn
  | clearStop => cases hturn
  | getline => cases hturn
  | handlerClears => cases hturn
  | endOfInput hphase =>
      cases hturn
      exact step_of_no_scan _ (prompting_of_phase hphase rfl)
        (scan?_quiet (.inr (.inl rfl)))
  | @look input hphase =>
      have hprompting := prompting_of_phase hphase rfl
      rw [Terminal.turn?, hphase] at hturn
      dsimp only at hturn
      split_ifs at hturn with hends
      cases hturn
      refine ⟨hprompting, fun host job hscan => ?_, ?_⟩
      · rw [scan?_quiet (by simpa using hends)] at hscan
        cases hscan
      · cases hstop : terminal.stopRequested
        · have hempty : input = [] := by simpa [hstop] using hends
          simp [Session.next, Terminal.session, Phase.ended, hempty, hphase]
        · simp [Session.next, Terminal.session, Phase.ended]
  | @finish input nonempty outcome hphase hreturns =>
      rw [Terminal.turn?, hphase] at hturn
      cases hturn
      refine ⟨prompting_of_phase hphase rfl, hreturns, ?_⟩
      simp only [Session.next, Terminal.session, Bool.false_eq_true, if_false,
        if_neg nonempty, ended_after, Bool.not_not]
      rfl

theorem session_of_silent (h : TerminalStep std terminal action next)
    (hturn : terminal.turn? action = none) :
    next.session = terminal.session := by
  cases h with
  | ctrlC => rfl
  | clearStop hphase => simp [Terminal.session, Phase.ended, hphase]
  | getline input hphase => simp [Terminal.session, Phase.ended, hphase]
  | handlerClears hphase => simp [Terminal.session]
  | endOfInput hphase => cases hturn
  | @look input hphase =>
      rw [Terminal.turn?, hphase] at hturn
      dsimp only at hturn
      split_ifs at hturn with hends
      obtain ⟨hstop, hinput⟩ : terminal.stopRequested = false ∧ input ≠ [] := by
        simpa using hends
      simp [Terminal.session, Phase.ended, hphase, hstop, hinput]
  | finish outcome hphase hreturns =>
      rw [Terminal.turn?, hphase] at hturn
      cases hturn

/-- Whenever Ctrl+C comes, the turns that are complete make up a session. -/
theorem session_of_terminal {trace : List (Terminal × Action)}
    {last : Terminal} (run : Run (TerminalStep std) {} trace last) :
    ∃ turns, Run (SessionStep std) {} turns last.session ∧
      actions turns = written Terminal.turn? trace :=
  run.viewed Terminal.session Terminal.turn?
    (fun _ _ _ _ h hturn => sessionStep_of_turn? h hturn)
    (fun _ _ _ h hturn => session_of_silent h hturn)

def seekLine : Str := "ip|:seek".toList

def seekTurn : Turn := ⟨some seekLine, true, quiet⟩

def interruptedTrace : List (Terminal × Action) :=
  [({}, .clearStop), ({ phase := .reading }, .getline (some seekLine)),
    ({ phase := .looking seekLine }, .ctrlC),
    ({ stopRequested := true, phase := .looking seekLine }, .look)]

def interruptedEnd : Terminal := { stopRequested := true, phase := .terminated }

theorem run_interrupted (std : SortRoutine Port) :
    Run (TerminalStep std) {} interruptedTrace interruptedEnd :=
  ((((Run.refl _).tail (.clearStop rfl)).tail (.getline seekLine rfl)).tail
    (.ctrlC rfl)).tail (.look rfl)

theorem session_of_terminal_interrupted :
    ∃ turns, Run (SessionStep (.merge Port)) {} turns
        { prompting := false } ∧ actions turns = [seekTurn] :=
  session_of_terminal (run_interrupted (.merge Port))

/-! ## Ctrl+C at the prompt -/

/-- What an action makes of the prompt's interrupt: Ctrl+C raises it while the
prompt is up, and a new prompt lowers it. -/
def promptFlag (terminal : Terminal) : Action → Option Bool
  | .ctrlC => if terminal.phase.atPrompt then some true else none
  | .clearStop => some false
  | _ => none

def PressedAtPrompt (trace : List (Terminal × Action)) : Prop :=
  LastWrite promptFlag trace true

variable {trace : List (Terminal × Action)} {last : Terminal}

def Ends (before : List (Terminal × Action)) (terminal : Terminal)
    (action : Action) : Prop :=
  action = .getline none ∨
    action = .look ∧ PressedAtPrompt before ∨
    ∃ outcome input nonempty, action = .finish outcome ∧
      terminal.phase = .executing input nonempty ∧ (parse input).type = .exit

end SlipNet.Cli
