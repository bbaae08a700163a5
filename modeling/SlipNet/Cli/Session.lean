import SlipNet.Cli.CommandHandler
import SlipNet.Platform.SystemInfo
import SlipNet.Port.ScanResults

/-!
# Sessions

`Terminal::run` reads a line, executes it, and stops at the end of the input,
at an interrupt while reading, or at `fire`; an exception of a command ends the
program.  A turn of this loop comes with
everything the network does meanwhile; the results of a port scan are those of
some run of the scanner.  A session is a run of turns.
-/

namespace SlipNet.Cli

open SlipNet.Foundation
open SlipNet.Standard
open SlipNet.Core
open SlipNet.Network
open SlipNet.Scanning
open SlipNet.Services

structure EngineContext where
  network : NetworkState := {}
  running : Bool := true
  version : Str := "0.1.0".toList
  deriving DecidableEq, Repr

/-- The network during one command, and what `system|:info` reads on Linux;
what it reads on Windows cannot make it throw. -/
structure Outcome where
  surroundings : Surroundings
  results : List Port
  peers : Str → Int → Peer
  system : Platform.SystemSources := {}

/-- `input` is `none` at the end of the input; `interrupted` tells that the stop
flag is up after reading. -/
structure Turn where
  input : Option Str
  interrupted : Bool
  outcome : Outcome

/-- `prompting` holds until the loop is left. -/
structure Session where
  context : EngineContext := {}
  prompting : Bool := true
  deriving DecidableEq, Repr

def EngineContext.update (change : NetworkState → NetworkState)
    (context : EngineContext) : EngineContext :=
  { context with network := change context.network }

/-- The new context, and whether the loop goes on or the exception that leaves
`execute`.  The handlers not named here read the context at most. -/
def execute (outcome : Outcome) (command : ParsedCommand)
    (context : EngineContext) :
    EngineContext × Except Platform.Exception Bool :=
  match command.type with
  | .ipSeek =>
      (context.update fun network =>
        (discover outcome.surroundings network).2, .ok true)
  | .portScan =>
      (context.update (handlePortScan outcome.results command.arguments),
        .ok true)
  | .serviceDetect =>
      (context.update (handleServiceDetect outcome.peers command.arguments),
        .ok true)
  | .networkClear =>
      (context.update fun network => (handleNetworkClear network).2, .ok true)
  | .systemInfo =>
      (context, (Platform.handleSystemInfo outcome.system).map fun _ => true)
  | .exit => (context, .ok false)
  | _ => (context, .ok true)

def Session.next (session : Session) (turn : Turn) : Session :=
  match turn.input with
  | none => { session with prompting := false }
  | some input =>
      if turn.interrupted then { session with prompting := false }
      else if input = [] then session
      else
        let (context, running) :=
          execute turn.outcome (parse input) session.context
        { context := context, prompting := running = .ok true }

def Turn.command? (turn : Turn) : Option ParsedCommand :=
  match turn.input with
  | none => none
  | some input =>
      if turn.interrupted then none
      else if input = [] then none
      else some (parse input)

def Turn.scan? (turn : Turn) : Option (Str × ScanJob) := do
  let command ← turn.command?
  if command.type = .portScan then
    match portScanRequest command.arguments with
    | .error _ => none
    | .ok request => some request
  else none

/-- The loop is still reading, and the results of a port scan are those of a
run of the scanner. -/
def SessionStep (std : SortRoutine Port) (session : Session) (turn : Turn)
    (next : Session) : Prop :=
  session.prompting = true ∧
    (∀ host job, turn.scan? = some (host, job) →
      Returns std job turn.outcome.results) ∧
    next = session.next turn

def Turn.typed (input : String) (results : List Port) (peer : Peer) :
    Turn where
  input := some input.toList
  interrupted := false
  outcome :=
    { surroundings := ⟨[], fun _ => {}, fun _ => false⟩
      results := results
      peers := fun _ _ => peer }

def refusing : Peer := ⟨false, fun _ => []⟩

/-! ## What a turn can do -/

variable {std : SortRoutine Port} {session next : Session} {turn : Turn}

/-- The four ways a turn can leave the network state behind, besides leaving it
alone. -/
inductive Effect (std : SortRoutine Port) (network : NetworkState)
    (turn : Turn) : NetworkState → Prop
  | keep (h : turn.scan? = none) : Effect std network turn network
  | seek (surroundings : Surroundings) (h : turn.scan? = none) :
      Effect std network turn (discover surroundings network).2
  | scan (host : Str) (job : ScanJob) (h : turn.scan? = some (host, job))
      (hreturns : Returns std job turn.outcome.results) :
      Effect std network turn
        (storeResults host turn.outcome.results network)
  | detect (host : Str) (ports : List Int) (arguments : List Str)
      (h : turn.scan? = none)
      (hrequest : detectionRequest network arguments = .ok (host, ports)) :
      Effect std network turn
        (storeServices host (detectAll turn.outcome.peers host ports) network)
  | clear (h : turn.scan? = none) : Effect std network turn network.clear

theorem step_of_scan (turn : Turn) {host : Str} {job : ScanJob}
    (hprompting : session.prompting = true)
    (hscan : turn.scan? = some (host, job))
    (hreturns : Returns std job turn.outcome.results) :
    SessionStep std session turn (session.next turn) := by
  refine ⟨hprompting, fun host' job' hscan' => ?_, rfl⟩
  obtain ⟨rfl, rfl⟩ := Prod.mk.inj (Option.some.inj (hscan.symm.trans hscan'))
  exact hreturns

theorem step_of_no_scan (turn : Turn) (hprompting : session.prompting = true)
    (hscan : turn.scan? = none) :
    SessionStep std session turn (session.next turn) := by
  refine ⟨hprompting, fun host job hscan' => ?_, rfl⟩
  rw [hscan] at hscan'
  cases hscan'

theorem scan?_of_command? {command : ParsedCommand}
    (h : turn.command? = some command) : turn.scan? =
      if command.type = .portScan then
        match portScanRequest command.arguments with
        | .error _ => none
        | .ok request => some request
      else none := by
  rw [Turn.scan?, h]
  rfl

theorem effect_execute {command : ParsedCommand} (context : EngineContext)
    (h : turn.command? = some command)
    (hreturns : ∀ host job, turn.scan? = some (host, job) →
      Returns std job turn.outcome.results) :
    Effect std context.network turn
      (execute turn.outcome command context).1.network := by
  have hscan := scan?_of_command? h
  unfold execute
  split
  case h_1 htype => exact .seek _ (by rw [hscan, htype]; rfl)
  case h_2 htype =>
    rw [htype, if_pos rfl] at hscan
    unfold EngineContext.update handlePortScan
    dsimp only
    split
    · next hrequest =>
        rw [hrequest] at hscan
        exact .keep hscan
    · next host job hrequest =>
        rw [hrequest] at hscan
        exact .scan host job hscan (hreturns host job hscan)
  case h_3 htype =>
    have hnone : turn.scan? = none := by rw [hscan, htype]; rfl
    unfold EngineContext.update handleServiceDetect
    dsimp only
    split
    · exact .keep hnone
    · next host ports hrequest => exact .detect host ports _ hnone hrequest
  case h_4 htype => exact .clear (by rw [hscan, htype]; rfl)
  case h_5 htype => exact .keep (by rw [hscan, htype]; rfl)
  case h_6 htype => exact .keep (by rw [hscan, htype]; rfl)
  case h_7 _ hport _ _ _ _ => exact .keep (by rw [hscan, if_neg hport])

theorem effect_of_step (h : SessionStep std session turn next) :
    Effect std session.context.network turn next.context.network := by
  obtain ⟨_, hreturns, rfl⟩ := h
  unfold Session.next
  split
  · next hinput =>
      exact .keep (by simp [Turn.scan?, Turn.command?, hinput])
  · next input hinput =>
      split_ifs with hinterrupted hempty
      · exact .keep (by
          simp [Turn.scan?, Turn.command?, hinput, hinterrupted])
      · exact .keep (by
          simp [Turn.scan?, Turn.command?, hinput, hempty])
      · have hcommand : turn.command? = some (parse input) := by
          simp [Turn.command?, hinput, hinterrupted, hempty]
        exact effect_execute session.context hcommand hreturns

/-! ## Unique keys -/

theorem Effect.wellKeyed {network after : NetworkState}
    (h : Effect std network turn after) (hkeyed : network.WellKeyed) :
    after.WellKeyed := by
  cases h with
  | keep => exact hkeyed
  | seek surroundings => exact wellKeyed_discover surroundings
  | scan host job => exact wellKeyed_storeResults hkeyed host _
  | detect host ports => exact wellKeyed_storeServices hkeyed host _
  | clear => exact .empty

theorem wellKeyed_of_step (h : SessionStep std session turn next)
    (hkeyed : session.context.network.WellKeyed) :
    next.context.network.WellKeyed :=
  (effect_of_step h).wellKeyed hkeyed

end SlipNet.Cli
