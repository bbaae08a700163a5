import SlipNet.Cli.PacketCommands
import SlipNet.Standard.Numerals

/-!
# Numbers among the arguments

Four handlers read a number from a token with `std::stoi`, which takes the
numeral a text starts with.  Only `net|:monitor` asks how much of the token was
read, so the other three go on with a token that goes on behind its numeral.
-/

namespace SlipNet.Cli

open SlipNet.Foundation
open SlipNet.Standard
open SlipNet.Capture

/-! ## Reading a number -/

/-- What a handler prints for a number it does not take, the bounds it states,
and whether it compares the characters read with the length of the token. -/
structure NumberArgument where
  invalid : Str
  outside : Str
  low : Int
  high : Int
  whole : Bool
  low_inRange : InIntRange low := by decide
  high_inRange : InIntRange high := by decide

def NumberArgument.read (argument : NumberArgument) (token : Str) :
    Except Str Int :=
  match stoi token with
  | none => .error argument.invalid
  | some (n, processed) =>
      if argument.whole = true ∧ processed ≠ token.length then
        .error argument.invalid
      else if n < argument.low ∨ n > argument.high then
        .error argument.outside
      else .ok n

theorem NumberArgument.read_of_prefix {argument : NumberArgument}
    (h : argument.whole = false) (token : Str) :
    argument.read token =
      match stoi token with
      | none => .error argument.invalid
      | some (n, _) =>
          if n < argument.low ∨ n > argument.high then .error argument.outside
          else .ok n := by
  unfold read
  simp only [h, Bool.false_eq_true, false_and, if_false]

theorem NumberArgument.of_read_error {argument : NumberArgument}
    {token message : Str} (h : argument.read token = .error message) :
    message = argument.invalid ∨ message = argument.outside := by
  unfold read at h
  split at h
  · exact .inl (Except.error.inj h).symm
  · split_ifs at h
    · exact .inl (Except.error.inj h).symm
    · exact .inr (Except.error.inj h).symm

theorem bounds_of_read {argument : NumberArgument} {token : Str} {n : Int}
    (h : argument.read token = .ok n) :
    argument.low ≤ n ∧ n ≤ argument.high := by
  unfold NumberArgument.read at h
  split at h
  · cases h
  · split_ifs at h with hwhole hbounds
    cases h
    simp only [not_or, not_lt, gt_iff_lt] at hbounds
    exact hbounds

def captureDuration : NumberArgument where
  invalid := ("\n[!] Invalid duration.\n" ++
    "[*] Duration must be an integer.\n[*] Example:\n" ++
    "    pkt|:capture eth1 10\n").toList
  outside := ("\n[!] Duration must be between " ++
    "1 and 86400 seconds.\n").toList
  low := 1
  high := 86400
  whole := false

def bannerPort : NumberArgument where
  invalid := "[!] Invalid port.\n".toList
  outside := "[!] Port must be between 1 and 65535.\n".toList
  low := 1
  high := 65535
  whole := false

def sslPort : NumberArgument where
  invalid := "\n[!] Invalid port.\n".toList
  outside := "\n[!] Port must be between 1 and 65535.\n".toList
  low := 1
  high := 65535
  whole := false

def monitorInterval : NumberArgument where
  invalid := ("\n[!] Invalid monitoring interval.\n" ++
    "[!] Interval must be a whole number of seconds.\n").toList
  outside := ("\n[!] Monitoring interval must be between " ++
    "1 and 3600 seconds.\n").toList
  low := 1
  high := 3600
  whole := true

/-! ## The handlers -/

inductive Activity
  | capture (interfaceName : Str) (durationSeconds : Int) (filter : Str)
  | grab (host : Str) (port : Int)
  | audit (host : Str) (port : Int)
  | monitor (interfaceName : Str) (intervalSeconds : Int)
  deriving DecidableEq, Repr

def startPacketCapture (activeInterface : Str) (arguments : List Str) :
    Except Str Activity := do
  let (interfaceName, seconds, filter) ←
    captureArguments activeInterface arguments
  return .capture interfaceName seconds.toInt filter

def handleBannerGrab : List Str → Except Str Activity
  | [host, token] => do
      let port ← bannerPort.read token
      return .grab host port
  | _ => .error "\nUsage: banner|:grab <IP> <PORT>\n".toList

def handleSSLAudit : List Str → Except Str Activity
  | [host] => .ok (.audit host 443)
  | [host, token] => do
      let port ← sslPort.read token
      return .audit host port
  | _ =>
      .error ("\nUsage:\n  ssl|:audit <IP|HOSTNAME>\n" ++
        "  ssl|:audit <IP|HOSTNAME> <PORT>\n").toList

def handleNetworkMonitor (activeInterface : Str) (arguments : List Str) :
    Except Str Activity :=
  if arguments.length > 2 then
    .error ("\n[!] Too many arguments.\n\nUsage:\n  net|:monitor\n" ++
      "  net|:monitor <interface>\n" ++
      "  net|:monitor <interface> <interval>\n").toList
  else
    match arguments with
    | [] =>
        if activeInterface = [] then
          .error "\n[!] Unable to detect an active network interface.\n".toList
        else .ok (.monitor activeInterface 1)
    | interfaceName :: interval =>
        if interfaceName = [] then
          .error "\n[!] Network interface cannot be empty.\n".toList
        else
          match interval with
          | [] => .ok (.monitor interfaceName 1)
          | token :: _ => do
              let intervalSeconds ← monitorInterval.read token
              return .monitor interfaceName intervalSeconds

/-! ## The number in its place -/

inductive NumericCommand
  | packetCapture
  | bannerGrab
  | sslAudit
  | networkMonitor
  deriving DecidableEq, Repr

def NumericCommand.number : NumericCommand → NumberArgument
  | .packetCapture => captureDuration
  | .bannerGrab => bannerPort
  | .sslAudit => sslPort
  | .networkMonitor => monitorInterval

structure ArgumentToken where
  text : Str
  ne_nil : text ≠ []
  noBlank : ∀ c ∈ text, isspace c = false

def ArgumentToken.ofArgument {input argument : Str}
    (h : argument ∈ (parse input).arguments) : ArgumentToken :=
  ⟨argument, (mem_arguments_parse h).1, (mem_arguments_parse h).2⟩

structure Surroundings where
  activeInterface : Str
  /-- The interface or the host. -/
  first : ArgumentToken
  filter : Option Str
  accepted : ∀ name ∈ filter, upper name ∈ supportedFilters

namespace NumericCommand

def handle (surroundings : Surroundings) (token : Str) :
    NumericCommand → Except Str Activity
  | .packetCapture => startPacketCapture surroundings.activeInterface
      (surroundings.first.text :: token :: surroundings.filter.toList)
  | .bannerGrab => handleBannerGrab [surroundings.first.text, token]
  | .sslAudit => handleSSLAudit [surroundings.first.text, token]
  | .networkMonitor => handleNetworkMonitor surroundings.activeInterface
      [surroundings.first.text, token]

def activity (surroundings : Surroundings) (n : Int) :
    NumericCommand → Activity
  | .packetCapture => .capture surroundings.first.text n
      (upper (surroundings.filter.getD "ALL".toList))
  | .bannerGrab => .grab surroundings.first.text n
  | .sslAudit => .audit surroundings.first.text n
  | .networkMonitor => .monitor surroundings.first.text n

variable (surroundings : Surroundings) (token : Str)

theorem upper_filter_supported :
    upper (surroundings.filter.getD "ALL".toList) ∈ supportedFilters := by
  cases hfilter : surroundings.filter with
  | none => decide
  | some name => exact surroundings.accepted name hfilter

theorem captureArguments_eq :
    captureArguments surroundings.activeInterface
        (surroundings.first.text :: token :: surroundings.filter.toList) =
      (captureDuration.read token).map fun n =>
        (surroundings.first.text, Int32.ofInt n,
          upper (surroundings.filter.getD "ALL".toList)) := by
  have hfilter := upper_filter_supported surroundings
  have hlength : ¬ (surroundings.first.text :: token ::
      surroundings.filter.toList).length > 3 := by
    cases surroundings.filter <;> simp
  have hthird : (surroundings.first.text :: token ::
      surroundings.filter.toList)[2]? = surroundings.filter := by
    cases surroundings.filter <;> rfl
  have hsupported : ∀ name ∈ supportedFilters, ¬ (name ≠ "ALL".toList ∧
      name ≠ "TCP".toList ∧ name ≠ "UDP".toList ∧
      name ≠ "ICMP".toList) := by decide
  unfold captureArguments
  rw [if_neg hlength, hthird, if_neg (by simp),
    NumberArgument.read_of_prefix rfl]
  dsimp only [List.getElem?_cons_zero, List.getElem?_cons_succ,
    Option.getD_some]
  rcases stoi token with _ | ⟨n, processed⟩
  · dsimp only [captureDuration, Except.map]
  · dsimp only
    rw [if_neg (hsupported _ hfilter)]
    by_cases hbounds : n < captureDuration.low ∨ n > captureDuration.high
    · rw [if_pos hbounds, if_pos (by exact hbounds)]
      dsimp only [captureDuration, Except.map]
    · rw [if_neg hbounds, if_neg (by exact hbounds), Except.map]

theorem startPacketCapture_eq :
    startPacketCapture surroundings.activeInterface
        (surroundings.first.text :: token :: surroundings.filter.toList) =
      (captureDuration.read token).map fun n =>
        activity surroundings n .packetCapture := by
  rw [startPacketCapture, captureArguments_eq]
  cases hread : captureDuration.read token with
  | error message => rfl
  | ok n =>
      obtain ⟨hlow, hhigh⟩ : 1 ≤ n ∧ n ≤ 86400 := bounds_of_read hread
      have hsize : Int32.size = 4294967296 := rfl
      have hn : (Int32.ofInt n).toInt = n := by
        rw [Int32.toInt_ofInt, hsize]
        exact Int.bmod_eq_of_le (by omega) (by omega)
      simp [Except.map, bind, Except.bind, pure, Except.pure, activity, hn]

theorem handle_eq (command : NumericCommand) :
    command.handle surroundings token =
      (command.number.read token).map fun n =>
        command.activity surroundings n := by
  cases command with
  | packetCapture => exact startPacketCapture_eq surroundings token
  | bannerGrab => rfl
  | sslAudit => rfl
  | networkMonitor =>
      have hne := surroundings.first.ne_nil
      simp only [handle, handleNetworkMonitor, if_neg hne]
      rfl

theorem activity_inj {surroundings : Surroundings} {command : NumericCommand}
    {n m : Int} : command.activity surroundings n =
      command.activity surroundings m ↔ n = m := by
  cases command <;> simp [activity]

theorem handle_eq_ok_iff {surroundings : Surroundings} {token : Str}
    {command : NumericCommand} {n : Int} :
    command.handle surroundings token =
        .ok (command.activity surroundings n) ↔
      command.number.read token = .ok n := by
  rw [handle_eq]
  cases command.number.read token with
  | error message => simp [Except.map]
  | ok m => simp [Except.map, activity_inj]

theorem message_ne_nil (command : NumericCommand) :
    command.number.invalid ≠ [] ∧ command.number.outside ≠ [] := by
  cases command <;>
    exact ⟨mt String.toList_eq_nil_iff.mp (by decide),
      mt String.toList_eq_nil_iff.mp (by decide)⟩

end NumericCommand

/-! ## Whole tokens -/

theorem NumberArgument.read_eq_ok_iff {argument : NumberArgument}
    {token : ArgumentToken} {n : Int} :
    argument.read token.text = .ok n ↔
      (IsSignedNumeral token.text n ∨
        argument.whole = false ∧ GoesOnBehindNumeral token.text n) ∧
      argument.low ≤ n ∧ n ≤ argument.high := by
  have hrange (hbounds : argument.low ≤ n ∧ n ≤ argument.high) :
      InIntRange n :=
    ⟨argument.low_inRange.1.trans hbounds.1,
      hbounds.2.trans argument.high_inRange.2⟩
  constructor
  · intro h
    have hbounds := bounds_of_read h
    refine ⟨?_, hbounds⟩
    unfold read at h
    split at h
    · cases h
    · next m processed hstoi =>
        split_ifs at h with hwhole houtside
        cases h
        rcases (exists_stoi_iff token.noBlank (hrange hbounds)).mp
          ⟨processed, hstoi⟩ with hsigned | hbehind
        · exact .inl hsigned
        · refine .inr ⟨?_, hbehind⟩
          by_contra hread
          refine hwhole ⟨eq_true_of_ne_false hread, fun hlength => ?_⟩
          rw [hlength] at hstoi
          exact ((stoi_whole_iff_isSignedNumeral token.noBlank
            (hrange hbounds)).mp hstoi).not_goesOn hbehind
  · rintro ⟨hnumeral, hbounds⟩
    have hinside : ¬ (n < argument.low ∨ n > argument.high) := by omega
    rcases hnumeral with hsigned | ⟨hloose, hbehind⟩
    · have hstoi := (stoi_whole_iff_isSignedNumeral token.noBlank
        (hrange hbounds)).mpr hsigned
      simp [read, hstoi, hinside]
    · obtain ⟨processed, hstoi⟩ := (exists_stoi_iff token.noBlank
        (hrange hbounds)).mpr (.inr hbehind)
      simp [read, hstoi, hinside, hloose]

/-- The handler goes on with exactly the numbers within its bounds that the
token is a numeral of, and reports an error for every other token. -/
structure ReadsWhole (surroundings : Surroundings) (command : NumericCommand)
    (token : ArgumentToken) : Prop where
  goesOn : ∀ n, command.handle surroundings token.text =
      .ok (command.activity surroundings n) ↔
    IsSignedNumeral token.text n ∧
      command.number.low ≤ n ∧ n ≤ command.number.high
  refuses : (∀ n, ¬ (IsSignedNumeral token.text n ∧
      command.number.low ≤ n ∧ n ≤ command.number.high)) →
    ∃ message, message ≠ [] ∧
      command.handle surroundings token.text = .error message

/-- Only the monitor reads whole tokens; the others do so for every token that
does not go on behind a numeral within their bounds. -/
theorem readsWhole_iff (surroundings : Surroundings)
    (command : NumericCommand) (token : ArgumentToken) :
    ReadsWhole surroundings command token ↔
      command = .networkMonitor ∨
        ∀ n, GoesOnBehindNumeral token.text n →
          ¬ (command.number.low ≤ n ∧ n ≤ command.number.high) := by
  have hwhole : command = .networkMonitor ∨ command.number.whole = false := by
    cases command <;> decide
  constructor
  · intro hreads
    refine hwhole.imp_right fun hloose n hbehind hbounds => ?_
    have hread := NumberArgument.read_eq_ok_iff.mpr
      ⟨.inr ⟨hloose, hbehind⟩, hbounds⟩
    exact ((hreads.goesOn n).mp
      (NumericCommand.handle_eq_ok_iff.mpr hread)).1.not_goesOn hbehind
  · intro hcondition
    have hread (n : Int) : command.number.read token.text = .ok n ↔
        IsSignedNumeral token.text n ∧
          command.number.low ≤ n ∧ n ≤ command.number.high := by
      rw [NumberArgument.read_eq_ok_iff]
      refine and_congr_left fun hbounds => or_iff_left ?_
      rintro ⟨hloose, hbehind⟩
      rcases hcondition with rfl | hnone
      · cases hloose
      · exact hnone n hbehind hbounds
    constructor
    · intro n
      rw [NumericCommand.handle_eq_ok_iff, hread]
    · intro hnone
      cases hresult : command.number.read token.text with
      | ok n => exact absurd ((hread n).mp hresult) (hnone n)
      | error message =>
          refine ⟨message, ?_, ?_⟩
          · have hne := command.message_ne_nil
            rcases NumberArgument.of_read_error hresult with rfl | rfl
            · exact hne.1
            · exact hne.2
          · rw [NumericCommand.handle_eq, hresult, Except.map]

def grabbing : Surroundings where
  activeInterface := []
  first := ⟨"10.0.0.1".toList, by decide, forall_mem_of_all (by decide)⟩
  filter := none
  accepted := by simp

/-- `banner|:grab 10.0.0.1 22abc` connects to port 22. -/
theorem not_readsWhole_trailing :
    ¬ ReadsWhole grabbing .bannerGrab
      ⟨"22abc".toList, by decide, forall_mem_of_all (by decide)⟩ := by
  intro h
  have hbehind : GoesOnBehindNumeral "22abc".toList 22 :=
    ⟨['2', '2'], ['a', 'b', 'c'], by decide, by decide,
      noDigitAhead_cons.mpr (by decide), [], ['2', '2'], rfl, by decide,
      forall_mem_of_all (by decide), .inr ⟨.inl rfl, by decide⟩⟩
  exact ((h.goesOn 22).mp (by decide)).1.not_goesOn hbehind

end SlipNet.Cli
