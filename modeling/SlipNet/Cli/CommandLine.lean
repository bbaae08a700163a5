import SlipNet.Cli.CommandParser
import SlipNet.Standard.Words

/-!
# Command lines

A command line is a command and its arguments with white space between them.
`CommandParser::parse` takes it apart into exactly these, however it is spaced,
and names the command by its lower-case form.
-/

namespace SlipNet.Cli

open SlipNet.Standard

structure SpacedArgument where
  gap : Str
  token : Str
  gap_ne_nil : gap ≠ []
  gap_blank : IsBlank gap
  isToken : IsToken token

structure CommandLine where
  leading : Str
  command : Str
  arguments : List SpacedArgument
  trailing : Str
  leading_blank : IsBlank leading
  isToken : IsToken command
  trailing_blank : IsBlank trailing

def argumentsText (arguments : List SpacedArgument) (trailing : Str) : Str :=
  (arguments.flatMap fun argument => argument.gap ++ argument.token) ++
    trailing

def CommandLine.text (line : CommandLine) : Str :=
  line.leading ++ (line.command ++ argumentsText line.arguments line.trailing)

theorem words_argumentsText {command trailing : Str}
    (hcommand : IsToken command) (arguments : List SpacedArgument)
    (htrailing : IsBlank trailing) :
    words (command ++ argumentsText arguments trailing) =
      command :: arguments.map (·.token) := by
  induction arguments generalizing command with
  | nil =>
      cases trailing with
      | nil => simp [argumentsText, words_of_isToken hcommand]
      | cons b trailing =>
          have hread := words_isToken_append hcommand htrailing (by simp) []
          rw [List.append_nil] at hread
          exact hread
  | cons argument arguments ih =>
      have htext : argumentsText (argument :: arguments) trailing =
          argument.gap ++
            (argument.token ++ argumentsText arguments trailing) := by
        simp [argumentsText]
      rw [htext, words_isToken_append hcommand argument.gap_blank
        argument.gap_ne_nil, ih argument.isToken, List.map_cons]

theorem tokenize_text (line : CommandLine) :
    tokenize line.text = line.command :: line.arguments.map (·.token) := by
  rw [tokenize, CommandLine.text, words_of_isBlank_append line.leading_blank,
    words_argumentsText line.isToken line.arguments line.trailing_blank]

/-! ## The command -/

/-- The comparisons of `identifyCommand` with a text in lower case. -/
def typeOfText (normalized : Str) : CommandType :=
  match commandTexts.find? fun (text, _) => normalized = text with
  | some (_, type) => type
  | none => .unknown

theorem trim_of_isToken {word : Str} (h : IsToken word) : trim word = word := by
  have hfirst : word.dropWhile isspace = word := by
    rw [List.dropWhile_eq_self_iff]
    intro hlength
    simpa using h.solid _ (List.getElem_mem hlength)
  have hlast : word.rdropWhile isspace = word := by
    rw [List.rdropWhile_eq_self_iff]
    intro hne
    simpa using h.solid _ (List.getLast_mem hne)
  rw [trim, hfirst, hlast]

theorem identifyCommand_of_isToken {word : Str} (h : IsToken word) :
    identifyCommand word = typeOfText (lower word) := by
  rw [identifyCommand, trim_of_isToken h]
  rfl

/-- A command line is read as the command, known by its lower-case form, and
its arguments in order; a blank line is no command. -/
theorem parse_commandLine :
    (∀ line : CommandLine, parse line.text =
      { type := typeOfText (lower line.command)
        raw := line.text
        arguments := line.arguments.map (·.token) }) ∧
    ∀ blank : { text : Str // IsBlank text }, parse blank =
      { type := .unknown, raw := blank, arguments := [] } := by
  constructor
  · intro line
    rw [parse, tokenize_text]
    dsimp only
    rw [identifyCommand_of_isToken line.isToken]
  · rintro ⟨blank, hblank⟩
    rw [parse, tokenize, words_of_isBlank hblank]

/-- The command in upper case, and white space of all kinds around it. -/
def spacedLine : CommandLine where
  leading := " ".toList
  command := "PORT|:Scan".toList
  arguments :=
    [⟨"\t ".toList, "10.0.0.5".toList, by decide, by decide, by decide⟩]
  trailing := "\r".toList
  leading_blank := by decide
  isToken := by decide
  trailing_blank := by decide

example : parse spacedLine.text =
    ⟨.portScan, " PORT|:Scan\t 10.0.0.5\r".toList, ["10.0.0.5".toList]⟩ := by
  decide

end SlipNet.Cli
