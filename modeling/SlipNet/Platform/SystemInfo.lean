import SlipNet.Standard.Strings
import Mathlib.Tactic

/-!
# The system information of Linux

`readOperatingSystem` and `readCpu` cut a value out of a line with
`std::string::substr`, which throws for a position behind the end.  The first
reader never cuts there.  The second one skips the colon and the blank behind
it, so a line that ends with its colon makes it throw, and nothing between it
and `main` catches.
-/

namespace SlipNet.Platform

open SlipNet.Standard

inductive Exception
  | outOfRange
  deriving DecidableEq, Repr

/-- `value.substr(pos, count)`; without a count it goes to the end. -/
def substr (value : Str) (pos : Nat) (count : Option Nat) :
    Except Exception Str :=
  if value.length < pos then .error .outOfRange
  else
    match count with
    | none => .ok (value.drop pos)
    | some count => .ok ((value.drop pos).take count)

def isQuoted (value : Str) : Bool :=
  value.length ≥ 2 && value.head? = some '\x22' &&
    value.getLast? = some '\x22'

def prettyName : List Str → Except Exception Str
  | [] => .ok "Linux".toList
  | line :: lines =>
      if startsWith line "PRETTY_NAME=".toList then do
        let value ← substr line 12 none
        if isQuoted value then substr value 1 (some (value.length - 2))
        else return value
      else prettyName lines

/-- `file` is the content of `/etc/os-release`, if it can be read. -/
def readOperatingSystem (file : Option Str) : Except Exception Str :=
  match file with
  | none => .ok "Linux".toList
  | some text => prettyName (getlines '\n' text)

def modelName : List Str → Except Exception Str
  | [] => .ok "Unknown".toList
  | line :: lines =>
      if startsWith line "model name".toList then
        match findChar ':' line with
        | some separator => substr line (separator + 2) none
        | none => modelName lines
      else modelName lines

/-- `file` is the content of `/proc/cpuinfo`, if it can be read. -/
def readCpu (file : Option Str) : Except Exception Str :=
  match file with
  | none => .ok "Unknown".toList
  | some text => modelName (getlines '\n' text)

structure SystemPlatformInfo where
  hostname : Str := []
  operatingSystem : Str := []
  kernel : Str := []
  architecture : Str := []
  cpu : Str := []
  memory : Str := []
  uptime : Str := []
  deriving DecidableEq, Repr

/-- What the machine answers.  The texts of `readMemory` and `readUptime` are
printed numbers; `uname` gives the release and the machine. -/
structure SystemSources where
  gethostname : Option Str := none
  osRelease : Option Str := none
  cpuinfo : Option Str := none
  readMemory : Str := "Unknown".toList
  readUptime : Str := "Unknown".toList
  uname : Option (Str × Str) := none
  deriving DecidableEq, Repr

def getSystemPlatformInfo (sources : SystemSources) :
    Except Exception SystemPlatformInfo := do
  let operatingSystem ← readOperatingSystem sources.osRelease
  let cpu ← readCpu sources.cpuinfo
  let (kernel, architecture) :=
    sources.uname.getD ("Unknown".toList, "Unknown".toList)
  return {
    hostname := sources.gethostname.getD "Unknown".toList
    operatingSystem := operatingSystem
    kernel := kernel
    architecture := architecture
    cpu := cpu
    memory := sources.readMemory
    uptime := sources.readUptime }

/-- What `system|:info` displays: `collect` copies the fields. -/
def handleSystemInfo (sources : SystemSources) :
    Except Exception SystemPlatformInfo :=
  getSystemPlatformInfo sources

/-! ## Positions -/

theorem substr_eq_ok_iff {value : Str} {pos : Nat} (count : Option Nat) :
    (∃ text, substr value pos count = .ok text) ↔ pos ≤ value.length := by
  unfold substr
  split
  · next hlt =>
      simp [not_le.mpr hlt]
  · next hlt =>
      rw [not_lt] at hlt
      cases count <;> simp [hlt]

theorem length_of_startsWith {value start : Str}
    (h : startsWith value start = true) : start.length ≤ value.length :=
  (List.isPrefixOf_iff_prefix.mp h).length_le

theorem prettyName_eq_ok (lines : List Str) :
    ∃ name, prettyName lines = .ok name := by
  induction lines with
  | nil => exact ⟨_, rfl⟩
  | cons line lines ih =>
      rw [prettyName]
      split
      · next hstart =>
          obtain ⟨value, hvalue⟩ := (substr_eq_ok_iff none).mpr
            (show 12 ≤ line.length from length_of_startsWith hstart)
          rw [hvalue]
          change ∃ name, (if isQuoted value then
            substr value 1 (some (value.length - 2)) else return value) =
              .ok name
          split
          · next hquoted =>
              rw [substr_eq_ok_iff]
              simp only [isQuoted, Bool.and_eq_true, decide_eq_true_eq]
                at hquoted
              omega
          · exact ⟨value, rfl⟩
      · exact ih

theorem readOperatingSystem_eq_ok (file : Option Str) :
    ∃ name, readOperatingSystem file = .ok name := by
  cases file with
  | none => exact ⟨_, rfl⟩
  | some text => exact prettyName_eq_ok _

def NamesModel (line : Str) : Prop :=
  startsWith line "model name".toList = true ∧ ':' ∈ line

instance : DecidablePred NamesModel := fun _ =>
  inferInstanceAs (Decidable (_ ∧ _))

def EndsWithColon (line : Str) : Prop := ∃ key, ':' ∉ key ∧ line = key ++ [':']

theorem substr_behind_colon {line : Str} {separator : Nat}
    (h : findChar ':' line = some separator) :
    (∃ text, substr line (separator + 2) none = .ok text) ↔
      ¬ EndsWithColon line := by
  obtain ⟨key, value, rfl, hkey, rfl⟩ := exists_split_of_findChar h
  rw [substr_eq_ok_iff, List.length_append, List.length_cons]
  constructor
  · rintro hle ⟨other, hother, hsame⟩
    obtain ⟨_, rfl⟩ := append_cons_inj hkey hother hsame
    simp at hle
  · intro hends
    cases value with
    | nil => exact absurd ⟨key, hkey, rfl⟩ hends
    | cons c value =>
        rw [List.length_cons]
        omega

theorem modelName_eq_ok_iff (lines : List Str) :
    (∃ cpu, modelName lines = .ok cpu) ↔
      ∀ line, lines.find? (NamesModel ·) = some line →
        ¬ EndsWithColon line := by
  induction lines with
  | nil => simp [modelName]
  | cons line lines ih =>
      rw [modelName, List.find?_cons]
      by_cases hnames : NamesModel line
      · obtain ⟨separator, hseparator⟩ := Option.ne_none_iff_exists'.mp
          (mt findChar_eq_none_iff.mp (not_not.mpr hnames.2))
        rw [if_pos hnames.1, hseparator, substr_behind_colon hseparator]
        simp [hnames]
      · have hskip : (if startsWith line "model name".toList = true then
            match findChar ':' line with
            | some separator => substr line (separator + 2) none
            | none => modelName lines
          else modelName lines) = modelName lines := by
          split
          · next hstart =>
              rw [findChar_eq_none_iff.mpr fun hcolon =>
                hnames ⟨hstart, hcolon⟩]
          · rfl
        rw [hskip, ih]
        simp [hnames]

theorem readCpu_eq_ok_iff (file : Option Str) :
    (∃ cpu, readCpu file = .ok cpu) ↔
      ∀ text, file = some text → ∀ line,
        (getlines '\n' text).find? (NamesModel ·) = some line →
          ¬ EndsWithColon line := by
  cases file with
  | none => simp [readCpu]
  | some text =>
      rw [readCpu, modelName_eq_ok_iff]
      simp

theorem handleSystemInfo_eq_ok_iff (sources : SystemSources) :
    (∃ info, handleSystemInfo sources = .ok info) ↔
      ∃ cpu, readCpu sources.cpuinfo = .ok cpu := by
  obtain ⟨name, hname⟩ := readOperatingSystem_eq_ok sources.osRelease
  rw [handleSystemInfo, getSystemPlatformInfo, hname]
  cases readCpu sources.cpuinfo with
  | error exception =>
      constructor
      · rintro ⟨_, ⟨⟩⟩
      · rintro ⟨_, ⟨⟩⟩
  | ok cpu => exact ⟨fun _ => ⟨cpu, rfl⟩, fun _ => ⟨_, rfl⟩⟩

/-- Neither reader throws, and so the command displays its report. -/
structure NeverThrows (sources : SystemSources) : Prop where
  operatingSystem : ∃ name, readOperatingSystem sources.osRelease = .ok name
  cpu : ∃ cpu, readCpu sources.cpuinfo = .ok cpu
  report : ∃ info, handleSystemInfo sources = .ok info

/-- `system|:info` survives exactly if the first line that starts with
`model name` and holds a colon does not end with its first colon. -/
theorem neverThrows_iff (sources : SystemSources) :
    NeverThrows sources ↔
      ∀ text, sources.cpuinfo = some text → ∀ line,
        (getlines '\n' text).find? (NamesModel ·) = some line →
          ¬ EndsWithColon line := by
  rw [← readCpu_eq_ok_iff]
  exact ⟨NeverThrows.cpu, fun hcpu => ⟨readOperatingSystem_eq_ok _, hcpu,
    (handleSystemInfo_eq_ok_iff sources).mpr hcpu⟩⟩

def namelessCpu : SystemSources where
  gethostname := some "slip".toList
  osRelease := none
  cpuinfo := some "processor\t: 0\nmodel name\t:\n".toList
  readMemory := "7.61 GB".toList
  readUptime := "0h 5m 12s".toList
  uname := some ("6.1.0".toList, "x86_64".toList)

theorem handleSystemInfo_namelessCpu :
    handleSystemInfo namelessCpu = .error .outOfRange ∧
      ¬ NeverThrows namelessCpu := by
  have hthrows : handleSystemInfo namelessCpu = .error .outOfRange := by
    decide
  refine ⟨hthrows, fun h => ?_⟩
  obtain ⟨info, hinfo⟩ := h.report
  rw [hthrows] at hinfo
  cases hinfo

end SlipNet.Platform
