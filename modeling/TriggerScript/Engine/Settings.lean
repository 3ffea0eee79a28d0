import TriggerScript.Fault
import TriggerScript.Decimal.Reading
import TriggerScript.Engine.Storage
import TriggerScript.World.Basic
import TriggerScript.Text.Cut

/-!
# Settings

The options file of an engine: lines `key = value`, blank lines, and comments behind `#`.

* `Verbosity`, `ReportFormat`, `Settings` : what can be set.
* `Settings.apply` : what one line sets; a value that makes no sense sets the default.
* `Settings.parse` : the settings that a file states.
* `Settings.summary` : the settings in words.
-/

namespace TriggerScript

/-- How much is logged. -/
inductive Verbosity where
  | low
  | normal
  | high
  | veryHigh
  | debug
  deriving DecidableEq, Repr, Inhabited

namespace Verbosity

/-- The level that a word names, in any letter case. -/
def ofName? (name : String) : Option Verbosity :=
  let word := String.ofList
    (Text.replaceChar '_' [' '] (Text.lower (Text.trim name.toList)))
  if word == "low" then some .low
  else if word == "normal" then some .normal
  else if word == "high" then some .high
  else if word == "very high" || word == "veryhigh" then some .veryHigh
  else if word == "debug" then some .debug
  else none

def name : Verbosity → String
  | .low => "Low"
  | .normal => "Normal"
  | .high => "High"
  | .veryHigh => "VeryHigh"
  | .debug => "Debug"

/-- The log filter that goes with the level. -/
def filter : Verbosity → String
  | .low => "warn"
  | .normal => "info"
  | .high => "info,trellis_scripting=debug"
  | .veryHigh => "debug"
  | .debug => "trace"

end Verbosity

/-- How reports about loading are written. -/
inductive ReportFormat where
  | text
  | json
  deriving DecidableEq, Repr, Inhabited

def ReportFormat.name : ReportFormat → String
  | .text => "Text"
  | .json => "Json"

/-- Everything that can be set. Times are in milliseconds. -/
structure Settings where
  scriptsFolder : String
  extension : String
  disabledStart : String
  tick : Nat
  patience : Nat
  verbosity : Verbosity
  warnMissingAnd : Bool
  reportFormat : ReportFormat
  deriving DecidableEq, Repr, Inhabited

namespace Settings

/-- What holds if nothing is set. -/
def standard : Settings :=
  ⟨"scripts", "sk", "-", 50, 5000, .normal, true, .text⟩

/-- The largest number of milliseconds. -/
def maxTime : Nat := UInt64.size - 1

/-- What a line with a key, given in lower case, and a value sets. Unknown keys set nothing. -/
def apply (s : Settings) (key : String) (value : List Char) : Settings :=
  match key with
  | "scripts_folder" => { s with scriptsFolder := String.ofList value }
  | "script_extension" => { s with extension := String.ofList (value.dropWhile (· == '.')) }
  | "disabled_prefix" => { s with disabledStart := String.ofList value }
  | "tick_millis" =>
    { s with tick := ((Decimal.readNat? maxTime value).filter (0 < ·)).getD 50 }
  | "sync_timeout_ms" => { s with patience := (Decimal.readNat? maxTime value).getD 5000 }
  | "verbosity" =>
    { s with verbosity := (Verbosity.ofName? (String.ofList value)).getD .normal }
  | "warn_missing_and" =>
    { s with warnMissingAnd := String.ofList value != "false" }
  | "report_format" =>
    { s with reportFormat :=
        if Text.lower value == ['j', 's', 'o', 'n'] then .json else .text }
  | _ => s

/-- The key and the value of a line. -/
def keyValue? (line : List Char) : Option (String × List Char) :=
  (Text.cutAt? '=' line).map fun parts =>
    (String.ofList (Text.lower (Text.trim parts.1)), Text.trim parts.2)

/-- Whether a trimmed line states nothing. -/
def isSilent (line : List Char) : Bool :=
  match line with
  | [] => true
  | c :: _ => c == '#'

/-- Applies lines, the first of which has the given number. -/
def applyLines (s : Settings) (number : Nat) : List (List Char) → Except ServiceFault Settings
  | [] => .ok s
  | raw :: rest =>
    let line := Text.trim raw
    if isSilent line then s.applyLines (number + 1) rest
    else match keyValue? line with
      | some (key, value) => (s.apply key value).applyLines (number + 1) rest
      | none =>
        .error (.settings ("line " ++ toString number ++ ": expected 'key = value', found '" ++
          String.ofList line ++ "'"))

/-- The settings that the content of a file states. -/
def parse (content : String) : Except ServiceFault Settings :=
  standard.applyLines 1 (Text.lines content.toList)

/-- The settings that a file states. -/
def load (storage : Storage) (path : String) : Except ServiceFault Settings :=
  match storage.readText (Path.ofString path) with
  | .ok content => parse content
  | .error (.file message) => .error (.settings ("cannot read " ++ path ++ ": " ++ message))
  | .error fault => .error fault.toService

/-- Where the settings are looked for. -/
def standardPath : String := "config/engine.txt"

/-- The settings in words. -/
def summary (s : Settings) : List String :=
  ["Engine configuration:",
    "  Scripts: " ++ s.scriptsFolder ++ " (*." ++ s.extension ++ ", disabled prefix '" ++
      s.disabledStart ++ "')",
    "  Tick: " ++ toString s.tick ++ " ms",
    "  Sync timeout: " ++ toString s.patience ++ " ms",
    "  Verbosity: " ++ s.verbosity.name,
    "  Warn on lists without and/or: " ++ if s.warnMissingAnd then "true" else "false",
    "  Report format: " ++ s.reportFormat.name]

/-- The options of an engine that is set up like this. -/
def options (s : Settings) : Options :=
  { patience := s.patience, warnMissingAnd := s.warnMissingAnd, extension := s.extension,
    disabledStart := s.disabledStart }

end Settings

end TriggerScript
