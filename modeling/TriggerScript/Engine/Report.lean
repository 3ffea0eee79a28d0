import TriggerScript.Diagnostics.Log

/-!
# Reports about loading

* `ScriptReport` : what came of loading one script.
* `LoadReport` : what came of loading several; its summary and its text.
* `jsonString` : a text as a string of a data file.
* `LoadReport.json` : a report about loading as an indented data file.
-/

namespace TriggerScript

/-- What came of loading one script. -/
structure ScriptReport where
  name : String
  triggers : Nat
  errors : Nat
  warnings : Nat
  /-- All errors and warnings with their places. -/
  messages : List String
  deriving DecidableEq, Repr, Inhabited

/-- The report about a script with some triggers and the entries left on the way. -/
def ScriptReport.ofEntries (name : String) (triggers : Nat) (entries : List Entry) :
    ScriptReport :=
  { name, triggers, errors := entries.countP Entry.isError,
    warnings := entries.countP Entry.isWarning, messages := entries.map Entry.text }

/-- What came of loading several scripts. -/
structure LoadReport where
  scripts : List ScriptReport
  deriving DecidableEq, Repr, Inhabited

namespace LoadReport

/-- The sum of a number over some scripts. -/
def total (count : ScriptReport → Nat) : List ScriptReport → Nat
  | [] => 0
  | s :: rest => count s + total count rest

def triggers (r : LoadReport) : Nat := total (·.triggers) r.scripts

def errors (r : LoadReport) : Nat := total (·.errors) r.scripts

def warnings (r : LoadReport) : Nat := total (·.warnings) r.scripts

/-- A number of things. -/
def amount (n : Nat) (thing : String) : String :=
  toString n ++ " " ++ thing ++ if n == 1 then "" else "s"

/-- The report in one line. -/
def summary (r : LoadReport) : String :=
  "Loaded " ++ amount r.scripts.length "script" ++ " with " ++ amount r.triggers "trigger" ++
    " (" ++ amount r.errors "error" ++ ", " ++ amount r.warnings "warning" ++ ")"

/-- The lines about one script. -/
def scriptLines (s : ScriptReport) : List String :=
  ("  " ++ s.name ++ ": " ++ toString s.triggers ++ " trigger(s), " ++ toString s.errors ++
    " error(s), " ++ toString s.warnings ++ " warning(s)") :: s.messages.map ("    " ++ ·)

/-- The report in full; every line is ended. -/
def text (r : LoadReport) : String :=
  String.join ((r.summary :: r.scripts.flatMap scriptLines).map (· ++ "\n"))

end LoadReport

/-! ### Reports as data -/

/-- One digit in base sixteen. -/
def hexDigit (n : Nat) : Char :=
  (Nat.toDigits 16 n).headD '0'

/-- How a data file spells one character of a string. -/
def jsonChar (c : Char) : List Char :=
  match c with
  | '"' => ['\\', '"']
  | '\\' => ['\\', '\\']
  | '\n' => ['\\', 'n']
  | '\r' => ['\\', 'r']
  | '\t' => ['\\', 't']
  | '\x08' => ['\\', 'b']
  | '\x0c' => ['\\', 'f']
  | c =>
    if c.toNat < 0x20 then
      ['\\', 'u', '0', '0', hexDigit (c.toNat / 16), hexDigit (c.toNat % 16)]
    else [c]

/-- A text as a string of a data file. -/
def jsonString (s : String) : String :=
  String.ofList ('"' :: s.toList.flatMap jsonChar ++ ['"'])

/-- Values between brackets, one to a line; without values the brackets stand side by side. -/
def jsonBlock (opening closing margin : String) (values : List String) : String :=
  if values.isEmpty then opening ++ closing
  else
    let inner := margin ++ "  "
    opening ++ "\n" ++ ",\n".intercalate (values.map (inner ++ ·)) ++ "\n" ++ margin ++ closing

/-- The report about one script, indented by a margin. -/
def ScriptReport.json (margin : String) (s : ScriptReport) : String :=
  let inner := margin ++ "  "
  jsonBlock "\x7b" "\x7d" margin
    ["\"name\": " ++ jsonString s.name,
      "\"triggers\": " ++ toString s.triggers,
      "\"errors\": " ++ toString s.errors,
      "\"warnings\": " ++ toString s.warnings,
      "\"messages\": " ++ jsonBlock "[" "]" inner (s.messages.map jsonString)]

/-- The report as a data file. -/
def LoadReport.json (r : LoadReport) : String :=
  jsonBlock "\x7b" "\x7d" ""
    ["\"scripts\": " ++ jsonBlock "[" "]" "  " (r.scripts.map (ScriptReport.json "    "))]

end TriggerScript
