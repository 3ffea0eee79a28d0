/-!
# Diagnostic entries and their log

Parsing tries many readings of a text. Each leaves entries, and of a failed attempt only the
most telling error is kept. The log is a stack of frames over a root. Entries go to the innermost
frame; entries that reach the root are emitted and counted.

* `Location` : a line of a script.
* `Quality`, `Entry` : how specific a message is; a message with its place.
* `bestError` : the earliest error of the highest quality.
* `warningsOf` : what is left of the entries of an attempt that succeeded.
* `Log.enter` : opens a frame and returns its handle.
* `Log.closeSuccess`, `Log.closeBest`, `Log.closeDiscard` : the three ways to close a frame.
* `Log.take` : hands out what was emitted and starts counting anew.
-/

namespace TriggerScript

/-! ### Entries -/

/-- A line of a script; lines count from one. -/
structure Location where
  script : String
  line : Nat
  deriving DecidableEq, Repr, Inhabited

/-- How messages name the place. -/
def Location.text (l : Location) : String :=
  l.script ++ ", line " ++ toString l.line

/-- How specific an error is. -/
inductive Quality where
  /-- A fallback message. -/
  | generic
  /-- The text is not the kind of thing that was expected. -/
  | notExpression
  /-- The text was understood and has no meaning in this place. -/
  | semantic
  deriving DecidableEq, Repr, Inhabited

def Quality.rank : Quality → Nat
  | .generic => 0
  | .notExpression => 1
  | .semantic => 2

/-- The name of a quality in data. -/
def Quality.name : Quality → String
  | .generic => "None"
  | .notExpression => "NotAnExpression"
  | .semantic => "SemanticError"

/-- The quality with a name. -/
def Quality.ofName? (s : String) : Option Quality :=
  [Quality.generic, .notExpression, .semantic].find? (·.name == s)

inductive Severity where
  | warning
  | error
  deriving DecidableEq, Repr, Inhabited

/-- A message, and the place it is about. -/
structure Entry where
  severity : Severity
  message : String
  quality : Quality
  location : Option Location
  deriving DecidableEq, Repr, Inhabited

def Severity.name : Severity → String
  | .warning => "warning"
  | .error => "error"

namespace Entry

def isError (e : Entry) : Bool := e.severity == .error

def isWarning (e : Entry) : Bool := e.severity == .warning

/-- An error about a place. -/
def error (location : Option Location) (message : String) (quality : Quality) : Entry :=
  ⟨.error, message, quality, location⟩

/-- A warning about a place. -/
def warning (location : Option Location) (message : String) : Entry :=
  ⟨.warning, message, .generic, location⟩

/-- The message followed by its place. -/
def text (e : Entry) : String :=
  match e.location with
  | some l => e.message ++ " (" ++ l.text ++ ")"
  | none => e.message

end Entry

/-- The better of two errors; the first if they are as specific. -/
def betterError (best : Option Entry) (e : Entry) : Option Entry :=
  match best with
  | some b => if e.quality.rank ≤ b.quality.rank then some b else some e
  | none => some e

/-- The earliest of the most specific errors. -/
def bestError (entries : List Entry) : Option Entry :=
  (entries.filter Entry.isError).foldl betterError none

/-- The warnings among the entries. -/
def warningsOf (entries : List Entry) : List Entry :=
  entries.filter Entry.isWarning

@[simp] theorem warningsOf_nil : warningsOf [] = [] := rfl

@[simp] theorem warningsOf_append (a b : List Entry) :
    warningsOf (a ++ b) = warningsOf a ++ warningsOf b :=
  List.filter_append a b

/-! ### The log -/

/-- The entries of an attempt that is still going on. -/
structure LogFrame where
  errors : List Entry
  warnings : List Entry
  deriving DecidableEq, Repr, Inhabited

/-- The log of one script. `frames` has the innermost frame first. -/
structure Log where
  frames : List LogFrame
  location : Option Location
  errors : Nat
  warnings : Nat
  emitted : List Entry
  deriving Repr, Inhabited

namespace Log

/-- A log without entries. -/
def empty : Log := ⟨[], none, 0, 0, []⟩

/-- The handle of a frame is its depth when it was opened. -/
abbrev Handle := Nat

/-- The location that later entries get. -/
def setLocation (log : Log) (location : Option Location) : Log :=
  { log with location }

/-- Lets an entry out at the root. -/
def emit (log : Log) (e : Entry) : Log :=
  match e.severity with
  | .error => { log with errors := log.errors + 1, emitted := log.emitted ++ [e] }
  | .warning => { log with warnings := log.warnings + 1, emitted := log.emitted ++ [e] }

/-- Puts an entry into the innermost frame, or lets it out if no frame is open. -/
def add (log : Log) (e : Entry) : Log :=
  match log.frames with
  | [] => log.emit e
  | frame :: outer =>
    let frame := match e.severity with
      | .error => { frame with errors := frame.errors ++ [e] }
      | .warning => { frame with warnings := frame.warnings ++ [e] }
    { log with frames := frame :: outer }

/-- Adds entries in order. -/
def addAll (log : Log) (entries : List Entry) : Log :=
  entries.foldl add log

/-- Logs an error at the current location. -/
def error (log : Log) (message : String) (quality : Quality) : Log :=
  log.add (.error log.location message quality)

/-- Logs a warning at the current location. -/
def warning (log : Log) (message : String) : Log :=
  log.add (.warning log.location message)

/-- Opens a frame. -/
def enter (log : Log) : Handle × Log :=
  (log.frames.length + 1, { log with frames := ⟨[], []⟩ :: log.frames })

/-- Takes the frame of a handle off the stack, together with the frames inside it. A handle of
no open frame takes nothing. -/
def pop (log : Log) (handle : Handle) : Option LogFrame × Log :=
  if handle = 0 || log.frames.length < handle then (none, log)
  else match log.frames.drop (log.frames.length - handle) with
    | [] => (none, log)
    | frame :: outer => (some frame, { log with frames := outer })

/-- Closes the frame of an attempt that succeeded: its warnings go one level out. -/
def closeSuccess (log : Log) (handle : Handle) : Log :=
  match log.pop handle with
  | (some frame, log) => log.addAll frame.warnings
  | (none, log) => log

/-- Closes the frame of an attempt that failed: its best error goes one level out, or else the
given error. -/
def closeBest (log : Log) (handle : Handle) (default : Option (String × Quality)) : Log :=
  match log.pop handle with
  | (none, log) => log
  | (some frame, log) =>
    match bestError frame.errors with
    | some e => log.add e
    | none => match default with
      | some (message, quality) => log.error message quality
      | none => log

/-- Closes a frame and drops its entries. -/
def closeDiscard (log : Log) (handle : Handle) : Log :=
  (log.pop handle).2

/-- Whether the innermost frame holds an error. -/
def hasError (log : Log) : Bool :=
  match log.frames with
  | frame :: _ => !frame.errors.isEmpty
  | [] => false

/-- The quality of the best error of the innermost frame. -/
def bestQuality (log : Log) : Option Quality :=
  match log.frames with
  | frame :: _ => (bestError frame.errors).map (·.quality)
  | [] => none

/-- Numbers of errors and warnings let out. -/
def counts (log : Log) : Nat × Nat :=
  (log.errors, log.warnings)

/-- Hands out the emitted entries; counting starts anew. -/
def take (log : Log) : List Entry × Log :=
  (log.emitted, { log with errors := 0, warnings := 0, emitted := [] })

end Log

end TriggerScript
