import TriggerScript.Decimal.Shortest

/-!
# What can go wrong

* `Fault` : the causes for which an operation of the engine fails, and their messages.
* `ServiceFault` : the coarser causes that a host of the engine tells apart.
* `spanText` : a span of time in its largest fitting unit.
-/

namespace TriggerScript

/-- A span of milliseconds in seconds, milliseconds or nanoseconds. -/
def spanText (milliseconds : Nat) : String :=
  if 1000 ≤ milliseconds then
    String.ofList (Decimal.place milliseconds (-3)) ++ "s"
  else if 0 < milliseconds then toString milliseconds ++ "ms"
  else "0ns"

/-- Why an operation failed. -/
inductive Fault where
  /-- A pattern is not well formed. -/
  | pattern (source message : String)
  /-- A type or an element cannot be registered. -/
  | registration (message : String)
  /-- A running trigger met a value that it cannot work with. -/
  | runtime (message : String)
  /-- A script element gave up; the message stands for itself. -/
  | abandoned (message : String)
  /-- A script file cannot be read. -/
  | file (message : String)
  /-- No such script is loaded. -/
  | notFound (what : String)
  /-- The main thread did not take over in time. -/
  | handoffTimeout (milliseconds : Nat)
  deriving DecidableEq, Repr, Inhabited

def Fault.message : Fault → String
  | .pattern source message => "Invalid pattern '" ++ source ++ "': " ++ message
  | .registration message => "Registration error: " ++ message
  | .runtime message => "Runtime error: " ++ message
  | .abandoned message => message
  | .file message => "File error: " ++ message
  | .notFound what => "Script not found: " ++ what
  | .handoffTimeout wait => "Main thread did not respond within " ++ spanText wait

/-- The name of the cause in data. -/
def Fault.name : Fault → String
  | .pattern _ _ => "Pattern"
  | .registration _ => "Registration"
  | .runtime _ => "RuntimeError"
  | .abandoned _ => "RuntimeError"
  | .file _ => "FileError"
  | .notFound _ => "NotFound"
  | .handoffTimeout _ => "SyncTimeout"

/-- The causes of failure that a host tells apart. -/
inductive ServiceFault where
  | script (message : String)
  | registration (message : String)
  | input (message : String)
  | settings (message : String)
  | notFound (what : String)
  deriving DecidableEq, Repr, Inhabited

def ServiceFault.message : ServiceFault → String
  | .script message => "Script error: " ++ message
  | .registration message => "Registration error: " ++ message
  | .input message => "IO error: " ++ message
  | .settings message => "Configuration error: " ++ message
  | .notFound what => "Not found: " ++ what

/-- The name of the cause in data. -/
def ServiceFault.name : ServiceFault → String
  | .script _ => "Script"
  | .registration _ => "Registration"
  | .input _ => "Io"
  | .settings _ => "Config"
  | .notFound _ => "NotFound"

/-- What a host makes of a failure of the engine. -/
def Fault.toService : Fault → ServiceFault
  | .file message => .input message
  | .registration message => .registration message
  | .notFound what => .notFound what
  | fault => .script fault.message

end TriggerScript
