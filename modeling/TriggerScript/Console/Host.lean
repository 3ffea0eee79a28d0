import TriggerScript.Vocabulary.Chat
import TriggerScript.Engine.Basic
import TriggerScript.Engine.Report
import TriggerScript.Engine.Settings

/-!
# The console host

A host whose players are names typed on a console. Everything it does is a function of its
state, the stored files and the lines typed; what it has to say is handed back as lines.

* `Command` : what the operator can ask for.
* `Input`, `readInput` : what a typed line is: a command, something said, or neither.
* `Host`, `Line` : the state of the host, and what it prints or warns about.
* `Host.start` : sets the engine up and loads all scripts.
* `Host.handle` : does what a typed line asks for.
* `Host.tick` : advances by one tick.
-/

namespace TriggerScript.Console

/-! ### What is typed -/

/-- What the operator can ask for. -/
inductive Command where
  /-- Loads one script again, or all of them. -/
  | reload (name : Option String)
  | unload (name : String)
  | scripts
  | quit
  deriving DecidableEq, Repr, Inhabited

/-- What a typed line is. -/
inductive Input where
  | nothing
  | command (c : Command)
  | chat (player message : String)
  | unknownCommand
  | unclear
  deriving DecidableEq, Repr, Inhabited

/-- The words of a text whose first word begins with `word`, which is given in reverse. -/
def wordsAfter (word : List Char) : List Char → List (List Char)
  | [] => if word.isEmpty then [] else [word.reverse]
  | c :: rest =>
    if Text.isBlank c then
      if word.isEmpty then wordsAfter [] rest else word.reverse :: wordsAfter [] rest
    else wordsAfter (c :: word) rest

/-- The words of a text. -/
def words (cs : List Char) : List String :=
  (wordsAfter [] cs).map String.ofList

/-- The command that some words state. Of the words behind the first only one counts. -/
def command? : List String → Option Command
  | ["scripts"] => some .scripts
  | ["quit"] => some .quit
  | ["reload"] => some (.reload none)
  | "reload" :: name :: _ => some (.reload (some name))
  | "unload" :: name :: _ => some (.unload name)
  | _ => none

/-- What a line is. -/
def readInput (line : String) : Input :=
  match Text.trim line.toList with
  | [] => .nothing
  | '/' :: rest =>
    match command? (words rest) with
    | some c => .command c
    | none => .unknownCommand
  | cs =>
    match Vocabulary.chatLine? (String.ofList cs) with
    | some (player, message) => .chat player message
    | none => .unclear

/-! ### The host -/

/-- Something the host has to say. -/
inductive Line where
  | print (text : String)
  | warn (text : String)
  deriving DecidableEq, Repr, Inhabited

/-- The engine and how it was set up. -/
structure Host where
  engine : Engine
  settings : Settings
  /-- Whether the operator has asked to stop. -/
  stopped : Bool
  deriving Inhabited

namespace Host

/-- What the engine has said and reported since an earlier state. -/
def news (before after : Engine) : List Line :=
  let old := before.world.realm
  let new := after.world.realm
  (new.broadcasts.reverse.drop old.broadcasts.length).map (fun s => .print ("[broadcast] " ++ s)) ++
    (new.reports.reverse.drop old.reports.length).map .warn

/-- Changes the engine; what it says follows the given lines. -/
def withEngine (host : Host) (engine : Engine) (lines : List Line) :
    List Line × Host :=
  (news host.engine engine ++ lines, { host with engine })

/-- A report in the chosen format. -/
def reportLine (settings : Settings) (r : LoadReport) : Line :=
  match settings.reportFormat with
  | .text => .print (Text.trimString r.text)
  | .json => .print r.json

/-- Loads all scripts. -/
def loadAll (host : Host) (storage : Storage) : List Line × Host :=
  let folder := host.settings.scriptsFolder
  match host.engine.loadFolder storage (Path.ofString folder) with
  | (.ok r, engine) => host.withEngine engine [reportLine host.settings r]
  | (.error fault, engine) =>
    host.withEngine engine
      [.warn ("Could not load scripts from " ++ folder ++ ": " ++ fault.message)]

/-- Does what a command asks for. -/
def obey (host : Host) (storage : Storage) : Command → List Line × Host
  | .reload none => { host with engine := host.engine.unloadAll }.loadAll storage
  | .reload (some name) =>
    match host.engine.reload storage name with
    | (.ok r, engine) => host.withEngine engine [reportLine host.settings ⟨[r]⟩]
    | (.error fault, engine) =>
      host.withEngine engine [.warn ("Can't reload '" ++ name ++ "': " ++ fault.message)]
  | .unload name =>
    match host.engine.unload name with
    | (.ok (), engine) => host.withEngine engine []
    | (.error fault, engine) =>
      host.withEngine engine [.warn ("Can't unload '" ++ name ++ "': " ++ fault.message)]
  | .scripts =>
    (host.engine.scriptNames.map (fun name => .print ("  " ++ name)) ++
      [.print (toString host.engine.triggerCount ++ " trigger(s) loaded")], host)
  | .quit => ([], { host with stopped := true })

/-- Lets the engine know that a player has said something. -/
def say (host : Host) (player message : String) : List Line × Host :=
  let (id, world) := host.engine.world.drawEvent
  let (_, engine) := { host.engine with world }.fire (Vocabulary.chatEvent id player message)
  host.withEngine engine []

/-- Does what a typed line asks for. -/
def handle (host : Host) (storage : Storage) (line : String) : List Line × Host :=
  match readInput line with
  | .nothing => ([], host)
  | .command c => host.obey storage c
  | .chat player message => host.say player message
  | .unknownCommand => ([.warn ("Unknown command: " ++ Text.trimString line)], host)
  | .unclear =>
    ([.warn ("Expected 'name: message', got '" ++ Text.trimString line ++ "'")], host)

/-- Advances by one tick. -/
def tick (host : Host) : List Line × Host :=
  host.withEngine host.engine.tick []

/-- Sets the engine up and loads all scripts. Settings that cannot be read count as not set. -/
def start (storage : Storage) (dice : Nat → Dice) : Except Fault (List Line × Host) := do
  let (settings, complaints) : Settings × List Line :=
    match Settings.load storage Settings.standardPath with
    | .ok settings => (settings, [])
    | .error fault =>
      (.standard, [.warn ("Failed to load engine options: " ++ fault.message),
        .warn "Using default configuration"])
  let registry ← Vocabulary.chatRegistry
  let host : Host := ⟨.new registry settings.options dice, settings, false⟩
  let (lines, host) := host.loadAll storage
  pure (complaints ++ settings.summary.map .print ++ lines ++
    [.print ("Ticking every " ++ toString settings.tick ++ " ms; type 'name: message' to chat")],
    host)

/-- What is said at the end. -/
def farewell (host : Host) : List Line :=
  [.print (toString host.engine.world.realm.failures ++
    " trigger execution(s) failed during this run")]

end Host

end TriggerScript.Console
