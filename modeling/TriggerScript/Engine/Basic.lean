import TriggerScript.Engine.Loading
import TriggerScript.World.Running
import TriggerScript.Vocabulary.BuiltIn

/-!
# The engine

* `Engine` : the loaded scripts and the world that their triggers run in.
* `Engine.loadSource`, `Engine.loadFile`, `Engine.loadFolder`, `Engine.reload` : load scripts.
* `Engine.unload`, `Engine.unloadAll` : take scripts out of use.
* `Engine.fire`, `Engine.tick` : pass on events and ticks.
-/

namespace TriggerScript

open TriggerScript.Flow

/-- The loaded scripts, ordered by name, and the world that their triggers run in. -/
structure Engine where
  world : World
  scripts : List LoadedScript
  deriving Inhabited

namespace Engine

/-- An engine without scripts. -/
def new (registry : Registry) (options : Options)
    (dice : Nat → Dice := fun _ => .constant 0) (stepLimit : Nat := ampleSteps) : Engine :=
  ⟨.new registry options dice stepLimit, []⟩

/-- An engine with the built-in vocabulary and the standard options. -/
def standard : Except Fault Engine :=
  Vocabulary.builtIn.map fun registry => .new registry .standard

def onWorld (e : Engine) (f : World → World) : Engine := { e with world := f e.world }

/-- The loaded script with a name. -/
def script? (e : Engine) (name : String) : Option LoadedScript :=
  e.scripts.find? (·.name == name)

/-- Puts a script where it belongs among scripts of other names. -/
def insertScript (s : LoadedScript) : List LoadedScript → List LoadedScript
  | [] => [s]
  | t :: rest =>
    if (Text.compareStrings t.name s.name).isLT then t :: insertScript s rest else s :: t :: rest

/-- Takes the triggers of a script out of use. -/
def retireScript (w : World) (s : LoadedScript) : World :=
  s.triggers.foldl World.retire w

/-- Puts a script that has been read to use, in place of one with the same name. -/
def install (e : Engine) (s : LoadedScript) : Engine :=
  let world := match e.script? s.name with
    | some previous => retireScript e.world previous
    | none => e.world
  { world := s.triggers.foldl World.activate world
    scripts := insertScript s (e.scripts.filter (·.name != s.name)) }

/-- Reads a script and puts it to use. -/
def load (e : Engine) (name source : String) (path : Option Path) : ScriptReport × Engine :=
  let (script, report, world) := readScript e.world name source
  (report, { e with world }.install { script with path })

/-- Loads a script from its text. -/
def loadSource (e : Engine) (name source : String) : ScriptReport × Engine :=
  e.load name source none

/-- Loads a script from a file. -/
def loadFile (e : Engine) (storage : Storage) (path : Path) (name : String) :
    Except Fault ScriptReport × Engine :=
  match storage.readText path with
  | .error fault => (.error fault, e)
  | .ok source =>
    let (report, e) := e.load name source (some path)
    (.ok report, e)

/-- The report about a script whose file cannot be read. -/
def unreadable (name : String) (fault : Fault) : ScriptReport :=
  ⟨name, 0, 1, 0, ["Could not read the file: " ++ fault.message]⟩

/-- Loads the files at some paths below a folder, under these paths as names. -/
def loadAll (storage : Storage) (folder : Path) : List Path → Engine → List ScriptReport × Engine
  | [], e => ([], e)
  | path :: rest, e =>
    let name := Path.text path
    let (loaded, e) := e.loadFile storage (folder ++ path) name
    let report := match loaded with
      | .ok report => report
      | .error fault => unreadable name fault
    let (reports, e) := loadAll storage folder rest e
    (report :: reports, e)

/-- Loads all scripts below a folder. Only a folder that cannot be listed is a failure. -/
def loadFolder (e : Engine) (storage : Storage) (folder : Path) :
    Except Fault LoadReport × Engine :=
  let options := e.world.realm.options
  match storage.scripts folder options.extension options.disabledStart with
  | .error fault => (.error fault, e)
  | .ok paths =>
    let (reports, e) := loadAll storage folder paths e
    (.ok ⟨reports⟩, e)

/-- Loads a script again from its file. -/
def reload (e : Engine) (storage : Storage) (name : String) :
    Except Fault ScriptReport × Engine :=
  match e.script? name with
  | none => (.error (.notFound ("script '" ++ name ++ "'")), e)
  | some script =>
    match script.path with
    | none => (.error (.notFound ("file of script '" ++ name ++ "'")), e)
    | some path => e.loadFile storage path name

/-- Takes a script out of use. -/
def unload (e : Engine) (name : String) : Except Fault Unit × Engine :=
  match e.script? name with
  | none => (.error (.notFound ("script '" ++ name ++ "'")), e)
  | some script =>
    (.ok (), ⟨retireScript e.world script, e.scripts.filter (·.name != name)⟩)

/-- Takes all scripts out of use. -/
def unloadAll (e : Engine) : Engine :=
  ⟨e.scripts.foldl retireScript e.world, []⟩

/-- Passes an event on; the result is the number of triggers that ran for it. -/
def fire (e : Engine) (event : Occurrence) : Nat × Engine :=
  let (n, world) := e.world.fire event
  (n, { e with world })

/-- Advances by one tick. -/
def tick (e : Engine) : Engine := e.onWorld World.tick

def scriptNames (e : Engine) : List String := e.scripts.map (·.name)

def triggerCount (e : Engine) : Nat := (e.scripts.flatMap (·.triggers)).length

end Engine

end TriggerScript
