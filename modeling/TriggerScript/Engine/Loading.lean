import TriggerScript.Engine.OptionTable
import TriggerScript.Engine.Report
import TriggerScript.Outline.Reader
import TriggerScript.World.Basic
import TriggerScript.Engine.Storage

/-!
# Loading scripts

The top of a script holds triggers, and sections for options and for values of variables. What
cannot be read is reported and does not keep the rest from being loaded.

* `LoadedScript` : the triggers of a script.
* `Loading` : the state while a script is read.
* `readScript` : the triggers of a source text and the report about it.
-/

namespace TriggerScript

open TriggerScript.Parsing

/-- The triggers of a script. -/
structure LoadedScript where
  name : String
  /-- The file that it was read from. -/
  path : Option Path
  triggers : List Trigger
  deriving Inhabited

/-- The state while a script is read. -/
structure Loading where
  script : String
  world : World
  /-- The kinds of events of the trigger read last. -/
  events : List EventKind
  /-- Whether a delay may have happened at the end of the trigger read last. -/
  delay : Ternary
  triggers : List Trigger
  entries : List Entry

namespace Loading

/-- What is known at a line outside triggers. The kinds of events and the delay are those that the
trigger before has left. -/
def scope (s : Loading) (line : Nat) : Scope :=
  { system := s.world.realm.registry.system, events := s.events, loops := [], delay := s.delay,
    location := some ⟨s.script, line⟩, warnMissingAnd := s.world.realm.options.warnMissingAnd }

def note (s : Loading) (entries : List Entry) : Loading :=
  { s with entries := s.entries ++ entries }

/-- Reports an error in a line. -/
def complain (s : Loading) (line : Nat) (message : String) : Loading :=
  s.note [.error (some ⟨s.script, line⟩) message .semantic]

/-- The name between braces and the text that a line of a `variables:` section states. -/
def defaultOf? (key : String) : Option (List Char × List Char) :=
  match Text.cutAt? '=' key.toList with
  | none => none
  | some (name, value) =>
    match (Text.after? ['\x7b'] (Text.trim name)).bind (Text.before? ['\x7d']) with
    | none => none
    | some name =>
      if name.isEmpty || name.contains '%' then none else some (name, Text.trim value)

/-- Gives a variable a value unless it has one, as a line of a `variables:` section says. -/
def readDefault (s : Loading) (node : Node) : Loading :=
  match defaultOf? node.key with
  | none =>
    s.complain node.line
      ("Invalid variable default '" ++ node.key ++ "'; use '\x7bname\x7d = value'")
  | some (name, value) =>
    let shown := String.ofList name
    let source := String.ofList value
    if name.head? == some '_' then
      s.complain node.line ("'\x7b" ++ shown ++ "\x7d' is a local variable and can't have a default")
    else
      let parsed := parseExpression s.world.realm.registry (s.scope node.line) source
        (.one [objectType])
      let s := s.note parsed.entries
      match parsed.result with
      | none => s
      | some e =>
        match e.constants?.bind List.head? with
        | some v =>
          { s with world := s.world.onRealm fun r => { r with
              globals := (r.globals.setDefault shown v).2 } }
        | none =>
          s.complain node.line ("The default of \x7b" ++ shown ++
            "\x7d must be a constant, not '" ++ source ++ "'")

/-- Reads a trigger. -/
def readTrigger (s : Loading) (line : Nat) (key : String) (children : List Node) : Loading :=
  let parsed := parseHeader s.world.realm.registry (s.scope line) key
  let s := s.note parsed.entries
  match parsed.result with
  | none => s
  | some header =>
    if children.isEmpty then s.complain line ("Empty trigger: '" ++ key ++ "'")
    else
      let body := readBody (.ofRegistry s.world.realm.registry)
        { system := s.world.realm.registry.system, script := s.script, events := header.kinds,
          loops := [], warnMissingAnd := s.world.realm.options.warnMissingAnd } .no children
      let s := { s.note body.entries with events := header.kinds, delay := body.delay }
      let (id, counter) := s.world.realm.triggerIds.draw TriggerId.limit
      let s := { s with world := s.world.onRealm fun r => { r with triggerIds := counter } }
      match id with
      | none => s.complain line "Too many triggers have been loaded"
      | some n =>
        let trigger : Trigger := ⟨⟨n⟩, ⟨s.script, line⟩, header.header, header.kinds, body.graph⟩
        { s with triggers := s.triggers ++ [trigger] }

/-- Reads a node at the top of a script. -/
def readTop (s : Loading) (node : Node) : Loading :=
  match node with
  | .entry line key =>
    s.complain line ("'" ++ key ++ "' must be inside a trigger, e.g. 'on load:'")
  | .heading line key children =>
    if isSection "variables" node then children.foldl readDefault s
    else s.readTrigger line key children

end Loading

/-- The errors about lines whose indentation fits nowhere. -/
def outlineEntries (script : String) (errors : List OutlineError) : List Entry :=
  errors.map fun e => .error (some ⟨script, e.line⟩) e.message .semantic

/-- Reads the options that all `options:` sections state, wherever they stand. -/
def collectOptions (script : String) (nodes : List Node) : OptionTable × List Entry :=
  (nodes.filter (isSection "options")).foldl (fun (table, entries) node =>
    let (table, more) := readOptions script node.children table
    (table, entries ++ more)) ([], [])

/-- Reads a script. Values of variables take effect at once; the triggers are not yet in use. -/
def readScript (w : World) (name source : String) : LoadedScript × ScriptReport × World :=
  let (nodes, errors) := readOutline source
  let (table, optionEntries) := collectOptions name nodes
  let (nodes, useEntries) :=
    substituteNodes table name (nodes.filter fun node => !isSection "options" node)
  let start : Loading :=
    { script := name, world := w, events := [], delay := .no, triggers := []
      entries := outlineEntries name errors ++ optionEntries ++ useEntries }
  let s := nodes.foldl Loading.readTop start
  (⟨name, none, s.triggers⟩, .ofEntries name s.triggers.length s.entries, s.world)

end TriggerScript
