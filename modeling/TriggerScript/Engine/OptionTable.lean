import TriggerScript.Outline.Node
import TriggerScript.Diagnostics.Log
import TriggerScript.Text.Cut
import TriggerScript.Text.LetterCase

/-!
# Options of a script

A script can name texts in `options:` sections and use them as `{@name}` everywhere else.

* `OptionTable`, `readOptions` : the named texts, and how a section states them.
* `substitute` : a text with all uses replaced, and the uses without a definition.
* `substituteNode` : the same for a node and everything below it.
-/

namespace TriggerScript

/-- Named texts; later definitions come first. -/
abbrev OptionTable := List (String × String)

/-- Whether a node is the heading of a section, in any letter case. -/
def isSection (name : String) (node : Node) : Bool :=
  node.isHeading && Text.sameAscii node.key.toList name.toList

/-- The name and the text that a line of an `options:` section states. -/
def optionOf? : Node → Option (String × String)
  | .heading _ _ _ => none
  | .entry _ key =>
    match Text.cutAt? ':' key.toList with
    | some (name, value) =>
      let name := Text.trim name
      if name.isEmpty then none
      else some (String.ofList name, String.ofList (Text.trim value))
    | none => none

/-- Adds what the lines of an `options:` section state, and reports the others. -/
def readOptions (script : String) (nodes : List Node) (table : OptionTable) :
    OptionTable × List Entry :=
  nodes.foldl (fun (table, entries) node =>
    match optionOf? node with
    | some option => (option :: table, entries)
    | none =>
      (table, entries ++ [.error (some ⟨script, node.line⟩)
        ("Invalid option '" ++ node.key ++ "'; options look like 'name: value'") .semantic]))
    (table, [])

/-- The text before the first `{@`, and the text behind it. -/
def cutUse? : List Char → Option (List Char × List Char)
  | '\x7b' :: '@' :: rest => some ([], rest)
  | c :: rest => (cutUse? rest).map fun r => (c :: r.1, r.2)
  | [] => none

theorem cutUse?_length {cs before after : List Char} (h : cutUse? cs = some (before, after)) :
    after.length < cs.length := by
  induction cs using cutUse?.induct generalizing before after with
  | case1 rest =>
    simp only [cutUse?, Option.some.injEq, Prod.mk.injEq] at h
    rw [← h.2]
    simp only [List.length_cons]
    omega
  | case2 c rest hne ih =>
    rw [cutUse?] at h
    · obtain ⟨r, hr, he⟩ := Option.map_eq_some_iff.1 h
      cases he
      have := ih hr
      simp only [List.length_cons]
      omega
    · exact hne
  | case3 => simp [cutUse?] at h

theorem cutAt?_length {mark : Char} {cs before after : List Char}
    (h : Text.cutAt? mark cs = some (before, after)) : after.length < cs.length := by
  induction cs generalizing before after with
  | nil => simp [Text.cutAt?] at h
  | cons c rest ih =>
    rw [Text.cutAt?] at h
    split at h
    · cases h; simp
    · obtain ⟨r, hr, he⟩ := Option.map_eq_some_iff.1 h
      cases he
      have := ih hr
      simp only [List.length_cons]
      omega

/-- A text with the uses of options replaced, and the names that are used without a definition.
What is put in is not looked through again. -/
def substituteChars (table : OptionTable) (cs : List Char) : List Char × List String :=
  match hu : cutUse? cs with
  | none => (cs, [])
  | some (before, rest) =>
    match hc : Text.cutAt? '\x7d' rest with
    | none => (cs, [])
    | some (name, after) =>
      have := cutUse?_length hu
      have := cutAt?_length hc
      let (tail, unknown) := substituteChars table after
      match table.lookup (String.ofList name) with
      | some value => (before ++ value.toList ++ tail, unknown)
      | none =>
        (before ++ '\x7b' :: '@' :: name ++ '\x7d' :: tail, String.ofList name :: unknown)
  termination_by cs.length

/-- A text of a line with the uses of options replaced, and the errors about unknown ones. -/
def substitute (table : OptionTable) (location : Location) (text : String) :
    String × List Entry :=
  let (cs, unknown) := substituteChars table text.toList
  (String.ofList cs, unknown.map fun name =>
    .error (some location) ("undefined option \x7b@" ++ name ++ "\x7d") .semantic)

mutual

/-- A node with the uses of options replaced in it and below it. -/
def substituteNode (table : OptionTable) (script : String) : Node → Node × List Entry
  | .entry line key =>
    let (key, entries) := substitute table ⟨script, line⟩ key
    (.entry line key, entries)
  | .heading line key children =>
    let (key, entries) := substitute table ⟨script, line⟩ key
    let (children, more) := substituteNodes table script children
    (.heading line key children, entries ++ more)

/-- Nodes with the uses of options replaced. -/
def substituteNodes (table : OptionTable) (script : String) : List Node → List Node × List Entry
  | [] => ([], [])
  | node :: rest =>
    let (node, entries) := substituteNode table script node
    let (rest, more) := substituteNodes table script rest
    (node :: rest, entries ++ more)

end

end TriggerScript
