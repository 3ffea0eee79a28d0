import TriggerScript.Outline.Node
import TriggerScript.Text.Cut

/-!
# Reading outlines

A line that ends in a colon is a heading; the following lines with deeper indentation stand
below it. The first of them fixes the indentation of all. A `#` starts a comment, and `##` is a
`#` of the text.

* `stripComment` : a line without its comment.
* `Reader`, `Reader.readLine` : the headings that are still open, and what a line does to them.
* `readOutline` : the nodes of a source text and the lines whose indentation fits nowhere.
-/

namespace TriggerScript

/-- A line that was left out, and why. -/
structure OutlineError where
  line : Nat
  message : String
  deriving DecidableEq, Repr, Inhabited

/-- A line up to its comment, with doubled marks made single. -/
@[grind =]
def uncomment : List Char → List Char
  | '#' :: '#' :: rest => '#' :: uncomment rest
  | '#' :: _ => []
  | c :: rest => c :: uncomment rest
  | [] => []

/-- A line without its comment and the blanks at its end. -/
def stripComment (cs : List Char) : List Char :=
  Text.trimEnd (uncomment cs)

/-- An indentation in words. -/
def describeIndent (indent : List Char) : String :=
  let count := indent.length
  let tabs := indent.countP (· == '\t')
  let ending := if count == 1 then "" else "s"
  if count = 0 then "no indentation"
  else if tabs = 0 then toString count ++ " space" ++ ending
  else if tabs = count then toString count ++ " tab" ++ ending
  else toString count ++ " mixed whitespace characters"

/-- A heading whose lines are being read. Its nodes so far are in reverse. -/
structure Level where
  indent : List Char
  line : Nat
  key : String
  nodes : List Node
  deriving Inhabited

/-- The heading as a node. -/
def Level.toNode (level : Level) : Node :=
  .heading level.line level.key level.nodes.reverse

/-- The state between two lines: the open headings, innermost first, the nodes at the top in
reverse, and the heading just read, for which no indentation is known yet. -/
structure Reader where
  levels : List Level
  top : List Node
  pending : Option (Nat × String)
  errors : List OutlineError
  deriving Inhabited

namespace Reader

def empty : Reader := ⟨[], [], none, []⟩

/-- The indentation of the innermost open heading. -/
def indent (r : Reader) : List Char :=
  match r.levels with
  | level :: _ => level.indent
  | [] => []

/-- Adds a node where lines go now. -/
def put (r : Reader) (node : Node) : Reader :=
  match r.levels with
  | level :: outer => { r with levels := { level with nodes := node :: level.nodes } :: outer }
  | [] => { r with top := node :: r.top }

/-- Ends the heading just read, which has no lines of its own. -/
def closePending (r : Reader) : Reader :=
  match r.pending with
  | some (line, key) => { r with pending := none }.put (.heading line key [])
  | none => r

/-- Lets a line with this indentation decide whether it stands below the heading just read. -/
def settle (r : Reader) (indent : List Char) : Reader :=
  match r.pending with
  | none => r
  | some (line, key) =>
    if r.indent.isPrefixOf indent && r.indent.length < indent.length then
      { r with pending := none, levels := ⟨indent, line, key, []⟩ :: r.levels }
    else r.closePending

/-- Ends the innermost heading. -/
def closeOne (r : Reader) : Reader :=
  match r.levels with
  | level :: outer => { r with levels := outer }.put level.toNode
  | [] => r

/-- Ends the given number of headings. -/
def closeMany : Nat → Reader → Reader
  | 0, r => r
  | n + 1, r => closeMany n r.closeOne

/-- How many headings end before one with the given indentation is reached; none if there is no
such heading and the top does not fit either. -/
def depthOf? (indent : List Char) : List Level → Option Nat
  | [] => if indent.isEmpty then some 0 else none
  | level :: outer =>
    if level.indent == indent then some 0 else (depthOf? indent outer).map (· + 1)

/-- Reads one line. -/
def readLine (r : Reader) (line : Nat) (raw : List Char) : Reader :=
  let text := stripComment raw
  let content := Text.trim text
  if content.isEmpty then r
  else
    let indent := text.takeWhile Text.isBlank
    let r := r.settle indent
    match depthOf? indent r.levels with
    | none =>
      let message := "indentation error: expected " ++ describeIndent r.indent ++ ", found " ++
        describeIndent indent
      { r with errors := ⟨line, message⟩ :: r.errors }
    | some depth =>
      let r := closeMany depth r
      match Text.before? [':'] content with
      | some key => { r with pending := some (line, String.ofList (Text.trimEnd key)) }
      | none => r.put (.entry line (String.ofList content))

/-- Reads lines, the first of which has the given number. -/
def readLines (r : Reader) (line : Nat) : List (List Char) → Reader
  | [] => r
  | raw :: rest => (r.readLine line raw).readLines (line + 1) rest

/-- Ends all headings. -/
def finish (r : Reader) : List Node × List OutlineError :=
  let r := r.closePending
  let r := closeMany r.levels.length r
  (r.top.reverse, r.errors.reverse)

end Reader

/-- The nodes of a source text, and the lines left out of them. -/
def readOutline (source : String) : List Node × List OutlineError :=
  (Reader.empty.readLines 1 (Text.lines source.toList)).finish

end TriggerScript
