/-!
# The written form of regular expressions

What a regular expression consists of as it is written, before its switches are applied.

* `Switch`, `Change` : the switches such as `i` in `(?i)`, and a part that turns some on or off.
* `SetItem`, `SetBody` : the sets of characters that escapes and brackets name.
* `Form` : the expressions.
* `Form.depth` : how deep an expression nests.
-/

namespace TriggerScript.Regex

/-- What can be switched on and off inside an expression. -/
inductive Switch where
  | ignoreCase
  | multiLine
  | dotAll
  | swapGreed
  | unicode
  | crlf
  | skipBlanks
  deriving DecidableEq, Repr

/-- The switches that a part of an expression turns on and off. -/
structure Change where
  on : List Switch
  off : List Switch
  deriving DecidableEq, Repr

/-- What a change says about a switch, if anything. -/
def Change.says? (change : Change) (s : Switch) : Option Bool :=
  if change.on.contains s then some true
  else if change.off.contains s then some false
  else none

/-- A character as it is written. `byte` holds of `\xNN`, which names a byte where characters
are not to be taken as such. -/
structure Letter where
  char : Char
  byte : Bool
  deriving DecidableEq, Repr

/-- The kinds of characters with an escape of their own. -/
inductive Kind where
  | digit
  | blank
  | word
  deriving DecidableEq, Repr

/-- The named sets of the basic alphabet. -/
inductive AsciiSet where
  | alnum | alpha | ascii | blank | cntrl | digit | graph | lower | print | punct | space | upper
  | word | xdigit
  deriving DecidableEq, Repr

/-- What a property escape asks for. -/
inductive Query where
  /-- A property, a category or a script by name. -/
  | named (name : List Char)
  /-- A property with a value. -/
  | valued (name value : List Char)
  deriving DecidableEq, Repr

/-- How two sets in brackets are put together. -/
inductive SetOperation where
  | both
  | without
  | either
  deriving DecidableEq, Repr

mutual

/-- A set of characters, or a part of one in brackets. `inside` is false of the opposites. -/
inductive SetItem where
  | range (first last : Letter)
  | ascii (name : AsciiSet) (inside : Bool)
  | kind (name : Kind) (inside : Bool)
  | property (query : Query) (inside : Bool)
  | bracket (body : SetBody) (inside : Bool)

/-- What stands between brackets. -/
inductive SetBody where
  | union (items : List SetItem)
  | operation (op : SetOperation) (left right : SetBody)

end

/-- Where a word begins, ends or does neither. -/
inductive WordPlace where
  | boundary
  | noBoundary
  | start
  | stop
  | startHalf
  | stopHalf
  deriving DecidableEq, Ord, Repr

/-- A demand on a place between characters. -/
inductive Anchor where
  /-- A caret. -/
  | lineStart
  /-- A dollar sign. -/
  | lineEnd
  | textStart
  | textEnd
  | word (place : WordPlace)
  deriving DecidableEq, Repr

/-- An expression as it is written. -/
inductive Form where
  | nothing
  | switches (change : Change)
  | letter (l : Letter)
  | dot
  | anchor (a : Anchor)
  | set (item : SetItem)
  /-- Repetitions are greedy unless marked, or the other way round if that is switched. -/
  | repeated (f : Form) (marked : Bool) (low : Nat) (high : Option Nat)
  /-- A group that is numbered has no change of switches. -/
  | group (change : Option Change) (f : Form)
  | sequence (fs : List Form)
  | choice (fs : List Form)

mutual

/-- How deep the brackets of an item nest. -/
def SetItem.depth : SetItem → Nat
  | .range _ _ => 0
  | .ascii _ _ => 0
  | .kind _ _ => 0
  | .property _ _ => 0
  | .bracket body _ => body.depth + 1

/-- How deep the contents of brackets nest; two items side by side are a level of their own. -/
def SetBody.depth : SetBody → Nat
  | .union items => SetItem.depths items + if items.length < 2 then 0 else 1
  | .operation _ left right => max left.depth right.depth + 1

/-- The depth of the deepest of several items. -/
def SetItem.depths : List SetItem → Nat
  | [] => 0
  | i :: rest => max i.depth (SetItem.depths rest)

end

namespace Form

/-- A sequence of any number of parts. -/
def ofParts : List Form → Form
  | [] => .nothing
  | [f] => f
  | fs => .sequence fs

/-- A choice between one or more parts. -/
def ofChoices : List Form → Form
  | [f] => f
  | fs => .choice fs

mutual

/-- How deep an expression nests. -/
def depth : Form → Nat
  | .nothing => 0
  | .switches _ => 0
  | .letter _ => 0
  | .dot => 0
  | .anchor _ => 0
  | .set item => item.depth
  | .repeated f _ _ _ => f.depth + 1
  | .group _ f => f.depth + 1
  | .sequence fs => depths fs + 1
  | .choice fs => depths fs + 1

/-- The depth of the deepest of several expressions. -/
def depths : List Form → Nat
  | [] => 0
  | f :: rest => max f.depth (depths rest)

end

end Form

end TriggerScript.Regex
