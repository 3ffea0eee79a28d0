import TriggerScript.Regex.Normal
import TriggerScript.Regex.Query
import TriggerScript.Text.Property

/-!
# What written expressions stand for

The switches in force decide what a part stands for. Where characters are taken as bytes, an
expression that could match a part of a character is refused.

* `foldings` : the characters that fold to another one, with what they fold to.
* `closeCase` : a set with all characters that are one letter with some of its own.
* `Modes` : the switches in force.
* `SetItem.set?` : the characters that a set stands for.
* `Form.expr?` : the expression that a written one stands for.
-/

namespace TriggerScript.Regex

open TriggerScript.Text

/-! ### Letter case -/

/-- Code points and what they fold to, where it is something else. Most fold to their lowercase;
characters of the latest edition of the character standard do not fold. -/
def foldings : List (Nat × Nat) :=
  let apart := CodeSet.ofCodes (foldRuns.flatMap CaseRun.codes)
  let lowered := CodeSet.lowercasing.filter fun p => !apart.containsCode p.1
  (foldRuns.flatMap CaseRun.pairs ++ lowered).filter fun p => p.1 != p.2

/-- The set with all characters that fold to the same as one of its own. -/
def closeCase (s : CodeSet) : CodeSet :=
  let targets := CodeSet.ofCodes
    ((foldings.filter fun p => s.containsCode p.1 || s.containsCode p.2).map (·.2))
  let sources := (foldings.filter fun p => targets.containsCode p.2).map (·.1)
  .unions [s, targets, .ofCodes sources]

/-! ### Switches -/

/-- The switches in force. -/
structure Modes where
  ignoreCase : Bool
  multiLine : Bool
  dotAll : Bool
  swapGreed : Bool
  unicode : Bool
  crlf : Bool
  deriving DecidableEq, Repr

namespace Modes

/-- The switches at the start of an expression. -/
def standard : Modes := ⟨false, false, false, false, true, false⟩

/-- The switches behind a change. -/
def change (m : Modes) (c : Change) : Modes where
  ignoreCase := (c.says? .ignoreCase).getD m.ignoreCase
  multiLine := (c.says? .multiLine).getD m.multiLine
  dotAll := (c.says? .dotAll).getD m.dotAll
  swapGreed := (c.says? .swapGreed).getD m.swapGreed
  unicode := (c.says? .unicode).getD m.unicode
  crlf := (c.says? .crlf).getD m.crlf

/-- The characters that are one letter with some of a set, if case does not count. -/
def fold (m : Modes) (s : CodeSet) : CodeSet :=
  if !m.ignoreCase then s
  else if m.unicode then closeCase s
  else .union s ((closeCase (s.inter AsciiSet.ascii.set)).inter AsciiSet.ascii.set)

/-- A set or its opposite. An opposite holds more than bytes of the basic alphabet. -/
def turn? (m : Modes) (inside : Bool) (s : CodeSet) : Option CodeSet :=
  if inside then some s else if m.unicode then some s.compl else none

/-- A character outside of brackets. -/
def letter? (m : Modes) (l : Letter) : Option CodeSet :=
  if m.unicode || !l.byte || l.char.toNat < 128 then some (m.fold (.single l.char)) else none

/-- Whether a character may stand in brackets. -/
def admits (m : Modes) (l : Letter) : Bool :=
  m.unicode || l.char.toNat < 128

/-- Any character but the ends of lines. -/
def dot? (m : Modes) : Option CodeSet :=
  if !m.unicode then none
  else if m.dotAll then some (.compl .empty)
  else if m.crlf then some (CodeSet.compl (.ofCodes [0x0A, 0x0D]))
  else some (CodeSet.single '\n').compl

/-- The demand on a place that an anchor stands for. -/
def place (m : Modes) : Anchor → Place
  | .lineStart => if !m.multiLine then .textStart else if m.crlf then .crlfStart else .lineStart
  | .lineEnd => if !m.multiLine then .textEnd else if m.crlf then .crlfEnd else .lineEnd
  | .textStart => .textStart
  | .textEnd => .textEnd
  | .word place => .word place !m.unicode

end Modes

/-- Two sets put together. -/
def SetOperation.apply (op : SetOperation) (s t : CodeSet) : CodeSet :=
  match op with
  | .both => s.inter t
  | .without => s.diff t
  | .either => s.symmDiff t

mutual

/-- The characters that an item stands for. -/
def SetItem.set? (m : Modes) : SetItem → Option CodeSet
  | .range first last =>
    if m.admits first && m.admits last then some (.range first.char.toNat last.char.toNat)
    else none
  | .ascii name inside => m.turn? inside (m.fold name.set)
  | .kind name inside => m.turn? inside (if m.unicode then name.set else name.asciiSet)
  | .property query inside =>
    if m.unicode then query.set?.bind fun s => m.turn? inside (m.fold s) else none
  | .bracket body inside => (body.set? m).bind fun s => m.turn? inside (m.fold s)

/-- The characters that the contents of brackets stand for. -/
def SetBody.set? (m : Modes) : SetBody → Option CodeSet
  | .union items => (SetItem.sets? m items).map .unions
  | .operation op left right =>
    match left.set? m, right.set? m with
    | some s, some t => some (op.apply (m.fold s) (m.fold t))
    | _, _ => none

/-- The characters that each of several items stands for. -/
def SetItem.sets? (m : Modes) : List SetItem → Option (List CodeSet)
  | [] => some []
  | i :: rest =>
    match i.set? m, SetItem.sets? m rest with
    | some s, some sets => some (s :: sets)
    | _, _ => none

end

namespace Form

mutual

/-- The expression that a written one stands for, with the switches in force behind it. -/
def exprFrom? (m : Modes) : Form → Option (Expr CharSet × Modes)
  | .nothing => some (.empty, m)
  | .switches change => some (.empty, m.change change)
  | .letter l => (m.letter? l).map fun s => (.ofSet (!m.unicode) s, m)
  | .dot => m.dot?.map fun s => (.ofSet (!m.unicode) s, m)
  | .anchor a => some (.place (m.place a), m)
  | .set item => (item.set? m).map fun s => (.ofSet (!m.unicode) s, m)
  | .repeated f marked low high =>
    (exprFrom? m f).map fun r => (r.1.times (marked == m.swapGreed) low high, r.2)
  | .group (some change) f => (exprFrom? (m.change change) f).map fun r => (r.1, m)
  | .group none f => (exprFrom? m f).map fun r => (.group r.1, m)
  | .sequence fs => (exprsFrom? m fs).map fun r => (.sequence r.1, r.2)
  | .choice fs => (exprsFrom? m fs).map fun r => (.choice r.1, r.2)

/-- The expressions that several written ones stand for; each passes its switches on. -/
def exprsFrom? (m : Modes) : List Form → Option (List (Expr CharSet) × Modes)
  | [] => some ([], m)
  | f :: rest =>
    match exprFrom? m f with
    | none => none
    | some (r, m) => (exprsFrom? m rest).map fun more => (r :: more.1, more.2)

end

/-- The expression that a written one stands for. -/
def expr? (f : Form) : Option (Expr CharSet) :=
  (exprFrom? .standard f).map (·.1)

end Form

end TriggerScript.Regex
