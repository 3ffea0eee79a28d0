import TriggerScript.Regex.Normal
import TriggerScript.Regex.Tally

/-!
# The size of expressions

An expression is matched by an automaton over bytes. One whose automaton would take too much room
is refused; counted repetitions take the room of all their rounds.

* `Expr.build` : the states of an expression.
* `Expr.tally` : the states of an expression with those around it.
* `Expr.fits` : whether they take no more room than there is, read forward and backward.
-/

namespace TriggerScript.Regex

open TriggerScript.Text

/-- Whether texts are read from the first or from the last byte on. -/
inductive Direction where
  | forward
  | backward
  deriving DecidableEq, Repr

/-- The bytes of a text. -/
def bytesOf (cs : List Char) : List UInt8 :=
  cs.flatMap String.utf8EncodeChar

/-- Where an expression stands in a choice. -/
inductive Turn where
  | first
  | second
  | later
  deriving DecidableEq, Repr

/-- The turn of what follows in a choice. -/
def Turn.next : Turn → Turn
  | .first => .second
  | _ => .later

/-- With what a choice takes once the part whose turn it is has been built. There is a choice as
soon as there are two parts. -/
def Turn.settle (turn : Turn) (t : Tally) : Tally :=
  match turn with
  | .first => t
  | .second => (t.addFork 2).add 1
  | .later => { t with extra := t.extra + forkRoom }

namespace Tally

/-- With the states that read one character of a set. -/
def addSet (d : Direction) (s : CodeSet) (t : Tally) : Tally :=
  if t.isOver then t
  else if s.below 128 then (t.add 1).addRanges s.runs.length
  else
    match d with
    | .forward => t.forwardSet s
    | .backward => t.backwardSet s

/-- With a state that has two ways on. -/
def addSplit (t : Tally) : Tally := t.addFork 2

/-- Takes a step `n` times, as long as there is room. -/
def rounds (step : Tally → Tally) : Nat → Tally → Tally
  | 0, t => t
  | n + 1, t => if t.isOver then t else rounds step n (step t)

/-- With exactly `n` rounds; no rounds are a state too. -/
def exactly (step : Tally → Tally) (n : Nat) (t : Tally) : Tally :=
  if n == 0 then t.add 1 else rounds step n t

/-- With a repetition of what `step` builds; `reads` holds of what reads at least one byte. -/
def repeated (step : Tally → Tally) (reads : Bool) (low : Nat) (high : Option Nat) (t : Tally) :
    Tally :=
  match high with
  | none =>
    if low == 0 then
      if reads then step t.addSplit else (step t).addSplit.addSplit.add 1
    else (rounds step low t).addSplit
  | some high =>
    if low == 0 && high == 1 then (step t.addSplit).add 1
    else if low == high then exactly step low t
    else rounds (fun t => step t.addSplit) (high - low) ((exactly step low t).add 1)

end Tally

namespace Expr

/-- Whether nothing can match because of an empty set. -/
def isBlocked : Expr CharSet → Bool
  | .empty => false
  | .text _ => false
  | .one s => s.codes.isEmpty
  | .place _ => false
  | .group r => r.isBlocked
  | .seq r s => r.isBlocked || s.isBlocked
  | .alt r s => r.isBlocked || s.isBlocked
  | .rep r _ _ _ => r.isBlocked

/-- The texts of a choice between nothing but texts. -/
def texts? : Expr CharSet → Option (List (List Char))
  | .text cs => some [cs]
  | .alt r s =>
    match r.texts?, s.texts? with
    | some cs, some ds => some (cs ++ ds)
    | _, _ => none
  | _ => none

/-- The bytes of texts in the order in which they are read. -/
def wordsOf (d : Direction) (texts : List (List Char)) : List (List UInt8) :=
  texts.map fun cs =>
    match d with
    | .forward => bytesOf cs
    | .backward => (bytesOf cs).reverse

/-- With the states of an expression. The groups are only kept apart when reading forward. -/
def build (d : Direction) (turn : Turn) : Expr CharSet → Tally → Tally
  | .empty, t => turn.settle (t.add 1)
  | .text cs, t => turn.settle (t.add (bytesOf cs).length)
  | .one s, t => turn.settle (t.addSet d s.codes)
  | .place _, t => turn.settle (t.add 1)
  | .group r, t =>
    match d with
    | .forward => turn.settle ((r.build d .first (t.add 1)).add 1)
    | .backward => turn.settle (r.build d .first t)
  | .seq r s, t =>
    match d with
    | .forward => turn.settle (s.build d .first (r.build d .first t))
    | .backward => turn.settle (r.build d .first (s.build d .first t))
  | .alt r s, t =>
    match turn, (Expr.alt r s).texts? with
    | .first, some texts => t.words (wordsOf d texts)
    | _, _ => s.build d turn.next (turn.settle (r.build d .first t))
  | .rep r _ low high, t =>
    turn.settle (t.repeated (r.build d .first) (!(r.mayBeEmpty || r.isBlocked)) low high)

/-- Whether every match begins at the start of the text. -/
def startsText {σ : Type} : Expr σ → Bool
  | .empty => false
  | .text _ => false
  | .one _ => false
  | .place p => p == .textStart
  | .group r => r.startsText
  | .seq r s => r.startsText || (r.isEmptyOnly && s.startsText)
  | .alt r s => r.startsText && s.startsText
  | .rep r _ low _ => low != 0 && r.startsText

/-- Whether every match stops at the end of the text. -/
def stopsText {σ : Type} : Expr σ → Bool
  | .empty => false
  | .text _ => false
  | .one _ => false
  | .place p => p == .textEnd
  | .group r => r.stopsText
  | .seq r s => s.stopsText || (s.isEmptyOnly && r.stopsText)
  | .alt r s => r.stopsText && s.stopsText
  | .rep r _ low _ => low != 0 && r.stopsText

/-- The states in front of an expression: just one, or what it takes to begin at any place. -/
def entrance (anchored : Bool) : Tally :=
  if anchored then Tally.empty.add 1 else (Tally.empty.addSplit.add 1).addRanges 1

/-- The states of an expression with those around it. The whole match counts as a group. -/
def tally (d : Direction) (r : Expr CharSet) : Tally :=
  match d with
  | .forward => ((Expr.group r).build d .first (entrance r.startsText)).add 1
  | .backward => (r.build d .first (entrance r.stopsText)).add 1

/-- Whether there is room for an expression. -/
def fits (r : Expr CharSet) : Bool :=
  !(r.tally .forward).isOver && !(r.tally .backward).isOver

end Expr

end TriggerScript.Regex
