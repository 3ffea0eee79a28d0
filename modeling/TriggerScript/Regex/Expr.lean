import TriggerScript.Regex.Named

/-!
# Regular expressions

What an expression matches, with all switches applied, over any type of sets of characters.

* `Place` : the demands on a place between characters.
* `Expr` : the expressions.
* `Expr.nullable` : whether the empty text matches between two characters.
* `Expr.rests` : what can be left to match behind one character.
* `Expr.mayBeEmpty`, `Expr.isEmptyOnly` : whether the empty text can match, and nothing but it.
-/

namespace TriggerScript.Regex

/-- A demand on the characters before and after a place. -/
inductive Place where
  | textStart
  | textEnd
  | lineStart
  | lineEnd
  /-- As `lineStart`, where a carriage return ends a line too. -/
  | crlfStart
  | crlfEnd
  | word (place : WordPlace) (ascii : Bool)
  deriving DecidableEq, Ord, Repr

/-- Whether there is a word character; `ascii` leaves only those of the basic alphabet. -/
def inWord (ascii : Bool) (c : Option Char) : Bool :=
  match c with
  | some c => if ascii && 128 ≤ c.toNat then false else isWordChar c
  | none => false

def WordPlace.holds (place : WordPlace) (before after : Bool) : Bool :=
  match place with
  | .boundary => before != after
  | .noBoundary => before == after
  | .start => !before && after
  | .stop => before && !after
  | .startHalf => !before
  | .stopHalf => !after

def Place.holds (place : Place) (before after : Option Char) : Bool :=
  match place with
  | .textStart => before.isNone
  | .textEnd => after.isNone
  | .lineStart => before.all (· == '\n')
  | .lineEnd => after.all (· == '\n')
  | .crlfStart => before.all fun c => c == '\n' || (c == '\r' && after != some '\n')
  | .crlfEnd => after.all fun c => c == '\r' || (c == '\n' && before != some '\r')
  | .word place ascii => place.holds (inWord ascii before) (inWord ascii after)

/-- Expressions over sets of type `σ`. -/
inductive Expr (σ : Type) where
  /-- Matches the empty text. -/
  | empty
  /-- Characters one after the other. -/
  | text (cs : List Char)
  /-- One character of a set. -/
  | one (s : σ)
  | place (p : Place)
  /-- A numbered group. -/
  | group (r : Expr σ)
  | seq (r s : Expr σ)
  | alt (r s : Expr σ)
  /-- A number of times; without an upper bound, any number from `low` on. A greedy one prefers
  many times, which does not change what matches. -/
  | rep (r : Expr σ) (greedy : Bool) (low : Nat) (high : Option Nat)
  deriving DecidableEq, Ord, Repr, Inhabited

namespace Expr

variable {σ : Type}

/-- Whether the empty text between the two characters matches. -/
def nullable (before after : Option Char) : Expr σ → Bool
  | .empty => true
  | .text cs => cs.isEmpty
  | .one _ => false
  | .place p => p.holds before after
  | .group r => r.nullable before after
  | .seq r s => r.nullable before after && s.nullable before after
  | .alt r s => r.nullable before after || s.nullable before after
  | .rep r _ low _ => low == 0 || r.nullable before after

/-- Whether some empty text may match. -/
def mayBeEmpty : Expr σ → Bool
  | .empty => true
  | .text cs => cs.isEmpty
  | .one _ => false
  | .place _ => true
  | .group r => r.mayBeEmpty
  | .seq r s => r.mayBeEmpty && s.mayBeEmpty
  | .alt r s => r.mayBeEmpty || s.mayBeEmpty
  | .rep r _ low _ => low == 0 || r.mayBeEmpty

/-- Whether no character can match. -/
def isEmptyOnly : Expr σ → Bool
  | .empty => true
  | .text cs => cs.isEmpty
  | .one _ => false
  | .place _ => true
  | .group r => r.isEmptyOnly
  | .seq r s => r.isEmptyOnly && s.isEmptyOnly
  | .alt r s => r.isEmptyOnly && s.isEmptyOnly
  | .rep r _ _ _ => r.isEmptyOnly

/-- What can be left to match behind the character `c`, each time as parts one after the other.
Rounds of a repetition that match the empty text here are free, so that only their number counts
from here on. -/
def rests (holds : σ → Char → Bool) (before : Option Char) (c : Char) : Expr σ → List (List (Expr σ))
  | .empty => []
  | .text [] => []
  | .text [d] => if c == d then [[]] else []
  | .text (d :: rest) => if c == d then [[.text rest]] else []
  | .one s => if holds s c then [[]] else []
  | .place _ => []
  | .group r => r.rests holds before c
  | .seq r s =>
    let first := (r.rests holds before c).map (· ++ [s])
    if r.nullable before (some c) then first ++ s.rests holds before c else first
  | .alt r s => r.rests holds before c ++ s.rests holds before c
  | .rep r greedy low high =>
    let low := if r.nullable before (some c) then 0 else low - 1
    match high with
    | some 0 => []
    | some 1 => r.rests holds before c
    | _ => (r.rests holds before c).map (· ++ [.rep r greedy low (high.map (· - 1))])

end Expr

end TriggerScript.Regex
