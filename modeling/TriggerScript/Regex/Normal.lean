import TriggerScript.Regex.Expr

/-!
# Expressions in their plainest form

Neighbouring characters make up one text, nested sequences and choices are flat, a choice between
characters is a set, and a choice whose parts all begin alike states the beginning once.

* `CharSet` : the sets that single characters are taken from.
* `Expr.sequence`, `Expr.choice`, `Expr.times` : expressions from others in plainest form.
-/

namespace TriggerScript.Regex

open TriggerScript.Text

/-- A set that one character is taken from. A set of bytes and a set of characters are never alike,
whatever they hold. -/
structure CharSet where
  codes : CodeSet
  bytes : Bool
  deriving DecidableEq, Repr, Inhabited

/-- A set of bytes or of characters. Where nothing is in it, no difference is made. -/
def CharSet.make (bytes : Bool) (codes : CodeSet) : CharSet := ⟨codes, bytes || codes.isEmpty⟩

namespace Expr

variable {σ : Type}

/-- The parts of a sequence; empty ones are left out. -/
def parts : Expr σ → List (Expr σ)
  | .empty => []
  | .seq r s => r.parts ++ s.parts
  | r => [r]

/-- Neighbouring texts made one. -/
def joinTexts : List (Expr σ) → List (Expr σ)
  | [] => []
  | .text cs :: rest =>
    match joinTexts rest with
    | .text ds :: more => .text (cs ++ ds) :: more
    | more => .text cs :: more
  | r :: rest => r :: joinTexts rest

/-- Parts one after the other. -/
def chain : List (Expr σ) → Expr σ
  | [] => .empty
  | [r] => r
  | r :: rest => .seq r (chain rest)

/-- Expressions one after the other, as one sequence. -/
def sequence (rs : List (Expr σ)) : Expr σ :=
  chain (joinTexts (rs.flatMap parts))

/-- The parts of a choice. -/
def choices : Expr σ → List (Expr σ)
  | .alt r s => r.choices ++ s.choices
  | r => [r]

/-- A choice between two or more parts. -/
def fork (r : Expr σ) : List (Expr σ) → Expr σ
  | [] => r
  | s :: rest => .alt r (fork s rest)

/-- Whether two expressions are written alike. Each group has a number of its own, so that groups
are never alike. -/
def alike [BEq σ] : Expr σ → Expr σ → Bool
  | .empty, .empty => true
  | .text cs, .text ds => cs == ds
  | .one s, .one t => s == t
  | .place p, .place q => p == q
  | .seq r s, .seq r' s' => r.alike r' && s.alike s'
  | .alt r s, .alt r' s' => r.alike r' && s.alike s'
  | .rep r greedy low high, .rep r' greedy' low' high' =>
    r.alike r' && greedy == greedy' && low == low' && high == high'
  | _, _ => false

/-- The parts at the start of a sequence that are like those of another one. -/
def sharedParts [BEq σ] : List (Expr σ) → List (Expr σ) → List (Expr σ)
  | r :: rs, s :: ss => if r.alike s then r :: sharedParts rs ss else []
  | _, _ => []

/-- The parts at the start that sequences of two or more parts share. -/
def beginning [BEq σ] (rows : List (List (Expr σ))) : List (Expr σ) :=
  if rows.all (2 ≤ ·.length) then
    match rows with
    | [] => []
    | row :: rest => rest.foldl sharedParts row
  else []

/-- The character of a text that has just one. -/
def char? : Expr σ → Option Char
  | .text [c] => some c
  | _ => none

/-- The set that an expression for one character stands for. -/
def set? : Expr σ → Option σ
  | .one s => some s
  | _ => none

/-- One character of a set of bytes or of characters. -/
def ofSet (bytes : Bool) (s : CodeSet) : Expr CharSet :=
  match s.onlyChar? with
  | some c => .text [c]
  | none => .one (.make bytes s)

/-- A choice between expressions that are no choices themselves. Characters make up a set, and
sets one set. -/
def options (rs : List (Expr CharSet)) : Expr CharSet :=
  match rs with
  | [] => .empty
  | [r] => r
  | r :: rest =>
    match (r :: rest).mapM char?, (r :: rest).mapM set? with
    | some cs, _ => ofSet false (.ofCodes (cs.map Char.toNat))
    | none, some sets => ofSet false (.unions (sets.map CharSet.codes))
    | none, none => fork r rest

/-- A choice between expressions, as one choice behind what all of them begin with. -/
def choice (rs : List (Expr CharSet)) : Expr CharSet :=
  match rs.flatMap choices with
  | [] => .empty
  | [r] => r
  | rs =>
    let rows := rs.map parts
    let start := beginning rows
    if start.isEmpty then options rs
    else
      let ends := rows.map fun row => sequence (row.drop start.length)
      sequence (start ++ [options (ends.flatMap choices)])

/-- An expression a number of times. One that only matches the empty text need not be repeated. -/
def times (r : Expr σ) (greedy : Bool) (low : Nat) (high : Option Nat) : Expr σ :=
  let (low, high) := if r.isEmptyOnly then (min low 1, some (min (high.getD 1) 1)) else (low, high)
  if high == some 0 then .empty
  else if low == 1 && high == some 1 then r
  else .rep r greedy low high

end Expr

end TriggerScript.Regex
