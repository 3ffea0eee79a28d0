import TriggerScript.Text.Cut
import TriggerScript.Text.LetterCase

/-!
# Enumerations

Texts such as `a, b and c`. Separators count only outside quotes and brackets.

* `Separator`, `Enumeration` : the parts of such a text and what stands between them.
* `separator?` : the separator that a text starts with.
* `cutList` : the untrimmed pieces of a text and its separators.
* `splitList` : the enumeration that a text is, unless some part of it is blank.
* `joinList` : a text that lists the given parts.
-/

namespace TriggerScript.Text

/-- What may stand between two parts. -/
inductive Separator where
  | comma
  | and
  | or
  deriving DecidableEq, Repr

/-- The name of a separator in data. -/
def Separator.name : Separator → String
  | .comma => "Comma"
  | .and => "And"
  | .or => "Or"

/-- The parts of a list text, trimmed, and the separators between them. -/
structure Enumeration where
  items : List (List Char)
  separators : List Separator
  deriving DecidableEq, Repr

namespace Enumeration

def hasAnd (e : Enumeration) : Bool := e.separators.contains .and

def hasOr (e : Enumeration) : Bool := e.separators.contains .or

/-- Both words occur, so the grouping is not clear. -/
def isMixed (e : Enumeration) : Bool := e.hasAnd && e.hasOr

/-- Neither word occurs. -/
def isCommaOnly (e : Enumeration) : Bool := !e.hasAnd && !e.hasOr

/-- Whether the parts are meant together; only the word `or` says otherwise. -/
def isAnd (e : Enumeration) : Bool := !e.hasOr

end Enumeration

/-- The separator that a text starts with, and the text behind it. A comma takes the blanks
after it along, and a word that follows them decides its kind. -/
def separator? : List Char → Option (Separator × List Char)
  | ',' :: rest =>
    let rest := rest.dropWhile isAsciiBlank
    match afterWord? ['a', 'n', 'd', ' '] rest with
    | some after => some (.and, after)
    | none => match afterWord? ['o', 'r', ' '] rest with
      | some after => some (.or, after)
      | none => some (.comma, rest)
  | ' ' :: rest =>
    match afterWord? ['a', 'n', 'd', ' '] rest with
    | some after => some (.and, after)
    | none => match afterWord? ['o', 'r', ' '] rest with
      | some after => some (.or, after)
      | none => none
  | _ => none

theorem separator?_length {cs after : List Char} {sep : Separator}
    (h : separator? cs = some (sep, after)) : after.length < cs.length := by
  unfold separator? at h
  split at h
  · rename_i rest
    have hd : (rest.dropWhile isAsciiBlank).length ≤ rest.length :=
      (List.dropWhile_suffix _).length_le
    simp only at h
    split at h
    · next h1 => cases h; rw [afterWord?_eq_some h1]; simp only [List.length_drop, List.length_cons]; omega
    · split at h
      · next h1 => cases h; rw [afterWord?_eq_some h1]; simp only [List.length_drop, List.length_cons]; omega
      · cases h; simp only [List.length_cons]; omega
  · split at h
    · next h1 => cases h; rw [afterWord?_eq_some h1]; simp only [List.length_drop, List.length_cons]; omega
    · split at h
      · next h1 => cases h; rw [afterWord?_eq_some h1]; simp only [List.length_drop, List.length_cons]; omega
      · cases h
  · cases h

/-- The pieces of a text and the separators between them. The text continues a piece, given in
reverse, at a bracket depth and inside a quote or not. The depth may fall below zero and has no
bounds; a counter of 32 bits with a sign shows the same for every text of fewer than 2^31
characters. -/
def cutList (depth : Int) (quoted : Bool) (piece cs : List Char) :
    List (List Char) × List Separator :=
  match cs with
  | [] => ([piece.reverse], [])
  | c :: rest =>
    if quoted then cutList depth (c != '"') (c :: piece) rest
    else if c == '"' then cutList depth true (c :: piece) rest
    else if c == '(' || c == '{' then cutList (depth + 1) false (c :: piece) rest
    else if c == ')' || c == '}' then cutList (depth - 1) false (c :: piece) rest
    else if depth != 0 then cutList depth false (c :: piece) rest
    else match h : separator? (c :: rest) with
      | some (sep, after) =>
        have := separator?_length h
        let tail := cutList 0 false [] after
        (piece.reverse :: tail.1, sep :: tail.2)
      | none => cutList depth false (c :: piece) rest
  termination_by cs.length
  decreasing_by all_goals (simp only [List.length_cons] at *; omega)

/-- The enumeration that a text is; none if some part of it is blank. -/
def splitList (cs : List Char) : Option Enumeration :=
  let cut := cutList 0 false [] cs
  let items := cut.1.map trim
  if items.any List.isEmpty then none else some ⟨items, cut.2⟩

/-- The parts as one text: commas, and a word before the last part. -/
def joinList (word : String) (parts : List String) : String :=
  match parts.reverse with
  | [] => ""
  | [only] => only
  | last :: init => ", ".intercalate init.reverse ++ " " ++ word ++ " " ++ last

/-- The word that joins parts meant together, or parts of which one is meant. -/
def conjunction (together : Bool) : String :=
  if together then "and" else "or"

end TriggerScript.Text
