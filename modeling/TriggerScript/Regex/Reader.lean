import TriggerScript.Regex.Bracket

/-!
# Reading expressions

An expression is read from left to right. Groups whose end has not been reached are kept on a
stack.

* `Draft` : what has been read, with the open groups.
* `Draft.step?` : takes one part in.
* `Form.read?` : the expression that a text stands for, if it is well formed and does not nest
  too deep.
-/

namespace TriggerScript.Regex

open TriggerScript.Text

/-- A group whose end has not been reached. Lists are in reverse. -/
structure OpenGroup where
  change : Option Change
  /-- Whether blanks are skipped outside of the group. -/
  blanks : Bool
  /-- The choices before the one that the group stands in. -/
  choices : List Form
  /-- The parts before the group. -/
  parts : List Form

/-- What has been read. Lists are in reverse. -/
structure Draft where
  /-- Whether blanks are skipped. -/
  blanks : Bool
  groups : List OpenGroup
  choices : List Form
  parts : List Form

namespace Draft

def empty : Draft := ⟨false, [], [], []⟩

def push (d : Draft) (f : Form) : Draft := { d with parts := f :: d.parts }

/-- What has been read of the innermost group. -/
def inner (d : Draft) : Form :=
  .ofChoices ((Form.ofParts d.parts.reverse :: d.choices).reverse)

end Draft

/-- The switch that a letter stands for. -/
def switch? (c : Char) : Option Switch :=
  match c with
  | 'i' => some .ignoreCase
  | 'm' => some .multiLine
  | 's' => some .dotAll
  | 'U' => some .swapGreed
  | 'u' => some .unicode
  | 'R' => some .crlf
  | 'x' => some .skipBlanks
  | _ => none

/-- Reads switches up to `:` or `)`. Each may stand there once; those behind a hyphen are turned
off. `off` holds behind the hyphen and `bare` right behind it. -/
def changeFrom? (change : Change) (off bare : Bool) : List Char → Option (Change × List Char)
  | [] => none
  | c :: rest =>
    if c == ':' || c == ')' then if bare then none else some (change, c :: rest)
    else if c == '-' then if off then none else changeFrom? change true true rest
    else
      match switch? c with
      | none => none
      | some s =>
        if (change.says? s).isSome then none
        else if off then changeFrom? { change with off := change.off ++ [s] } true false rest
        else changeFrom? { change with on := change.on ++ [s] } false false rest

/-- A count in braces; blanks around it never count. -/
def count? (blanks : Bool) (cs : List Char) : Option (Nat × List Char) :=
  let (digits, rest) := spanSkipping Char.isDigit blanks (cs.dropWhile isBlank)
  let n := digits.foldl (fun n c => 10 * n + (c.toNat - '0'.toNat)) 0
  if digits.isEmpty || 0xFFFFFFFF < n then none
  else some (n, (spanSkipping isBlank blanks rest).2)

/-- The bounds of a repetition behind its opening brace. -/
def bounds? (blanks : Bool) (cs : List Char) : Option ((Nat × Option Nat) × List Char) :=
  match count? blanks (skip blanks cs) with
  | some (low, '}' :: rest) => some ((low, some low), rest)
  | some (low, ',' :: rest) =>
    match skip blanks rest with
    | '}' :: rest => some ((low, none), rest)
    | rest =>
      match count? blanks rest with
      | some (high, '}' :: rest) => if low ≤ high then some ((low, some high), rest) else none
      | _ => none
  | _ => none

/-- Whether a repetition is marked to prefer few times, and what follows the mark. -/
def lazyMark : List Char → Bool × List Char
  | '?' :: rest => (true, rest)
  | cs => (false, cs)

namespace Draft

/-- Repeats the last part, if there is one to repeat, in front of what may be a mark. -/
def repeat? (d : Draft) (low : Nat) (high : Option Nat) (cs : List Char) :
    Option (Draft × List Char) :=
  match d.parts with
  | [] => none
  | .switches _ :: _ => none
  | f :: rest =>
    let (marked, cs) := lazyMark cs
    some ({ d with parts := .repeated f marked low high :: rest }, cs)

/-- Opens a group, behind its parenthesis, or takes in a change of switches. -/
def opened? (d : Draft) (cs : List Char) : Option (Draft × List Char) :=
  let opening (change : Option Change) (blanks : Bool) : Draft :=
    ⟨blanks, ⟨change, d.blanks, d.choices, d.parts⟩ :: d.groups, [], []⟩
  match skip d.blanks cs with
  | '?' :: rest =>
    match changeFrom? ⟨[], []⟩ false false rest with
    | some (change, ':' :: rest) =>
      some (opening (some change) ((change.says? .skipBlanks).getD d.blanks), rest)
    | some (change, _ :: rest) =>
      if change.on.isEmpty && change.off.isEmpty then none
      else
        some ({ d with
          blanks := (change.says? .skipBlanks).getD d.blanks
          parts := .switches change :: d.parts }, rest)
    | _ => none
  | rest => some (opening none d.blanks, rest)

/-- Closes the innermost group. -/
def closed? (d : Draft) : Option Draft :=
  match d.groups with
  | [] => none
  | group :: outer =>
    some ⟨group.blanks, outer, group.choices, .group group.change d.inner :: group.parts⟩

/-- Takes in the part that begins with `c`. -/
def step? (d : Draft) (c : Char) (rest : List Char) : Option (Draft × List Char) :=
  match c with
  | '(' => d.opened? rest
  | ')' => d.closed?.map fun d => (d, rest)
  | '|' =>
    some ({ d with choices := Form.ofParts d.parts.reverse :: d.choices, parts := [] }, rest)
  | '[' => (bracket? d.blanks rest).map fun r => (d.push (.set r.1), r.2)
  | '?' => d.repeat? 0 (some 1) rest
  | '*' => d.repeat? 0 none rest
  | '+' => d.repeat? 1 none rest
  | '{' =>
    (bounds? d.blanks rest).bind fun r => d.repeat? r.1.1 r.1.2 (skip d.blanks r.2)
  | '\\' =>
    (escaped? d.blanks rest).map fun r =>
      match r.1 with
      | .letter l => (d.push (.letter l), r.2)
      | .set item => (d.push (.set item), r.2)
      | .anchor a => (d.push (.anchor a), r.2)
  | '.' => some (d.push .dot, rest)
  | '^' => some (d.push (.anchor .lineStart), rest)
  | '$' => some (d.push (.anchor .lineEnd), rest)
  | c => some (d.push (.letter ⟨c, false⟩), rest)

/-- Takes in a whole text; each step takes at least one character. -/
def run? (d : Draft) : Nat → List Char → Option Draft
  | 0, _ => none
  | steps + 1, cs =>
    match skip d.blanks cs with
    | [] => some d
    | c :: rest => (d.step? c rest).bind fun r => r.1.run? steps r.2

end Draft

/-- How deep an expression may nest. -/
def nestingLimit : Nat := 250

/-- The expression that a text stands for. -/
def Form.read? (cs : List Char) : Option Form :=
  (Draft.empty.run? (cs.length + 1) cs).bind fun d =>
    if d.groups.isEmpty && d.inner.depth ≤ nestingLimit then some d.inner else none

end TriggerScript.Regex
