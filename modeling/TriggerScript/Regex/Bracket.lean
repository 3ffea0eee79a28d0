import TriggerScript.Regex.Escaped

/-!
# Sets in brackets

Reading `[…]`: characters and ranges, escapes, named sets such as `[:alpha:]`, sets inside sets,
and the operations `&&`, `--` and `~~`.

* `bracket?` : reads a set behind its opening bracket.
-/

namespace TriggerScript.Regex

/-- The named sets of the basic alphabet. -/
def asciiSet? (name : List Char) : Option AsciiSet :=
  match String.ofList name with
  | "alnum" => some .alnum
  | "alpha" => some .alpha
  | "ascii" => some .ascii
  | "blank" => some .blank
  | "cntrl" => some .cntrl
  | "digit" => some .digit
  | "graph" => some .graph
  | "lower" => some .lower
  | "print" => some .print
  | "punct" => some .punct
  | "space" => some .space
  | "upper" => some .upper
  | "word" => some .word
  | "xdigit" => some .xdigit
  | _ => none

/-- A named set behind its opening bracket, up to `:]`. -/
def namedSet? : List Char → Option (SetItem × List Char)
  | ':' :: cs =>
    let (inside, cs) := match cs with
      | '^' :: rest => (false, rest)
      | _ => (true, cs)
    match cs.dropWhile (· != ':') with
    | ':' :: ']' :: rest =>
      (asciiSet? (cs.takeWhile (· != ':'))).map fun name => (.ascii name inside, rest)
    | _ => none
  | _ => none

/-- A character, or a set named by an escape. -/
def setPart? (blanks : Bool) : List Char → Option ((Letter ⊕ SetItem) × List Char)
  | [] => none
  | '\\' :: rest =>
    match escaped? blanks rest with
    | some (.letter l, rest) => some (.inl l, rest)
    | some (.set item, rest) => some (.inr item, rest)
    | _ => none
  | c :: rest => some (.inl ⟨c, false⟩, rest)

/-- A part as an item of a set. -/
def SetItem.ofPart : Letter ⊕ SetItem → SetItem
  | .inl l => .range l l
  | .inr item => item

/-- The end of a range behind its hyphen; a hyphen before the closing bracket, and the first of
two, make no range. -/
def rangeEnd? (blanks : Bool) (cs : List Char) : Option (List Char) :=
  match skip blanks cs with
  | '-' :: rest =>
    match skip blanks rest with
    | ']' :: _ => none
    | '-' :: _ => none
    | rest => some rest
  | _ => none

/-- One item: a part, or a range between two characters. -/
def setItem? (blanks : Bool) (cs : List Char) : Option (SetItem × List Char) :=
  match setPart? blanks cs with
  | none => none
  | some (part, rest) =>
    match rangeEnd? blanks rest with
    | none => some (.ofPart part, rest)
    | some rest =>
      match part, setPart? blanks rest with
      | .inl first, some (.inl last, rest) =>
        if first.char ≤ last.char then some (.range first last, rest) else none
      | _, _ => none

/-- The operation that two equal characters at the front stand for. -/
def operation? : List Char → Option (SetOperation × List Char)
  | '&' :: '&' :: rest => some (.both, rest)
  | '-' :: '-' :: rest => some (.without, rest)
  | '~' :: '~' :: rest => some (.either, rest)
  | _ => none

/-- What stands left of an operation, and the operation. -/
abbrev LeftSide := Option (SetBody × SetOperation)

/-- The body of a set whose last items are given in reverse. Operations group to the left. -/
def SetBody.close (left : LeftSide) (items : List SetItem) : SetBody :=
  match left with
  | none => .union items.reverse
  | some (body, op) => .operation op body (.union items.reverse)

/-- The hyphens at the start of a set, which stand for themselves, in reverse. -/
def leadingHyphens (blanks : Bool) (cs : List Char) : List SetItem × List Char :=
  let (hyphens, rest) := spanSkipping (· == '-') blanks cs
  (hyphens.map fun c => .range ⟨c, false⟩ ⟨c, false⟩, rest)

/-- The start of a set behind its opening bracket: whether its opposite is meant, and the
characters that only stand for themselves there. A closing bracket right at the start does. -/
def bracketStart (blanks : Bool) (cs : List Char) : Bool × List SetItem × List Char :=
  let cs := skip blanks cs
  let (inside, cs) := match cs with
    | '^' :: rest => (false, skip blanks rest)
    | _ => (true, cs)
  match leadingHyphens blanks cs with
  | ([], ']' :: rest) => (inside, [.range ⟨']', false⟩ ⟨']', false⟩], rest)
  | (items, rest) => (inside, items, rest)

mutual

/-- Reads a set behind its opening bracket. -/
def bracketWithin? (blanks : Bool) : Nat → List Char → Option (SetItem × List Char)
  | 0, _ => none
  | steps + 1, cs =>
    let (inside, items, rest) := bracketStart blanks cs
    (bodyWithin? blanks none items steps rest).map fun r => (.bracket r.1 inside, r.2)

/-- Reads the rest of the contents of brackets, up to the closing one. -/
def bodyWithin? (blanks : Bool) (left : LeftSide) (items : List SetItem) :
    Nat → List Char → Option (SetBody × List Char)
  | 0, _ => none
  | steps + 1, cs =>
    match skip blanks cs with
    | [] => none
    | ']' :: rest => some (.close left items, rest)
    | '[' :: rest =>
      match namedSet? rest with
      | some (item, rest) => bodyWithin? blanks left (item :: items) steps rest
      | none =>
        match bracketWithin? blanks steps rest with
        | some (item, rest) => bodyWithin? blanks left (item :: items) steps rest
        | none => none
    | cs =>
      match operation? cs with
      | some (op, rest) => bodyWithin? blanks (some (.close left items, op)) [] steps rest
      | none =>
        match setItem? blanks cs with
        | some (item, rest) => bodyWithin? blanks left (item :: items) steps rest
        | none => none

end

/-- Reads a set behind its opening bracket. -/
def bracket? (blanks : Bool) (cs : List Char) : Option (SetItem × List Char) :=
  bracketWithin? blanks (2 * cs.length + 2) cs

end TriggerScript.Regex
