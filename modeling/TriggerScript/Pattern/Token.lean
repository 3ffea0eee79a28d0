import TriggerScript.Text.Cut
import TriggerScript.Text.LetterCase

/-!
# Tokens of pattern sources

* `Token` : the pieces that a pattern source is made of, with the places errors refer to.
* `tokens` : the pieces of a source, up to the first one that is not well formed.
-/

namespace TriggerScript.Pattern

/-- A piece of a pattern source. -/
inductive Token where
  /-- A character that stands for itself. -/
  | char (c : Char)
  | blank
  /-- An opening bracket or parenthesis. -/
  | opening (c : Char)
  /-- A closing bracket or parenthesis, or a bar, at a place. -/
  | delimiter (c : Char) (place : Nat)
  /-- The mark at the start of an alternative. -/
  | mark (n : Int32)
  /-- The text between percent signs, and the place behind it. -/
  | slot (body : List Char) (place : Nat)
  /-- The text between angle brackets, and the place behind it. -/
  | regex (body : List Char) (place : Nat)
  /-- What is wrong with the rest of the source. -/
  | bad (message : String) (place : Nat)
  deriving DecidableEq, Repr

/-- The whole number that digits stand for. -/
def digitsValue (ds : List Char) : Int :=
  ds.foldl (fun n c => 10 * n + ((c.toNat - '0'.toNat : Nat) : Int)) 0

/-- The mark at the start of an alternative that begins at a place: the token, if there is a
mark, and the number of its characters. -/
def readMark (place : Nat) (cs : List Char) : List Token × Nat :=
  let sign := match cs with
    | '-' :: _ => 1
    | _ => 0
  let ds := (cs.drop sign).takeWhile Char.isDigit
  let length := sign + ds.length
  if ds.isEmpty || (cs.drop length).head? != some '¦' then ([], 0)
  else
    let n := if sign == 1 then -digitsValue ds else digitsValue ds
    if n < -2147483648 || 2147483647 < n then
      ([.bad ("invalid mark '" ++ String.ofList (cs.take length) ++ "'") place], cs.length)
    else ([.mark (Int32.ofInt n)], length + 1)

/-- The text up to an angle bracket that is not escaped, if there is one. -/
def regexBody? : List Char → Option (List Char)
  | [] => none
  | '>' :: _ => some []
  | '\\' :: c :: rest => (regexBody? rest).map fun body => '\\' :: c :: body
  | c :: rest => (regexBody? rest).map fun body => c :: body

/-- The tokens of a source from a place on. -/
def tokensFrom (place : Nat) (cs : List Char) : List Token :=
  match cs with
  | [] => []
  | c :: rest =>
    if c == ']' || c == ')' then .delimiter c place :: tokensFrom (place + 1) rest
    else if c == '|' || c == '[' || c == '(' then
      let (mark, length) := readMark (place + 1) rest
      (if c == '|' then .delimiter c place else .opening c) :: mark ++
        tokensFrom (place + 1 + length) (rest.drop length)
    else if c == '%' then
      let body := rest.takeWhile (· != '%')
      if rest.length ≤ body.length then [.bad "missing closing '%'" (place + 1 + rest.length)]
      else
        .slot body (place + body.length + 2) ::
          tokensFrom (place + body.length + 2) (rest.drop (body.length + 1))
    else if c == '<' then
      match regexBody? rest with
      | none => [.bad "missing closing '>'" (place + 1 + rest.length)]
      | some body =>
        .regex body (place + body.length + 2) ::
          tokensFrom (place + body.length + 2) (rest.drop (body.length + 1))
    else if c == '\\' then
      match rest with
      | [] => [.bad "pattern ends with '\\'" (place + 1)]
      | e :: rest => .char e :: tokensFrom (place + 2) rest
    else if Text.isBlank c then .blank :: tokensFrom (place + 1) rest
    else .char c :: tokensFrom (place + 1) rest
  termination_by cs.length
  decreasing_by all_goals (simp only [List.length_drop, List.length_cons] at *; omega)

/-- The tokens of a source. -/
def tokens (source : List Char) : List Token :=
  tokensFrom 0 source

end TriggerScript.Pattern
