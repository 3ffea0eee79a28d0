/-!
# Outer parentheses

* `closes` : whether every parenthesis of a text is closed inside it, quotes aside.
* `stripParens` : the text between parentheses that belong together.
-/

namespace TriggerScript.Text

/-- Whether a text that starts `depth` parentheses deep, inside a quote or not, never closes
more parentheses than are open and leaves none open. What stands in quotes does not count. The depth
has no bound; it never passes the number of characters, so a counter of 32 bits with a sign shows the
same for every text of fewer than 2^31 characters. -/
def closes (depth : Nat) (quoted : Bool) : List Char → Bool
  | [] => depth == 0
  | c :: rest =>
    if quoted then closes depth (c != '"') rest
    else if c == '"' then closes depth true rest
    else if c == '(' then closes (depth + 1) false rest
    else if c == ')' then
      match depth with
      | 0 => false
      | d + 1 => closes d false rest
    else closes depth false rest

/-- The text inside a pair of parentheses around the whole. In `(a) and (b)` the outer two do
not belong together, so that text has none. -/
def stripParens : List Char → Option (List Char)
  | '(' :: rest =>
    if rest.getLast? == some ')' && closes 0 false rest.dropLast then some rest.dropLast else none
  | _ => none

end TriggerScript.Text
