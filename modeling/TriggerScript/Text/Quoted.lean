/-!
# Quoted text

A quoted text stands between double quotes. Inside, a quote is written twice, a percent sign is
written twice, and a lone percent sign opens a part that lasts until the next one.

* `unquote` : the inside of a text that is one quoted text.
* `double` : a text with every occurrence of a character written twice.
-/

namespace TriggerScript.Text

/-- Whether the inside of a quoted text is in order; `embedded` tells whether the text starts
inside a part between percent signs. -/
def wellQuoted (embedded : Bool) : List Char → Bool
  | [] => !embedded
  | '%' :: '%' :: rest =>
    if embedded then wellQuoted false ('%' :: rest) else wellQuoted false rest
  | '%' :: rest => wellQuoted (!embedded) rest
  | '"' :: '"' :: rest =>
    if embedded then wellQuoted true ('"' :: rest) else wellQuoted false rest
  | '"' :: rest => if embedded then wellQuoted true rest else false
  | _ :: rest => wellQuoted embedded rest

/-- The inside of a text that is one quoted text from its first to its last character. -/
def unquote : List Char → Option (List Char)
  | '"' :: rest =>
    if rest.getLast? == some '"' && wellQuoted false rest.dropLast then some rest.dropLast
    else none
  | _ => none

/-- The text with every `mark` written twice. -/
def double (mark : Char) : List Char → List Char
  | [] => []
  | c :: rest => if c == mark then mark :: mark :: double mark rest else c :: double mark rest

/-- `double` on strings. -/
def doubleString (mark : Char) (s : String) : String :=
  String.ofList (double mark s.toList)

end TriggerScript.Text
