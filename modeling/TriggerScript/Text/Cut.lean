/-!
# Blank characters and cutting text

What counts as blank space, trimming it off a text, and taking a text apart at a character, at a
known beginning or end, or at line ends.

* `isBlank` : white space in the sense of the character standard.
* `isAsciiBlank` : the five blanks that may follow a comma.
* `trimStart`, `trimEnd`, `trim` : a text without the blanks at one end or both.
* `cutAt?` : the parts before and after the first occurrence of a character.
* `after?`, `before?` : a text without a known beginning or end.
* `lines` : the lines of a text; a carriage return belongs to the line feed behind it.
* `isInfix` : whether a text occurs inside another.
-/

namespace TriggerScript.Text

/-! ### Blanks -/

/-- White space of every script: the control blanks, the next-line mark and all spaces. -/
def isBlank (c : Char) : Bool :=
  let n := c.toNat
  (9 ≤ n && n ≤ 13) || n == 0x20 || n == 0x85 || n == 0xA0 || n == 0x1680 ||
    (0x2000 ≤ n && n ≤ 0x200A) || n == 0x2028 || n == 0x2029 || n == 0x202F || n == 0x205F ||
    n == 0x3000

/-- Blank, tab, line feed, form feed and carriage return; a vertical tab is not among them. -/
def isAsciiBlank (c : Char) : Bool :=
  c == ' ' || c == '\t' || c == '\n' || c == '\x0c' || c == '\r'

/-- The text from its first character that is not blank. -/
def trimStart (cs : List Char) : List Char :=
  cs.dropWhile isBlank

/-- The text up to its last character that is not blank. -/
def trimEnd (cs : List Char) : List Char :=
  (cs.reverse.dropWhile isBlank).reverse

/-- The text without the blanks around it. -/
def trim (cs : List Char) : List Char :=
  trimEnd (trimStart cs)

@[simp] theorem trimStart_nil : trimStart [] = [] := rfl

@[simp] theorem trimEnd_nil : trimEnd [] = [] := rfl

@[simp] theorem trim_nil : trim [] = [] := rfl

/-- `trim` on strings. -/
def trimString (s : String) : String :=
  String.ofList (trim s.toList)

/-! ### Cutting -/

/-- The parts before and after the first `mark`, if there is one. -/
def cutAt? (mark : Char) : List Char → Option (List Char × List Char)
  | [] => none
  | c :: rest =>
    if c == mark then some ([], rest)
    else (cutAt? mark rest).map fun parts => (c :: parts.1, parts.2)

/-- The parts before and after the last `mark`, if there is one. -/
def cutAtLast? (mark : Char) (cs : List Char) : Option (List Char × List Char) :=
  (cutAt? mark cs.reverse).map fun parts => (parts.2.reverse, parts.1.reverse)

/-- The rest of a text that begins with `start`. -/
def after? (start cs : List Char) : Option (List Char) :=
  if start.isPrefixOf cs then some (cs.drop start.length) else none

/-- The rest of a text that ends with `finish`. -/
def before? (finish cs : List Char) : Option (List Char) :=
  (after? finish.reverse cs.reverse).map List.reverse

/-- Whether `part` occurs in a text. -/
def isInfix (part : List Char) : List Char → Bool
  | [] => part.isEmpty
  | c :: rest => part.isPrefixOf (c :: rest) || isInfix part rest

/-- The pieces between the occurrences of `mark`, at least one. -/
def pieces (mark : Char) : List Char → List (List Char)
  | [] => [[]]
  | c :: rest =>
    if c == mark then [] :: pieces mark rest
    else match pieces mark rest with
      | [] => [[c]]
      | first :: others => (c :: first) :: others

/-- The lines of a text whose first line already holds `line`, which is given in reverse. -/
def linesAfter (line : List Char) : List Char → List (List Char)
  | [] => if line.isEmpty then [] else [line.reverse]
  | '\n' :: rest =>
    (match line with
      | '\r' :: shorter => shorter.reverse
      | _ => line.reverse) :: linesAfter [] rest
  | c :: rest => linesAfter (c :: line) rest

/-- The lines of a text without their line ends. -/
def lines (cs : List Char) : List (List Char) :=
  linesAfter [] cs

/-- Replaces every occurrence of a character by a text. -/
def replaceChar (mark : Char) (replacement : List Char) (cs : List Char) : List Char :=
  cs.flatMap fun c => if c == mark then replacement else [c]

end TriggerScript.Text
