import TriggerScript.Text.Cut
import TriggerScript.Regex.Form
import TriggerScript.Text.CodeSet

/-!
# Blanks and escapes in expressions

An expression may be written with blanks and comments that do not count. A comment goes from `#`
to the end of its line. A backslash and the characters behind it stand for something else.

* `skip` : drops blanks and comments, where they do not count.
* `spanSkipping` : the characters at the front with some property, with blanks between them.
* `length_skip_le` : skipping adds nothing, so readers that skip come to an end.
* `Escaped` : a character, a set of characters or a demand on a place.
* `escaped?` : reads what stands behind a backslash.
-/

namespace TriggerScript.Regex

open TriggerScript.Text

/-! ### Blanks -/

/-- Drops blanks and comments; `comment` holds inside a comment. -/
def skipFrom (comment : Bool) : List Char → List Char
  | [] => []
  | c :: rest =>
    if comment then skipFrom (c != '\n') rest
    else if isBlank c then skipFrom false rest
    else if c == '#' then skipFrom true rest
    else c :: rest

/-- Drops blanks and comments, if they do not count. -/
def skip (blanks : Bool) (cs : List Char) : List Char :=
  if blanks then skipFrom false cs else cs

theorem length_skipFrom_le (comment : Bool) (cs : List Char) :
    (skipFrom comment cs).length ≤ cs.length := by
  induction cs generalizing comment with
  | nil => simp [skipFrom]
  | cons c rest ih =>
    unfold skipFrom
    have h₁ := ih (c != '\n')
    have h₂ := ih false
    have h₃ := ih true
    repeat' split
    all_goals simp only [List.length_cons]
    all_goals omega

theorem length_skip_le (blanks : Bool) (cs : List Char) : (skip blanks cs).length ≤ cs.length := by
  unfold skip
  split
  · exact length_skipFrom_le false cs
  · exact Nat.le_refl _

/-- The characters at the front that satisfy `p`, and what follows. Blanks behind each of them
are skipped. -/
def spanSkipping (p : Char → Bool) (blanks : Bool) (cs : List Char) : List Char × List Char :=
  match cs with
  | [] => ([], [])
  | c :: rest =>
    if p c then
      let further := spanSkipping p blanks (skip blanks rest)
      (c :: further.1, further.2)
    else ([], c :: rest)
termination_by cs.length
decreasing_by
  have := length_skip_le blanks rest
  simp only [List.length_cons]
  omega

/-- The next `n` characters, if all of them satisfy `p`, and what follows. Blanks behind each of
them are skipped. -/
def takeSkipping (p : Char → Bool) (blanks : Bool) : Nat → List Char → Option (List Char × List Char)
  | 0, cs => some ([], cs)
  | _ + 1, [] => none
  | n + 1, c :: rest =>
    if p c then
      (takeSkipping p blanks n (skip blanks rest)).map fun further => (c :: further.1, further.2)
    else none

/-! ### Escapes -/

/-- What an escape stands for. -/
inductive Escaped where
  | letter (l : Letter)
  | set (item : SetItem)
  | anchor (a : Anchor)

/-- The character with the given digits in base sixteen. -/
def codedChar? (digits : List Char) : Option Char :=
  let n := hexNumber digits
  if !digits.isEmpty && n.isValidChar then some (Char.ofNat n) else none

/-- How many digits the escapes for characters by number have. -/
def digitCount? (c : Char) : Option Nat :=
  match c with
  | 'x' => some 2
  | 'u' => some 4
  | 'U' => some 8
  | _ => none

/-- A character by its number: a fixed count of digits, or any number of them in braces. -/
def numbered? (blanks : Bool) (mark : Char) (count : Nat) (cs : List Char) :
    Option (Letter × List Char) :=
  match skip blanks cs with
  | '{' :: rest =>
    match spanSkipping isHexDigit blanks (skip blanks rest) with
    | (digits, '}' :: rest) => (codedChar? digits).map fun c => (⟨c, false⟩, rest)
    | _ => none
  | cs =>
    (takeSkipping isHexDigit blanks count cs).bind fun found =>
      (codedChar? found.1).map fun c => (⟨c, mark == 'x'⟩, found.2)

/-- The two parts of a text around the first place where `mark` occurs. -/
def cutAround? (mark : List Char) : List Char → Option (List Char × List Char)
  | [] => none
  | c :: rest =>
    if mark.isPrefixOf (c :: rest) then some ([], (c :: rest).drop mark.length)
    else (cutAround? mark rest).map fun parts => (c :: parts.1, parts.2)

/-- What the name of a property in braces asks for; `!=` asks for the opposite. -/
def queryOf (name : List Char) : Query × Bool :=
  match cutAround? ['!', '='] name with
  | some (name, value) => (.valued name value, false)
  | none =>
    match cutAround? [':'] name with
    | some (name, value) => (.valued name value, true)
    | none =>
      match cutAround? ['='] name with
      | some (name, value) => (.valued name value, true)
      | none => (.named name, true)

/-- A property: one letter, or a name in braces. `inside` is false of the opposites. -/
def property? (blanks inside : Bool) (cs : List Char) : Option (SetItem × List Char) :=
  match skip blanks cs with
  | [] => none
  | '{' :: rest =>
    match spanSkipping (· != '}') blanks (skip blanks rest) with
    | (name, _ :: rest) =>
      let (query, straight) := queryOf name
      some (.property query (inside == straight), rest)
    | (_, []) => none
  | '\\' :: _ => none
  | c :: rest => some (.property (.named [c]) inside, rest)

/-- The escapes for kinds of characters; a capital letter means the opposite. -/
def kind? (c : Char) : Option SetItem :=
  match c with
  | 'd' => some (.kind .digit true)
  | 'D' => some (.kind .digit false)
  | 's' => some (.kind .blank true)
  | 'S' => some (.kind .blank false)
  | 'w' => some (.kind .word true)
  | 'W' => some (.kind .word false)
  | _ => none

/-- The escapes for control characters. -/
def control? (c : Char) : Option Char :=
  match c with
  | 'a' => some '\x07'
  | 'f' => some '\x0c'
  | 't' => some '\t'
  | 'n' => some '\n'
  | 'r' => some '\r'
  | 'v' => some '\x0b'
  | _ => none

/-- The demands on places with a letter of their own. -/
def anchor? (c : Char) : Option Anchor :=
  match c with
  | 'A' => some .textStart
  | 'z' => some .textEnd
  | 'b' => some (.word .boundary)
  | 'B' => some (.word .noBoundary)
  | '<' => some (.word .start)
  | '>' => some (.word .stop)
  | _ => none

/-- A character of the name of a place at a word. -/
def isPlaceChar (c : Char) : Bool :=
  c.isAlpha || c == '-'

/-- The places at words by name. -/
def wordPlace? (name : List Char) : Option WordPlace :=
  match String.ofList name with
  | "start" => some .start
  | "end" => some .stop
  | "start-half" => some .startHalf
  | "end-half" => some .stopHalf
  | _ => none

/-- What follows the escape for the boundary of a word. A name in braces asks for one side of it;
other braces are left, since they count repetitions. -/
def boundary? (blanks : Bool) (cs : List Char) : Option (Anchor × List Char) :=
  match cs with
  | '{' :: rest =>
    match skip blanks rest with
    | [] => none
    | c :: rest =>
      if isPlaceChar c then
        match spanSkipping isPlaceChar blanks (c :: rest) with
        | (name, '}' :: rest) => (wordPlace? name).map fun place => (.word place, rest)
        | _ => none
      else some (.word .boundary, cs)
  | _ => some (.word .boundary, cs)

/-- A character of the basic alphabet that a backslash leaves as it is. -/
def isPlainMark (c : Char) : Bool :=
  c.toNat < 128 && !c.isAlphanum && c != '<' && c != '>'

/-- Reads what stands behind a backslash. -/
def escaped? (blanks : Bool) : List Char → Option (Escaped × List Char)
  | [] => none
  | c :: rest =>
    match digitCount? c with
    | some count => (numbered? blanks c count rest).map fun r => (.letter r.1, r.2)
    | none =>
      if c == 'p' || c == 'P' then
        (property? blanks (c == 'p') rest).map fun r => (.set r.1, r.2)
      else if c == 'b' then (boundary? blanks rest).map fun r => (.anchor r.1, r.2)
      else
        match kind? c, control? c, anchor? c with
        | some item, _, _ => some (.set item, rest)
        | _, some control, _ => some (.letter ⟨control, false⟩, rest)
        | _, _, some a => some (.anchor a, rest)
        | none, none, none => if isPlainMark c then some (.letter ⟨c, false⟩, rest) else none

end TriggerScript.Regex
