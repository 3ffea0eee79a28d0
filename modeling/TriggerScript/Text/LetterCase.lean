import TriggerScript.Text.Property

/-!
# Letter case

Lowering a text and comparing texts without regard to case.

* `lowerChar` : the lowercase of one character, which may be two characters.
* `lower` : the lowercase of a text; a capital sigma that ends a word becomes a final sigma.
* `sameAscii` : equality that ignores the case of `a` to `z` only.
-/

namespace TriggerScript.Text

/-- The code point that a table of runs sends `n` to, if any. -/
def runTarget (runs : List CaseRun) (n : Nat) : Option Nat :=
  (runs.find? (·.covers n)).map (·.apply n)

/-- The lowercase of one character. Only the capital dotted I has two characters. -/
def lowerChar (c : Char) : List Char :=
  if c.toNat < 128 then [c.toLower]
  else if c == 'İ' then ['i', '\u0307']
  else match runTarget lowerRuns c.toNat with
    | some n => [Char.ofNat n]
    | none => [c]

/-- Characters that have case, the latest included. -/
def casedNow : CodeSet := (CodeSet.cased.union latestCased).diff latestUncased

/-- Characters that a word may hold without taking part in its case, the latest included. -/
def caseIgnorableNow : CodeSet := .unions [.caseIgnorable, latestMarks, latestModifiers]

/-- A letter that has case, or a letter-like mark of one. -/
def isCased (c : Char) : Bool :=
  if c.toNat < 128 then c.isAlpha else casedNow.contains c

/-- A character that a word may hold without taking part in its case. -/
def isCaseIgnorable (c : Char) : Bool :=
  if c.toNat < 128 then ['\'', '.', ':', '^', '`'].contains c
  else caseIgnorableNow.contains c

/-- Whether the first character that takes part in case is a cased letter. -/
def startsCased (cs : List Char) : Bool :=
  match cs.dropWhile isCaseIgnorable with
  | c :: _ => isCased c
  | [] => false

/-- The lowercase of a text that follows `before`, which is given in reverse. -/
def lowerAfter (before : List Char) : List Char → List Char
  | [] => []
  | c :: rest =>
    if c == 'Σ' then
      (if startsCased before && !startsCased rest then 'ς' else 'σ') ::
        lowerAfter (c :: before) rest
    else lowerChar c ++ lowerAfter (c :: before) rest

/-- The lowercase of a text. -/
def lower (cs : List Char) : List Char :=
  lowerAfter [] cs

/-- `lower` on strings. -/
def lowerString (s : String) : String :=
  String.ofList (lower s.toList)

/-- Two characters with the same lowercase. -/
def sameLetter (a b : Char) : Bool :=
  a == b || lowerChar a == lowerChar b

/-- Equality up to the case of `A` to `Z`. -/
def sameAscii (a b : List Char) : Bool :=
  a.map Char.toLower == b.map Char.toLower

/-- Takes `word` off the front of a text, ignoring the case of `A` to `Z`. -/
def afterWord? (word cs : List Char) : Option (List Char) :=
  if sameAscii (cs.take word.length) word then some (cs.drop word.length) else none

theorem afterWord?_eq_some {word cs rest : List Char} (h : afterWord? word cs = some rest) :
    rest = cs.drop word.length := by
  unfold afterWord? at h
  split at h
  · exact (Option.some.inj h).symm
  · cases h

/-- Order of two texts by code point. -/
def compareChars : List Char → List Char → Ordering
  | [], [] => .eq
  | [], _ :: _ => .lt
  | _ :: _, [] => .gt
  | a :: as, b :: bs => (compare a.toNat b.toNat).then (compareChars as bs)

/-- Order of two strings by code point. -/
def compareStrings (a b : String) : Ordering :=
  compareChars a.toList b.toList

end TriggerScript.Text
