import TriggerScript.Text.Cut

/-!
# Sets of characters

A set of code points, kept as runs in ascending order with gaps between them.

* `hexValue?`, `hexNumber`, `hexDigits` : numbers in base sixteen and their digits.
* `CodeSet` : the sets, with `contains`.
* `CodeSet.ofLines` : the set that is written down as runs in base sixteen.
* `CodeSet.union`, `compl`, `inter`, `diff`, `symmDiff` : the operations on sets.
-/

namespace TriggerScript.Text

/-! ### Numbers in base sixteen -/

/-- What a digit in base sixteen is worth. -/
def hexValue? (c : Char) : Option Nat :=
  if c.isDigit then some (c.toNat - '0'.toNat)
  else if 'a' ≤ c && c ≤ 'f' then some (10 + (c.toNat - 'a'.toNat))
  else if 'A' ≤ c && c ≤ 'F' then some (10 + (c.toNat - 'A'.toNat))
  else none

/-- A digit in base sixteen. -/
def isHexDigit (c : Char) : Bool :=
  (hexValue? c).isSome

/-- The number that digits stand for; other characters count as zeros. -/
def hexNumber (cs : List Char) : Nat :=
  cs.foldl (fun n c => 16 * n + (hexValue? c).getD 0) 0

/-- The digits of a number in base sixteen. -/
def hexDigits (n : Nat) : List Char :=
  Nat.toDigits 16 n

/-! ### Runs -/

/-- The code points from `first` to `last`. -/
structure Run where
  first : Nat
  last : Nat
  deriving DecidableEq, Repr, Inhabited

namespace Run

/-- Whether the run holds a code point. -/
def holds (r : Run) (n : Nat) : Bool :=
  r.first ≤ n && n ≤ r.last

/-- Runs in ascending order with one more among them. -/
def insert (r : Run) : List Run → List Run
  | [] => [r]
  | s :: rest => if r.first ≤ s.first then r :: s :: rest else s :: insert r rest

/-- A run and the runs that follow it in ascending order, joined where they overlap or touch. -/
def join (r : Run) : List Run → List Run
  | [] => [r]
  | s :: rest =>
    if s.first ≤ r.last + 1 then join ⟨r.first, max r.last s.last⟩ rest
    else r :: join s rest

/-- The gaps between ascending runs, from `start` to the last code point. -/
def gaps (start : Nat) : List Run → List Run
  | [] => if start ≤ 0x10FFFF then [⟨start, 0x10FFFF⟩] else []
  | r :: rest =>
    if start < r.first then ⟨start, r.first - 1⟩ :: gaps (r.last + 1) rest
    else gaps (r.last + 1) rest

end Run

/-- A set of code points, as runs in ascending order with gaps between them. -/
structure CodeSet where
  runs : List Run
  deriving DecidableEq, Repr, Inhabited

namespace CodeSet

def empty : CodeSet := ⟨[]⟩

/-- The code points from `first` to `last`. -/
def range (first last : Nat) : CodeSet := ⟨[⟨first, last⟩]⟩

/-- One character. -/
def single (c : Char) : CodeSet := range c.toNat c.toNat

/-- The set that runs in any order make up. -/
def ofRuns (runs : List Run) : CodeSet :=
  match runs.foldr Run.insert [] with
  | [] => empty
  | r :: rest => ⟨r.join rest⟩

/-- The set of the given code points. -/
def ofCodes (codes : List Nat) : CodeSet :=
  ofRuns (codes.map fun n => ⟨n, n⟩)

/-- Whether the set holds a code point. -/
def containsCode (s : CodeSet) (n : Nat) : Bool :=
  s.runs.any (·.holds n)

/-- Whether the set holds a character. -/
def contains (s : CodeSet) (c : Char) : Bool :=
  s.containsCode c.toNat

def isEmpty (s : CodeSet) : Bool := s.runs.isEmpty

/-- Every code point of the set is below `bound`. -/
def below (s : CodeSet) (bound : Nat) : Bool :=
  s.runs.all (·.last < bound)

/-- The only character of a set that has just one. -/
def onlyChar? (s : CodeSet) : Option Char :=
  match s.runs with
  | [r] => if r.first == r.last then some (Char.ofNat r.first) else none
  | _ => none

def union (s t : CodeSet) : CodeSet :=
  match s.runs.foldr Run.insert t.runs with
  | [] => empty
  | r :: rest => ⟨r.join rest⟩

/-- The code points that are halves of a pair of units and no characters. -/
def surrogates : CodeSet := range 0xD800 0xDFFF

/-- The characters outside the set. -/
def compl (s : CodeSet) : CodeSet :=
  ⟨Run.gaps 0 (s.union surrogates).runs⟩

def inter (s t : CodeSet) : CodeSet :=
  (s.compl.union t.compl).compl

def diff (s t : CodeSet) : CodeSet :=
  (s.compl.union t).compl

/-- What just one of the two sets holds. -/
def symmDiff (s t : CodeSet) : CodeSet :=
  (s.diff t).union (t.diff s)

/-- The union of several sets. -/
def unions (sets : List CodeSet) : CodeSet :=
  ofRuns (sets.flatMap (·.runs))

/-- Every second code point from `first` to `last`. -/
def everySecond (first last : Nat) : List Run :=
  (List.range ((last - first) / 2 + 1)).map fun i => ⟨first + 2 * i, first + 2 * i⟩

/-- The runs that a word stands for: `41`, `41-5A`, or `100-136/2` for every second one. -/
def runsOfWord (word : List Char) : List Run :=
  match pieces '-' word with
  | [one] => if one.isEmpty then [] else [⟨hexNumber one, hexNumber one⟩]
  | [first, last] =>
    match pieces '/' last with
    | [last, _] => everySecond (hexNumber first) (hexNumber last)
    | _ => [⟨hexNumber first, hexNumber last⟩]
  | _ => []

/-- The set that lines of words stand for. -/
def ofLines (lines : List String) : CodeSet :=
  ofRuns (lines.flatMap fun line => (pieces ' ' line.toList).flatMap runsOfWord)

end CodeSet

end TriggerScript.Text
