import TriggerScript.Text.CodeSet
import Std.Data.TreeMap

/-!
# The states of automata

What an automaton over bytes takes while it is built state by state. States are numbered in the
order in which they are made. States for sets of characters are looked up among those made for
the set before; the table for that has a fixed number of slots and each slot keeps only the last
state put there, so that a state may be made again.

* `byteRows` : the characters of a set written in bytes, as rows of byte ranges in ascending order.
* `Tally` : how many states there are, and the room of their transitions.
* `Tally.forwardSet` : the states that read the characters of a set from the first byte on.
* `Tally.backwardSet` : the states that read them from the last byte on.
* `Tally.words` : the states that read one of several words.
-/

namespace TriggerScript.Regex

open TriggerScript.Text

/-! ### Rows of bytes -/

/-- The number of characters that `n` further bytes tell apart. -/
def blockSize : Nat → Nat
  | 0 => 1
  | n + 1 => 64 * blockSize n

/-- The numbers from `first` to `last` as rows of digits in base 64 with `n` digits behind the
first one, where `mark` and then 128 is added to the digits. -/
def digitRows (mark : Nat) : Nat → Nat → Nat → List (List Run)
  | 0, first, last => [[⟨mark + first, mark + last⟩]]
  | n + 1, first, last =>
    let block := blockSize (n + 1)
    let low := first / block
    let high := last / block
    let lead (a b : Nat) : List Run → List Run := (⟨mark + a, mark + b⟩ :: ·)
    if low == high then (digitRows 128 n (first % block) (last % block)).map (lead low low)
    else
      let cutLow := first % block != 0
      let cutHigh := last % block + 1 != block
      let a := if cutLow then low + 1 else low
      let b := if cutHigh then high - 1 else high
      (if cutLow then (digitRows 128 n (first % block) (block - 1)).map (lead low low) else []) ++
      (if a ≤ b then (digitRows 128 n 0 (block - 1)).map (lead a b) else []) ++
      (if cutHigh then (digitRows 128 n 0 (last % block)).map (lead high high) else [])

/-- The code points that take the same number of bytes: the first and last of them, the mark of
their first byte, and how many bytes follow. -/
def lengthBands : List (Run × Nat × Nat) := [
  (⟨0, 0x7F⟩, 0, 0), (⟨0x80, 0x7FF⟩, 0xC0, 1), (⟨0x800, 0xD7FF⟩, 0xE0, 2),
  (⟨0xE000, 0xFFFF⟩, 0xE0, 2), (⟨0x10000, 0x10FFFF⟩, 0xF0, 3)]

/-- The characters of a run as rows of byte ranges. -/
def runRows (r : Run) : List (List Run) :=
  lengthBands.flatMap fun band =>
    let first := max r.first band.1.first
    let last := min r.last band.1.last
    if first ≤ last then digitRows band.2.1 band.2.2 first last else []

/-- The characters of a set as rows of byte ranges. -/
def byteRows (s : CodeSet) : List (List Run) :=
  s.runs.flatMap runRows

/-! ### States -/

/-- The states of an automaton so far. -/
structure Tally where
  states : Nat
  /-- The room of the transitions of states that have several. -/
  extra : Nat
  deriving DecidableEq, Repr

/-- The room of one state. -/
def stateRoom : Nat := 32

/-- The room of one of several transitions of a state over byte ranges. -/
def rangeRoom : Nat := 8

/-- The room of one of several transitions of a state that reads nothing. -/
def forkRoom : Nat := 4

/-- The room there is for one automaton. -/
def roomLimit : Nat := 10 * 1024 * 1024

namespace Tally

def empty : Tally := ⟨0, 0⟩

/-- The room that the states take. -/
def room (t : Tally) : Nat := stateRoom * t.states + t.extra

/-- Whether there is too little room. -/
def isOver (t : Tally) : Bool := roomLimit < t.room

/-- With further states. -/
def add (t : Tally) (states : Nat) : Tally := { t with states := t.states + states }

/-- With a state that has several transitions over byte ranges. -/
def addRanges (t : Tally) (count : Nat) : Tally :=
  ⟨t.states + 1, t.extra + rangeRoom * count⟩

/-- With a state that has several transitions that read nothing. -/
def addFork (t : Tally) (count : Nat) : Tally :=
  ⟨t.states + 1, t.extra + forkRoom * count⟩

end Tally

/-- The slot of a key in a table with `size` slots. -/
def slotOf (size : UInt64) (key : List Nat) : UInt64 :=
  key.foldl (fun h n => (h ^^^ n.toUInt64) * 1099511628211) 14695981039346656037 % size

/-- The states made for a set, each in the slot of its key. -/
structure Slots (κ : Type) where
  size : UInt64
  kept : Std.TreeMap UInt64 (κ × Nat)

/-- The state kept for a key. -/
def Slots.find? {κ : Type} [BEq κ] (slots : Slots κ) (slot : UInt64) (key : κ) : Option Nat :=
  (slots.kept[slot]?).bind fun entry => if entry.1 == key then some entry.2 else none

/-- Keeps a state in place of the one that the slot kept before. -/
def Slots.keep {κ : Type} (slots : Slots κ) (slot : UInt64) (key : κ) (state : Nat) : Slots κ :=
  { slots with kept := slots.kept.insert slot (key, state) }

/-! ## Sets read from the first byte on -/

/-- Byte ranges with the states that they lead to. -/
abbrev Transitions := List (Run × Nat)

/-- The numbers that make up the key of a state. -/
def Transitions.key (ts : Transitions) : List Nat :=
  ts.flatMap fun t => [t.1.first, t.1.last, t.2]

/-- A state with the given transitions: one that is kept, or a new one. -/
def forwardState (transitions : Transitions) (made : Tally × Slots Transitions) :
    Nat × Tally × Slots Transitions :=
  let (t, slots) := made
  let slot := slotOf slots.size transitions.key
  match slots.find? slot transitions with
  | some n => (n, t, slots)
  | none => (t.states, t.addRanges transitions.length, slots.keep slot transitions t.states)

/-- Rows by their first range; rows with the same one stand together. -/
def groupRows (rows : List (List Run)) : List (Run × List (List Run)) :=
  rows.foldr (fun row groups =>
    match row, groups with
    | [], groups => groups
    | r :: rest, (s, more) :: groups =>
      if r = s then (s, rest :: more) :: groups else (r, [rest]) :: (s, more) :: groups
    | r :: rest, [] => [(r, [rest])]) []

/-- The state that reads rows of at most `depth` ranges and leads to the state `stop` behind a
whole row. The states that a state leads to are made before it. -/
def forwardRows (stop : Nat) :
    Nat → List (List Run) → Tally × Slots Transitions → Nat × Tally × Slots Transitions
  | 0, _, made => (stop, made)
  | depth + 1, rows, made =>
    match groupRows rows with
    | [] => (stop, made)
    | groups =>
      let (transitions, made) := groups.foldl (fun (found, made) group =>
        let (n, made) := forwardRows stop depth group.2 made
        ((group.1, n) :: found, made)) (([] : Transitions), made)
      forwardState transitions.reverse made

/-- With the states that read one character of a set from its first byte on. -/
def Tally.forwardSet (t : Tally) (s : CodeSet) : Tally :=
  (forwardRows t.states 4 (byteRows s) (t.add 1, ⟨10000, ∅⟩)).2.1

/-! ## Sets read from the last byte on -/

/-- A byte range with the state that it leads to. -/
abbrev Transition := Nat × Run

/-- A state with the given transition: one that is kept, or a new one. -/
def backwardState (transition : Transition) (made : Tally × Slots Transition) :
    Nat × Tally × Slots Transition :=
  let (t, slots) := made
  let slot := slotOf slots.size [transition.1, transition.2.first, transition.2.last]
  match slots.find? slot transition with
  | some n => (n, t, slots)
  | none => (t.states, t.add 1, slots.keep slot transition t.states)

/-- The states that read one row; the first byte of the row leads to the state `stop`. -/
def backwardRow (stop : Nat) (row : List Run) (made : Tally × Slots Transition) :
    Tally × Slots Transition :=
  (row.foldl (fun (n, made) r => backwardState (n, r) made) (stop, made)).2

/-- With the states that read one character of a set from its last byte on: one from which all
rows begin, the one behind all of them, and those in between. -/
def Tally.backwardSet (t : Tally) (s : CodeSet) : Tally :=
  let rows := byteRows s
  let forked : Tally := (t.addFork rows.length).add 1
  (rows.foldl (fun made row => backwardRow (t.states + 1) row made) (forked, ⟨1000, ∅⟩)).1

/-! ## Words -/

/-- Splits words at those that have come to their end. At the start one such word is as good as
several. -/
def splitWords (words : List (List UInt8)) : List (List (List UInt8)) :=
  let words := match words with
    | [] :: rest => [] :: rest.dropWhile List.isEmpty
    | words => words
  words.foldr (fun word blocks =>
    match word, blocks with
    | [], blocks => [] :: blocks
    | word, block :: blocks => (word :: block) :: blocks
    | word, [] => [[word]]) [[]]

/-- What the words that begin with a byte go on with. -/
def wordsBehind (b : UInt8) (words : List (List UInt8)) : List (List UInt8) :=
  words.filterMap fun word =>
    match word with
    | c :: rest => if c == b then some rest else none
    | [] => none

/-- With the states that read the rest of words of at most `depth` bytes. Words that go on behind
the end of another one are kept apart from those before it. -/
def wordStates : Nat → List (List UInt8) → Tally → Tally
  | 0, _, t => t
  | depth + 1, words, t =>
    if words.all List.isEmpty then t
    else
      let blocks := splitWords words
      let t := blocks.foldl (fun t block =>
        let bytes := (block.filterMap List.head?).eraseDups
        let t := bytes.foldl (fun t b => wordStates depth (wordsBehind b block) t) t
        match bytes.length with
        | 0 => t
        | 1 => t.add 1
        | n => t.addRanges n) t
      t.addFork ((blocks.filter (!·.isEmpty)).length + (blocks.length - 1))

/-- With the states that read one of several words. -/
def Tally.words (t : Tally) (words : List (List UInt8)) : Tally :=
  wordStates ((words.map List.length).foldl max 0 + 1) words (t.add 1)

end TriggerScript.Regex
