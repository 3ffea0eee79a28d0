import TriggerScript.Pattern.Element
import TriggerScript.Text.Cut
import TriggerScript.Text.LetterCase

/-!
# Matching patterns

A pattern can match a text in several ways: a slot takes more or less of it. The ways are offered
one after the other until one is taken.

* `Cursor` : a place in a text.
* `Split` : one way to match, given by what each slot and each regular expression takes.
* `Cursor.slotEnds` : where a slot may end: outside quotes and brackets and not at a blank.
* `Element.run`, `runElements` : the ways to match parts of a pattern, with what comes next.
* `Pattern.offer` : offers the ways to match a whole text.
* `Pattern.splits`, `Pattern.first?` : all ways, and the first.
-/

namespace TriggerScript

/-- A place in a text: the number of bytes before it, the character before it, and the rest. -/
structure Cursor where
  offset : Nat
  before : Option Char
  rest : List Char
  deriving DecidableEq, Repr, Inhabited

/-- The part of a text that a slot takes, with its places in bytes. -/
structure Span where
  start : Nat
  stop : Nat
  text : List Char
  deriving DecidableEq, Repr, Inhabited

/-- One way to match a text. -/
structure Split where
  /-- The marks of the alternatives taken, as bits. -/
  mark : Int32
  /-- What each slot takes; none for a slot in a part left out. -/
  spans : List (Option Span)
  /-- What each regular expression takes. -/
  regexes : List (Option (List Char))
  deriving DecidableEq, Repr, Inhabited

/-- The texts taken by regular expressions, from left to right. -/
def Split.regexTexts (s : Split) : List (List Char) :=
  s.regexes.filterMap id

namespace Cursor

/-- The start of a text. -/
def start (text : List Char) : Cursor := ⟨0, none, text⟩

/-- The place behind the next `n` characters. -/
def skip : Nat → Cursor → Cursor
  | 0, cur => cur
  | n + 1, cur =>
    match cur.rest with
    | [] => cur
    | c :: rest => skip n ⟨cur.offset + c.utf8Size, some c, rest⟩

/-- The text from one place to a later one. -/
def textTo (cur stop : Cursor) : List Char :=
  cur.rest.take (cur.rest.length - stop.rest.length)

def spanTo (cur stop : Cursor) : Span :=
  ⟨cur.offset, stop.offset, cur.textTo stop⟩

/-- The place behind a literal, if it stands here in some letter case. -/
def afterLiteral? : List Char → Cursor → Option Cursor
  | [], cur => some cur
  | expected :: more, cur =>
    match cur.rest with
    | c :: rest =>
      if Text.sameLetter c expected then
        afterLiteral? more ⟨cur.offset + c.utf8Size, some c, rest⟩
      else none
    | [] => none

/-- The place behind all blanks that stand here. Without any, blanks are also matched at the
start, at the end and right behind a blank, where a part next to them was left out. -/
def afterSpace? (cur : Cursor) : Option Cursor :=
  match cur.rest.takeWhile Text.isBlank with
  | [] =>
    if cur.rest.isEmpty || cur.before.all Text.isBlank then some cur else none
  | blanks => some (cur.skip blanks.length)

/-- The places behind the next characters where a slot may end, shortest first, given the depth
of brackets and whether a quote is open. A bracket that was not opened here ends the search. The
depth has no bound; a counter of 32 bits with a sign shows the same for every text of fewer than 2^31
characters. -/
def endsWithin (depth : Nat) (quoted : Bool) (offset : Nat) : List Char → List Cursor
  | [] => []
  | c :: rest =>
    let here : Cursor := ⟨offset + c.utf8Size, some c, rest⟩
    let next (depth : Nat) (quoted : Bool) : List Cursor :=
      let further := endsWithin depth quoted (offset + c.utf8Size) rest
      if !quoted && depth == 0 && !Text.isBlank c then here :: further else further
    if quoted then next depth (c != '"')
    else if c == '"' then next depth true
    else if c == '(' || c == '{' then next (depth + 1) false
    else if c == ')' || c == '}' then
      match depth with
      | 0 => []
      | d + 1 => next d false
    else next depth false

/-- The places where a slot that starts here may end. It cannot start at a blank. -/
def slotEnds (cur : Cursor) : List Cursor :=
  match cur.rest with
  | [] => []
  | c :: _ => if Text.isBlank c then [] else endsWithin 0 false cur.offset cur.rest

end Cursor

/-- What happens to a way to match so far: whether the search ends, and the new state. -/
abbrev Continue (σ : Type) := Cursor → Split → σ → Bool × σ

/-- Tries the candidates in order until the search ends. -/
@[grind =]
def tryEach {α σ : Type} (f : α → σ → Bool × σ) : List α → σ → Bool × σ
  | [], s => (false, s)
  | a :: rest, s =>
    match f a s with
    | (true, s) => (true, s)
    | (false, s) => tryEach f rest s

mutual

/-- Offers the ways to match one part here to what comes next. -/
def Element.run {σ : Type} (p : Pattern) : Element → Cursor → Split → Continue σ → σ → Bool × σ
  | .literal cs, cur, split, next, s =>
    match cur.afterLiteral? cs with
    | some stop => next stop split s
    | none => (false, s)
  | .space, cur, split, next, s =>
    match cur.afterSpace? with
    | some stop => next stop split s
    | none => (false, s)
  | .group alternatives optional, cur, split, next, s =>
    match runAlternatives p alternatives cur split next s with
    | (true, s) => (true, s)
    | (false, s) => if optional then next cur split s else (false, s)
  | .slot i, cur, split, next, s =>
    let ends := cur.slotEnds
    let ends := if (p.slots[i]?.map (·.greedy)).getD false then ends.reverse else ends
    tryEach (fun stop s =>
      next stop { split with spans := split.spans.set i (some (cur.spanTo stop)) } s) ends s
  | .regex i, cur, split, next, s =>
    match p.regexes[i]? with
    | none => (false, s)
    | some r =>
      tryEach (fun n s =>
        let stop := cur.skip n
        next stop { split with regexes := split.regexes.set i (some (cur.textTo stop)) } s)
        (r.ends cur.rest) s

/-- Offers the ways to match parts one after the other. -/
def runElements {σ : Type} (p : Pattern) :
    List Element → Cursor → Split → Continue σ → σ → Bool × σ
  | [], cur, split, next, s => next cur split s
  | e :: rest, cur, split, next, s =>
    e.run p cur split (fun cur split s => runElements p rest cur split next s) s

/-- Offers the ways to match one of several alternatives, in order. -/
def runAlternatives {σ : Type} (p : Pattern) :
    List Alternative → Cursor → Split → Continue σ → σ → Bool × σ
  | [], _, _, _, s => (false, s)
  | .mk mark elements :: rest, cur, split, next, s =>
    match runElements p elements cur { split with mark := split.mark ||| mark } next s with
    | (true, s) => (true, s)
    | (false, s) => runAlternatives p rest cur split next s

end

attribute [grind =] Element.run runElements runAlternatives

namespace Pattern

/-- A way to match before anything is matched. -/
def blankSplit (p : Pattern) : Split :=
  ⟨0, p.slots.map fun _ => none, p.regexes.map fun _ => none⟩

/-- Offers every way to match a whole text to `sink` until it takes one. The result tells whether
one was taken, and the state that the sink was left in. -/
def offer {σ : Type} (p : Pattern) (text : List Char) (sink : Split → σ → Bool × σ) (s : σ) :
    Bool × σ :=
  runElements p p.elements (.start text) p.blankSplit
    (fun cur split s => if cur.rest.isEmpty then sink split s else (false, s)) s

/-- All ways to match a text, in the order in which they are offered. -/
def splits (p : Pattern) (text : List Char) : List Split :=
  (p.offer text (fun split found => (false, split :: found)) []).2.reverse

/-- The first way to match a text. -/
def first? (p : Pattern) (text : List Char) : Option Split :=
  (p.offer text (fun split _ => (true, some split)) none).2

/-- The ways offered to a sink that takes the one with the given number, and whether there was
one. -/
def offered (p : Pattern) (text : List Char) (limit : Nat) : List Split × Bool :=
  let (taken, found) := p.offer text
    (fun split found => (limit ≤ found.length + 1, split :: found)) ([] : List Split)
  (found.reverse, taken)

end Pattern

end TriggerScript
