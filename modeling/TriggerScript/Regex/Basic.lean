import Std.Data.TreeSet
import TriggerScript.Regex.Meaning
import TriggerScript.Regex.Reader
import TriggerScript.Regex.Weight

/-!
# Matching regular expressions

A text is read once from left to right. At each place it is known what can be left to match, for
all matches that began before.

Which expressions are well formed and what they match is as documented for the engine `regex` (1.10)
with the settings that it starts with:

* characters are those of the character standard; `.` stands for all but a line feed, `\d`, `\s` and
  `\w` for sets of that standard, `\p` asks for its properties by name, and brackets hold ranges, named
  sets and the operations `&&`, `--` and `~~`;
* `^`, `$`, `\A`, `\z` and the demands on word boundaries say something about a place; there is no
  looking further around and no reference to an earlier group;
* `*`, `+`, `?` and counts in braces repeat the part before them, and a `?` behind them only changes
  which match is preferred, so it does not matter here;
* the switches `i`, `m`, `s`, `R`, `U`, `u` and `x` hold up to the end of the group that they stand in;
* an expression is refused if it nests more than 250 deep or needs more than ten mebibytes
  (`nestingLimit`, `roomLimit`).

Groups with names are left out, so such an expression is refused. In a pattern it would be refused in
any case: there an expression ends at the first `>` without a backslash in front, and a backslash
cannot stand in a name. What an error says is left out as well.

* `Regex` : an expression ready for matching.
* `Regex.compile?` : the expression that a text stands for.
* `Regex.accepts` : whether something in a text matches.
* `Regex.ends` : the beginnings of a text in which something matches.
-/

namespace TriggerScript

open TriggerScript.Text

/-- An expression whose sets of characters are numbered. -/
structure Regex where
  sets : Array CodeSet
  expr : Regex.Expr Nat
  deriving DecidableEq, Inhabited, Repr

namespace Regex

/-- Numbers the sets of an expression, behind those found before. -/
def Expr.numbered (found : Array CodeSet) : Expr CharSet → Expr Nat × Array CodeSet
  | .empty => (.empty, found)
  | .text cs => (.text cs, found)
  | .one s => (.one found.size, found.push s.codes)
  | .place p => (.place p, found)
  | .group r =>
    let (r, found) := r.numbered found
    (.group r, found)
  | .seq r s =>
    let (r, found) := r.numbered found
    let (s, found) := s.numbered found
    (.seq r s, found)
  | .alt r s =>
    let (r, found) := r.numbered found
    let (s, found) := s.numbered found
    (.alt r s, found)
  | .rep r greedy low high =>
    let (r, found) := r.numbered found
    (.rep r greedy low high, found)

/-- An expression made ready for matching. -/
def ofExpr (r : Expr CharSet) : Regex :=
  let (expr, sets) := r.numbered #[]
  ⟨sets, expr⟩

/-- The expression that a text stands for, if it is well formed, names known sets and is not too
large. -/
def compile? (cs : List Char) : Option Regex :=
  ((Form.read? cs).bind Form.expr?).bind fun r => if r.fits then some (ofExpr r) else none

/-- Whether the set with a number holds a character. -/
def holds (re : Regex) (k : Nat) (c : Char) : Bool :=
  (re.sets[k]?).any (·.contains c)

/-- What is left to match at a place, as parts one after the other. -/
abbrev Rest := List (Expr Nat)

/-- Whether nothing has to follow. -/
def Rest.done (before after : Option Char) (rest : Rest) : Bool :=
  rest.all (·.nullable before after)

/-- What can be left behind the character `c`. -/
def Rest.next (re : Regex) (before : Option Char) (c : Char) : Rest → List Rest
  | [] => []
  | r :: more =>
    let first := (r.rests re.holds before c).map (· ++ more)
    if r.nullable before (some c) then first ++ Rest.next re before c more else first

/-- The state of the search at a place in a text. -/
structure Search where
  before : Option Char
  /-- What is left of the matches that have begun, each once. -/
  rests : List Rest
  /-- A match has ended before this place. -/
  found : Bool

/-- The search at the start of a text. -/
def Search.start : Search := ⟨none, [], false⟩

/-- What can be left to match here; a match may begin at any place. -/
def Search.live (re : Regex) (s : Search) : List Rest := [re.expr] :: s.rests

/-- Whether some match has ended, if the text ends here. -/
def Search.accepted (re : Regex) (s : Search) : Bool :=
  s.found || (s.live re).any (Rest.done s.before none)

/-- The search behind the character `c`. -/
def Search.step (re : Regex) (s : Search) (c : Char) : Search where
  before := some c
  rests := (Std.TreeSet.ofList ((s.live re).flatMap (Rest.next re s.before c))).toList
  found := s.found || (s.live re).any (Rest.done s.before (some c))

/-- Whether something in the text matches. -/
def accepts (re : Regex) (text : List Char) : Bool :=
  (text.foldl (Search.step re) .start).accepted re

/-- The lengths of the beginnings in which something matches, where `count` characters came
before. -/
def endsFrom (re : Regex) (s : Search) (count : Nat) : List Char → List Nat
  | [] => []
  | c :: rest =>
    let s := s.step re c
    let further := re.endsFrom s (count + 1) rest
    if s.accepted re then (count + 1) :: further else further

/-- The lengths of the non-empty beginnings in which something matches, shortest first. -/
def ends (re : Regex) (text : List Char) : List Nat :=
  re.endsFrom .start 0 text

theorem lt_of_mem_endsFrom {re : Regex} {s : Search} {count n : Nat} {text : List Char}
    (h : n ∈ re.endsFrom s count text) : count < n := by
  induction text generalizing s count with
  | nil => simp [endsFrom] at h
  | cons c rest ih =>
    simp only [endsFrom] at h
    split at h
    · rcases List.mem_cons.1 h with rfl | h
      · omega
      · have := ih h; omega
    · have := ih h; omega

/-- A beginning is listed exactly if the search accepts it. -/
theorem mem_endsFrom_iff {re : Regex} {s : Search} {count n : Nat} {text : List Char} :
    count + n + 1 ∈ re.endsFrom s count text ↔
      n < text.length ∧ ((text.take (n + 1)).foldl (Search.step re) s).accepted re = true := by
  induction text generalizing s count n with
  | nil => simp [endsFrom]
  | cons c rest ih =>
    have hfar : count + 1 ∉ re.endsFrom (s.step re c) (count + 1) rest := fun h =>
      Nat.lt_irrefl _ (lt_of_mem_endsFrom h)
    have hmore := @ih (s.step re c) (count + 1) (n - 1)
    simp only [endsFrom, List.length_cons, List.take_succ_cons, List.foldl_cons]
    cases n with
    | zero =>
      simp only [Nat.add_zero, List.take_zero, List.foldl_nil, Nat.zero_lt_succ, true_and]
      split
      · rename_i h; simp [h]
      · rename_i h; simp [h, hfar]
    | succ n =>
      have heq : count + (n + 1) + 1 = count + 1 + n + 1 := by omega
      rw [Nat.add_sub_cancel] at hmore
      rw [heq]
      split
      · rw [List.mem_cons, or_iff_right (by omega), hmore]
        exact and_congr (by omega) Iff.rfl
      · rw [hmore]
        exact and_congr (by omega) Iff.rfl

/-- The beginnings of a text that are listed are those in which something matches. -/
theorem mem_ends_iff {re : Regex} {n : Nat} {text : List Char} :
    n + 1 ∈ re.ends text ↔ n < text.length ∧ re.accepts (text.take (n + 1)) = true := by
  have h := @mem_endsFrom_iff re .start 0 n text
  rw [Nat.zero_add] at h
  exact h

end Regex

end TriggerScript
