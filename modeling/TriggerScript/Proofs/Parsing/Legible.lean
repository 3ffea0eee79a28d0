import TriggerScript.Proofs.Parsing.Stubs
import TriggerScript.Proofs.Decimal.ReadBack

/-!
# Expressions that can be read again

What is written down of an expression is not always read as this expression: lists lose the
parentheses around their items, and quotes between percent signs are doubled. Expressions without
such parts are legible.

* `Expression.isLone`, `Expression.bounds?` : single values that are no ranges, and the ends of a range.
* `Expression.canBeListed` : what can stand in a list without parentheses.
* `Expression.legible` : what is read again as it is written down.
* `Alike` : expressions that are written alike, with values of the same type, and as many.
* `Written` : how the text of an expression depends on the text that it was read from.
* `Renews` : what one reader reads is read again by another one.
* `Origin` : how a text is read as an expression, before that is made to fit a slot.
* `origin_of_own` : all single values that are no literals have one.
-/

namespace TriggerScript

open Text

/-- A value that is written as a literal of its own type; an infinite number is none. -/
def Value.isWritable : Value → Bool
  | .number x => Decimal.isFinite x
  | .object _ _ => false
  | _ => true

namespace Expression

/-! ### Parts of lists -/

/-- Whether an expression is no list and no range. -/
def isLone : Expression → Bool
  | .range _ _ => false
  | .list _ _ _ => false
  | .declared _ _ _ => false
  | .converted inner _ => inner.isLone
  | _ => true

/-- The ends of a range. -/
def bounds? : Expression → Option (Expression × Expression)
  | .range low high => some (low, high)
  | .converted inner _ => inner.bounds?
  | _ => none

/-- The characters that are written down of an expression. -/
def spelling (e : Expression) : List Char := (e.describe false).toList

/-- Whether an expression can stand in a list as it is written down: it is a single value, or a
range between two, and no separator of lists stands in it outside of quotes and brackets. -/
def canBeListed (e : Expression) : Bool :=
  decide (Undivided e.spelling) &&
    match e.bounds? with
    | some (low, high) =>
      low.isLone && high.isLone && decide (Undivided low.spelling) &&
        decide (Undivided high.spelling)
    | none => e.isLone

/-- The words that end the first bound of a range. -/
def boundWords : List (List Char) := [['t', 'o'], ['a', 'n', 'd']]

/-- Whether a slot in front of some words takes all that is written down of an expression. -/
def standsBefore (words : List (List Char)) (e : Expression) : Bool :=
  decide (Free words e.spelling)

/-! ### Legible expressions -/

mutual

/-- Whether an expression is read again as it is written down. -/
def legible (scope : Scope) : Expression → Bool
  | .variable name => legibleParts scope false name
  | .loopValue _ _ _ => true
  | .eventValue type =>
    (scope.system.types.get? type).isSome &&
      Vocabulary.eventValue? scope.system.types scope.events type == some type
  | .range low high =>
    legible scope low && legible scope high && low.standsBefore boundWords &&
      high.standsBefore boundWords
  | .literal values _ _ => values.all Value.isWritable
  | .quoted parts => legibleParts scope true parts
  | .list items all _ =>
    legibleAll scope items && items.all canBeListed &&
      (all || items.head?.all fun e => e.bounds?.isNone)
  | .converted inner _ => legible scope inner
  | .declared _ _ _ => false

/-- Whether some expressions are read again as they are written down. -/
def legibleAll (scope : Scope) : List Expression → Bool
  | [] => true
  | e :: rest => legible scope e && legibleAll scope rest

/-- Whether the expressions in a text are read again as they are written down. -/
def legibleParts (scope : Scope) (quoted : Bool) : List Part → Bool
  | [] => true
  | p :: rest => legiblePart scope quoted p && legibleParts scope quoted rest

/-- Whether an expression in a text is read again. Inside quotes it must not have quotes itself. -/
def legiblePart (scope : Scope) (quoted : Bool) : Part → Bool
  | .text _ => true
  | .expression e => legible scope e && !(quoted && e.spelling.contains '"')

end

end Expression

/-! ### Reading again -/

/-- Expressions that are written alike, with values of one type, and both with one value or not. -/
structure Alike (e e' : Expression) : Prop where
  describe : e'.describe false = e.describe false
  returns : e'.returns = e.returns
  single : e'.isSingle = e.isSingle

theorem Alike.refl (e : Expression) : Alike e e := ⟨rfl, rfl, rfl⟩

theorem Alike.converted {e e' : Expression} (h : Alike e e') (target : String) :
    Alike (.converted e target) (.converted e' target) where
  describe := by simp only [Expression.describe, h.describe]
  returns := rfl
  single := by simp only [Expression.isSingle, h.single]

/-- What can be told of the text of an expression from the text that it was read from. -/
structure Written (text spelling : List Char) : Prop where
  leads : leads spelling = true
  last : ∀ c ∈ spelling.getLast?, isBlank c = false
  marks : marks spelling = marks text
  even : Even (spelling.count '%')
  newline : '\n' ∈ spelling → '\n' ∈ text

theorem Written.trimmed {text spelling : List Char} (h : Written text spelling) : Trimmed spelling :=
  ⟨not_isBlank_of_leads h.leads, h.last⟩

/-- A range is spelled as one, and so are its ends. -/
structure Bounded (e low high : Expression) : Prop where
  spelling : e.spelling = Vocabulary.rangeText low.spelling high.spelling
  low_trimmed : Trimmed low.spelling
  high_trimmed : Trimmed high.spelling
  low_lone : low.isLone = true → Lone low.spelling
  high_lone : high.isLone = true → Lone high.spelling

/-- Single values are spelled as such. -/
structure Shaped (e : Expression) : Prop where
  lone : e.isLone = true → Lone e.spelling
  bounds : ∀ low high, e.bounds? = some (low, high) → Bounded e low high

namespace Parsing

/-- What was read from a text is read again by another reader as it is written down. -/
structure Renewed (read' : Reader) (text : String) (slot : Slot) (e : Expression) : Prop where
  written : Written text.toList e.spelling
  shaped : Shaped e
  again : ∃ e', (read' (e.describe false) slot).result = some e' ∧ Alike e e'

/-- What one reader reads is read again by another one, if it is legible. -/
def Renews (scope : Scope) (read read' : Reader) : Prop :=
  ∀ {text slot e}, (read text slot).result = some e → e.legible scope = true →
    Renewed read' text slot e

/-! ### Where single values come from -/

section Origins

open Vocabulary Pattern

variable {registry : Registry} {word : Regex} {scope : Scope} {read : Reader} {text : String}
  {slot : Slot} {e own : Expression}

/-- How a text is read as a single value, before that is made to fit its slot. Only quoted texts
can stand where a literal is asked for. -/
inductive Origin (read : Reader) (scope : Scope) (text : List Char) (slot : Slot) :
    Expression → Prop
  | quoted {content : List Char} {parts : List Part} (hunquote : unquote text = some content)
    (hparts : (runSetup read scope.location (readTemplate true (String.ofList content))).result =
      some parts) : Origin read scope text slot (.quoted parts)
  | number {x : Number} (hfree : slot.literalOnly = false) (hplain : isPlainNumber text = true)
    (hread : Decimal.read? text = some x) :
    Origin read scope text slot (.literal [.number x] numberType true)
  | named {name : List Char} {parts : List Part} (hfree : slot.literalOnly = false)
    (htext : text = braced name) (hname : NameText name) (hparts : (runSetup read scope.location
      (variableName (String.ofList name))).result = some parts) :
    Origin read scope text slot (.variable parts)
  | loop {front name : List Char} {c : Capture} {e : Expression} (hfree : slot.literalOnly = false)
    (htext : text = front ++ name) (hfront : ∀ c ∈ front, isMark c = false) (hname : NameText name)
    (hregex : c.regexes.head? = some (String.ofList name))
    (haccepts : (runSetup read scope.location (loopValue scope c)).result = some e) :
    Origin read scope text slot e
  | event {front name : List Char} {c : Capture} {e : Expression} (hfree : slot.literalOnly = false)
    (htext : text = front ++ name) (hfront : ∀ c ∈ front, isMark c = false)
    (hregex : c.regexes.head? = some (String.ofList name))
    (haccepts : (runSetup read scope.location (eventValue scope c)).result = some e) :
    Origin read scope text slot e
  | range {front rest : List Char} {low high : Span} {first second : Expression}
    (hfree : slot.literalOnly = false) (htext : text = front ++ rest)
    (hfront : ∀ c ∈ front, isMark c = false)
    (hjoined : Joined ['t', 'o'] ['a', 'n', 'd'] low.text high.text rest)
    (hlow : (read (String.ofList low.text) numberSlot).result = some first)
    (hhigh : (read (String.ofList high.text) numberSlot).result = some second) :
    Origin read scope text slot (.range first second)

/-- What a plain number is read as. -/
theorem exists_of_plainNumber? (htypes : scope.system.types = builtInTypes) {value : Value}
    (h : plainNumber? scope.system text slot = some value) :
    isPlainNumber text.toList = true ∧
      ∃ x, Decimal.read? (trim text.toList) = some x ∧ value = .number x := by
  unfold plainNumber? at h
  split at h
  · next hplain =>
    rw [Bool.and_eq_true] at hplain
    refine ⟨hplain.1, ?_⟩
    have hread : builtInTypes.readLiteral? numberType text = (readNumber? text).or none := rfl
    rw [htypes, hread, Option.or_none, readNumber?] at h
    split at h
    · obtain ⟨x, hx, rfl⟩ := Option.map_eq_some_iff.1 h
      exact ⟨x, hx, rfl⟩
    · cases h
  · cases h

/-- What two slots are read as. -/
theorem exists_of_parseSlots_pair {lower upper : Slot} {low high : Span}
    {parts : List (Option Expression)}
    (h : (parseSlots read scope [lower, upper] [some low, some high]).result = some parts) :
    ∃ first second, parts = [some first, some second] ∧
      (read (String.ofList low.text) lower).result = some first ∧
      (read (String.ofList high.text) upper).result = some second := by
  simp only [parseSlots, List.head?_cons, Option.join_some, result_bind, Attempt.result_map,
    Option.bind_eq_some_iff, Option.map_eq_some_iff, List.tail_cons] at h
  obtain ⟨first, hfirst, _, ⟨second, hsecond, _, hnil, rfl⟩, rfl⟩ := h
  cases hnil
  exact ⟨first, second, rfl, hfirst, hsecond⟩

/-- **How a single value is read that is no literal of its slot.** -/
theorem origin_of_own (hknows : Knows registry word) (hsystem : scope.system = registry.system)
    (h : Own registry read scope text slot own) :
    Origin read scope text.toList slot own := by
  have htypes : scope.system.types = builtInTypes := by rw [hsystem, hknows.types]
  cases h with
  | quoted hcontent hparts => exact .quoted hcontent hparts
  | number hfree hvalue =>
    obtain ⟨hplain, x, hread, rfl⟩ := exists_of_plainNumber? htypes hvalue
    rw [trim_of_trimmed (trimmed_of_plain (plain_of_isPlainNumber hplain))] at hread
    exact .number hfree hplain hread
  | @registered p entry c _ hfree hmem haccepts hmatched =>
    obtain ⟨index, p', hp', hmatch⟩ := hmatched
    rw [result_matchPattern_eq] at hmatch
    obtain ⟨split, hsplit, hmatch⟩ := List.exists_of_findSome?_eq_some hmatch
    obtain ⟨parts, hparts, rfl⟩ := Option.map_eq_some_iff.1 hmatch
    rw [Registry.inGroup, hknows.expressions, List.mem_filter] at hmem
    simp only [List.mem_cons, List.not_mem_nil, or_false] at hmem
    rcases hmem.1 with rfl | rfl | rfl | rfl
    · obtain rfl := List.mem_singleton.1 hp'
      obtain ⟨name, hname, htext, rfl⟩ := exists_of_mem_splits_variable hsplit
      rw [show variableEntry.setup = namedVariable from rfl, namedVariable, head?_regexes_capture,
        result_runSetup_map] at haccepts
      obtain ⟨parts', hparts', rfl⟩ := Option.map_eq_some_iff.1 haccepts
      exact .named hfree htext hname hparts'
    · obtain rfl := List.mem_singleton.1 hp'
      obtain ⟨front, name, htext, hfront, -, hname, rfl, -⟩ := exists_of_mem_splits_loop hsplit
      rw [show loopEntry.setup = loopValue from rfl] at haccepts
      exact .loop hfree htext hfront (accepts_anyText_iff.1 hname) head?_regexes_capture haccepts
    · rw [show (eventEntry word).setup = eventValue from rfl] at haccepts
      simp only [eventEntry, List.mem_cons, List.not_mem_nil, or_false] at hp'
      rcases hp' with rfl | rfl
      · obtain ⟨front, name, htext, hfront, -, -, rfl, -⟩ := exists_of_mem_splits_event hsplit
        exact .event hfree htext hfront head?_regexes_capture haccepts
      · obtain ⟨front, name, htext, hfront, rfl, -⟩ := exists_of_mem_splits_bare hsplit
        exact .event hfree htext hfront head?_regexes_capture haccepts
    · obtain rfl := List.mem_singleton.1 hp'
      obtain ⟨front, rest, low, high, htext, hfront, -, -, hjoined, -, rfl⟩ :=
        exists_of_mem_splits_range hsplit
      obtain ⟨first, second, rfl, hfirst, hsecond⟩ := exists_of_parseSlots_pair hparts
      rw [show rangeEntry.setup = range from rfl] at haccepts
      cases haccepts
      exact .range hfree htext hfront hjoined hfirst hsecond

end Origins

end Parsing

end TriggerScript
