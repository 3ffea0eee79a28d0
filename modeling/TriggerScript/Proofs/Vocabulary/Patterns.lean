import TriggerScript.Proofs.Registry.Closing
import TriggerScript.Vocabulary.BuiltIn
import Mathlib.Data.List.Forall2

/-!
# The built-in expressions as they are compiled

Closing the built-in registration compiles five patterns of expressions, which are told here part by
part. The fifth of them takes bare words, with letters in any case.

* `builtInTypes` : the built-in types.
* `variablePattern`, `loopPattern`, `eventPattern`, `barePattern`, `rangePattern` : the patterns.
* `bareWord` : the regular expression for bare words.
* `Knows` : a registry that holds the built-in types and expressions.
* `exists_knows` : the built-in registry does.
* `exists_builtIn` : there is one.
-/

namespace TriggerScript.Vocabulary

open Pattern Text
open Regex hiding Draft

/-! ### Types -/

/-- The built-in types. -/
def builtInTypes : TypeTable := ⟨[objects, booleans, numbers, texts]⟩

/-- The built-in conversions. No two of them follow each other. -/
def builtInConversions : Conversions :=
  ⟨[⟨numberType, textType, numberToText, false⟩, ⟨booleanType, textType, booleanToText, false⟩]⟩

/-- What is registered before the elements. -/
def typesOnly : Registration :=
  { Registration.empty with
    types := builtInTypes
    conversions := builtInConversions
    comparators := ((Comparators.empty.register
      ⟨numberType, numberType, compareNumbers, true⟩).register
      ⟨textType, textType, compareTexts, true⟩).register
      ⟨booleanType, booleanType, compareBooleans, false⟩ }

/-! ### Patterns -/

/-- Takes any characters but line feeds. -/
def anyText : Regex :=
  ⟨#[⟨[⟨0, 9⟩, ⟨11, 55295⟩, ⟨57344, 1114111⟩]⟩],
    .seq (.place .textStart) (.seq (.rep (.one 0) true 1 none) (.place .textEnd))⟩

theorem compile?_anyText : Regex.compile? (wholeText ['.', '+']) = some anyText := by
  decide +kernel

/-- A pattern that may begin with an article. -/
def withArticle (source : String) (elements : List Element) (slots : List Slot)
    (regexes : List Regex) : Pattern :=
  { source, elements := .group [.mk 0 [.literal ['t', 'h', 'e']]] true :: .space :: elements, slots,
    regexes }

def variablePattern : Pattern where
  source := "\\\x7b<.+>\\\x7d"
  elements := [.literal ['\x7b'], .regex 0, .literal ['\x7d']]
  slots := []
  regexes := [anyText]

def loopPattern : Pattern :=
  withArticle "[the] loop-<.+>" [.literal ['l', 'o', 'o', 'p', '-'], .regex 0] [] [anyText]

def eventPattern : Pattern :=
  withArticle "[the] event-<.+>" [.literal ['e', 'v', 'e', 'n', 't', '-'], .regex 0] [] [anyText]

def barePattern (word : Regex) : Pattern :=
  withArticle "[the] <[a-z][a-z ]*>" [.regex 0] [] [word]

/-- A place for one number. -/
def numberSlot : Slot := .one [numberType]

/-- One of two words. -/
def eitherWord (first second : List Char) : Element :=
  .group [.mk 0 [.literal first], .mk 0 [.literal second]] false

def rangePattern : Pattern :=
  withArticle "[the] numbers (from|between) %number% (to|and) %number%"
    [.literal ['n', 'u', 'm', 'b', 'e', 'r', 's'], .space,
      eitherWord ['f', 'r', 'o', 'm'] ['b', 'e', 't', 'w', 'e', 'e', 'n'], .space, .slot 0, .space,
      eitherWord ['t', 'o'] ['a', 'n', 'd'], .space, .slot 1] [numberSlot, numberSlot] []

theorem run_append (types : TypeTable) (source : String) (d : Draft) (first second : List Token) :
    d.run types source (first ++ second) =
      (d.run types source first).bind fun d => d.run types source second := by
  induction first generalizing d with
  | nil => rfl
  | cons token first ih =>
    rw [List.cons_append, Draft.run, Draft.run]
    cases d.step types source token with
    | error fault => rfl
    | ok d => exact ih d

/-- A regular expression that can be compiled is added to the sequence. -/
theorem run_regex {types : TypeTable} {source : String} {d : Draft} {body : List Char} {place : Nat}
    {re : Regex} (hre : Regex.compile? (wholeText body) = some re) :
    d.run types source [.regex body place] =
      .ok { d.push (.regex d.regexes.length) with regexes := d.regexes ++ [re] } := by
  rw [Draft.run, Draft.step, hre]
  rfl

theorem compile_variablePattern (types : TypeTable) :
    compile types variablePattern.source = .ok variablePattern := by
  have htokens : tokens variablePattern.source.toList =
      [.char '\x7b'] ++ [.regex ['.', '+'] 6] ++ [.char '\x7d'] := by
    decide +kernel
  rw [compile, htokens, run_append, run_append]
  simp only [run_regex compile?_anyText]
  rfl

theorem compile_loopPattern : compile builtInTypes loopPattern.source = .ok loopPattern := by
  have htokens : tokens loopPattern.source.toList =
      [.opening '[', .char 't', .char 'h', .char 'e', .delimiter ']' 4, .blank, .char 'l',
        .char 'o', .char 'o', .char 'p', .char '-'] ++ [.regex ['.', '+'] 15] := by
    decide +kernel
  rw [compile, htokens, run_append]
  simp only [run_regex compile?_anyText]
  rfl

theorem compile_eventPattern : compile builtInTypes eventPattern.source = .ok eventPattern := by
  have htokens : tokens eventPattern.source.toList =
      [.opening '[', .char 't', .char 'h', .char 'e', .delimiter ']' 4, .blank, .char 'e',
        .char 'v', .char 'e', .char 'n', .char 't', .char '-'] ++ [.regex ['.', '+'] 16] := by
    decide +kernel
  rw [compile, htokens, run_append]
  simp only [run_regex compile?_anyText]
  rfl

theorem compile_rangePattern : compile builtInTypes rangePattern.source = .ok rangePattern := by
  have htokens : tokens rangePattern.source.toList =
      [.opening '[', .char 't', .char 'h', .char 'e', .delimiter ']' 4, .blank, .char 'n',
        .char 'u', .char 'm', .char 'b', .char 'e', .char 'r', .char 's', .blank, .opening '(',
        .char 'f', .char 'r', .char 'o', .char 'm', .delimiter '|' 19, .char 'b', .char 'e',
        .char 't', .char 'w', .char 'e', .char 'e', .char 'n', .delimiter ')' 27, .blank,
        .slot ['n', 'u', 'm', 'b', 'e', 'r'] 37, .blank, .opening '(', .char 't', .char 'o',
        .delimiter '|' 41, .char 'a', .char 'n', .char 'd', .delimiter ')' 45, .blank,
        .slot ['n', 'u', 'm', 'b', 'e', 'r'] 55] := by
    decide +kernel
  rw [compile, htokens]
  rfl

theorem tokens_bare : tokens "[the] <[a-z][a-z ]*>".toList =
    [.opening '[', .char 't', .char 'h', .char 'e', .delimiter ']' 4, .blank] ++
      [.regex "[a-z][a-z ]*".toList 20] := by
  decide +kernel

/-! ### Bare words

The letters of bare words are looked up in the table of letter case. What a test finds there is
computed with the test in front of the others, which leaves little to compute. -/

theorem filter_foldings (test : Nat × Nat → Bool) :
    foldings.filter test =
      ((foldRuns.flatMap CaseRun.pairs).filter test ++
        (((lowerRuns.flatMap CaseRun.pairs).filter test).filter
          fun p => !latest.containsCode p.1).filter
            fun p => !(CodeSet.ofCodes (foldRuns.flatMap CaseRun.codes)).containsCode p.1).filter
        fun p => p.1 != p.2 := by
  simp only [foldings, CodeSet.lowercasing, List.filter_append, List.filter_filter,
    Bool.and_comm, Bool.and_left_comm, Bool.and_assoc]

/-- The blank and the small letters of the English alphabet. -/
def wordCodes : CodeSet := ⟨[⟨32, 32⟩, ⟨97, 122⟩]⟩

/-- The foldings to and from them: two letters beside the capital ones fold to small ones. -/
def wordFoldings : List (Nat × Nat) :=
  (383, 115) :: (List.range 26).map (fun k => (65 + k, 97 + k)) ++ [(8490, 107)]

theorem filter_foldings_word :
    (foldings.filter fun p => wordCodes.containsCode p.1 || wordCodes.containsCode p.2) =
      wordFoldings := by
  rw [filter_foldings]
  decide +kernel

theorem filter_foldings_of_word {test : Nat × Nat → Bool}
    (h : ∀ p, test p = true → (wordCodes.containsCode p.1 || wordCodes.containsCode p.2) = true) :
    foldings.filter test = wordFoldings.filter test := by
  rw [← filter_foldings_word, List.filter_filter]
  refine List.filter_congr fun p _ => ?_
  cases htest : test p with
  | false => rfl
  | true => exact (h p htest).symm

theorem wordCodes_of_letter {n : Nat} (h : (CodeSet.range 97 122).containsCode n = true) :
    wordCodes.containsCode n = true := by
  simp_all [wordCodes, CodeSet.containsCode, CodeSet.range]

/-- The letters of a set with the small letters among them, in any case. -/
theorem closeCase_of_word {s : CodeSet}
    (hs : ∀ n, s.containsCode n = true → wordCodes.containsCode n = true)
    (htargets : CodeSet.ofCodes ((wordFoldings.filter fun p =>
      s.containsCode p.1 || s.containsCode p.2).map (·.2)) = .range 97 122) :
    closeCase s = .unions [s, .range 97 122, ⟨[⟨65, 90⟩, ⟨383, 383⟩, ⟨8490, 8490⟩]⟩] := by
  have hsources : CodeSet.ofCodes ((wordFoldings.filter fun p =>
      (CodeSet.range 97 122).containsCode p.2).map (·.1)) =
      ⟨[⟨65, 90⟩, ⟨383, 383⟩, ⟨8490, 8490⟩]⟩ := by
    decide +kernel
  rw [closeCase, filter_foldings_of_word fun p h => ?_]
  · simp only [htargets]
    rw [filter_foldings_of_word fun p h => by simp [wordCodes_of_letter h], hsources]
  · rw [Bool.or_eq_true] at h ⊢
    exact h.imp (hs _) (hs _)

/-- The switches inside of patterns. -/
def anyCase : Modes := ⟨true, false, false, false, true, false⟩

theorem set?_union {items : List SetItem} {sets : List CodeSet}
    (h : SetItem.sets? anyCase items = some sets) :
    (SetItem.bracket (.union items) true).set? anyCase = some (closeCase (.unions sets)) := by
  rw [SetItem.set?, SetBody.set?, h]
  rfl

/-- The letters from `a` to `z`. -/
def letterItem : SetItem := .range ⟨'a', false⟩ ⟨'z', false⟩

/-- These and the blank. -/
def wordItems : List SetItem := [letterItem, .range ⟨' ', false⟩ ⟨' ', false⟩]

/-- How bare words are written. -/
def wordForm : Form :=
  .sequence [.switches ⟨[.ignoreCase], []⟩, .anchor .lineStart,
    .group (some ⟨[], []⟩) (.sequence [.set (.bracket (.union [letterItem]) true),
      .repeated (.set (.bracket (.union wordItems) true)) false 0 none]),
    .anchor .lineEnd]

theorem read?_word : Form.read? (wholeText "[a-z][a-z ]*".toList) = some wordForm := by
  have htext : wholeText "[a-z][a-z ]*".toList =
      ['(', '?', 'i', ')', '^', '(', '?', ':', '[', 'a', '-', 'z', ']',
        '[', 'a', '-', 'z', ' ', ']', '*', ')', '$'] := by
    decide +kernel
  rw [htext]
  with_unfolding_all rfl

theorem expr?_word : wordForm.expr? =
    some (Expr.sequence [.empty, .place .textStart,
      Expr.sequence [.ofSet false (closeCase (.unions [.range 97 122])),
        (Expr.ofSet false (closeCase (.unions [.range 97 122, .range 32 32]))).times true 0 none],
      .place .textEnd]) := by
  have hon : Modes.standard.change ⟨[.ignoreCase], []⟩ = anyCase := rfl
  have hsame : anyCase.change ⟨[], []⟩ = anyCase := rfl
  have hfirst : SetItem.sets? anyCase [letterItem] = some [.range 97 122] := rfl
  have hmore : SetItem.sets? anyCase wordItems = some [.range 97 122, .range 32 32] := rfl
  simp only [Form.expr?, wordForm, Form.exprFrom?, Form.exprsFrom?, Option.map_some, hon, hsame,
    set?_union hfirst, set?_union hmore]
  rfl

/-- Takes words of English letters, in any case. -/
def bareWord : Regex :=
  ⟨#[⟨[⟨65, 90⟩, ⟨97, 122⟩, ⟨383, 383⟩, ⟨8490, 8490⟩]⟩,
      ⟨[⟨32, 32⟩, ⟨65, 90⟩, ⟨97, 122⟩, ⟨383, 383⟩, ⟨8490, 8490⟩]⟩],
    .seq (.place .textStart)
      (.seq (.one 0) (.seq (.rep (.one 1) true 0 none) (.place .textEnd)))⟩

theorem compile?_word : Regex.compile? (wholeText "[a-z][a-z ]*".toList) = some bareWord := by
  have hone : CodeSet.unions [.range 97 122] = .range 97 122 := rfl
  have hfirst : closeCase (.unions [.range 97 122]) =
      ⟨[⟨65, 90⟩, ⟨97, 122⟩, ⟨383, 383⟩, ⟨8490, 8490⟩]⟩ := by
    rw [hone, closeCase_of_word (fun _ => wordCodes_of_letter) (by decide +kernel)]
    decide +kernel
  have hboth : CodeSet.unions [.range 97 122, .range 32 32] = wordCodes := rfl
  have hmore : closeCase (.unions [.range 97 122, .range 32 32]) =
      ⟨[⟨32, 32⟩, ⟨65, 90⟩, ⟨97, 122⟩, ⟨383, 383⟩, ⟨8490, 8490⟩]⟩ := by
    rw [hboth, closeCase_of_word (fun _ h => h) (by decide +kernel)]
    decide +kernel
  rw [Regex.compile?, read?_word, Option.bind_some, expr?_word, hfirst, hmore]
  decide +kernel

theorem compile_barePattern :
    compile builtInTypes "[the] <[a-z][a-z ]*>" = .ok (barePattern bareWord) := by
  rw [compile, tokens_bare, run_append]
  simp only [run_regex compile?_word]
  rfl

/-! ### Registered expressions -/

def variableEntry : ExpressionEntry Pattern :=
  ⟨"variable", objectType, .simple, [variablePattern], namedVariable⟩

def loopEntry : ExpressionEntry Pattern :=
  ⟨"loop value", objectType, .simple, [loopPattern], loopValue⟩

def eventEntry (word : Regex) : ExpressionEntry Pattern :=
  ⟨"event value", objectType, .event, [eventPattern, barePattern word], eventValue⟩

def rangeEntry : ExpressionEntry Pattern :=
  ⟨"number range", numberType, .combined, [rangePattern], range⟩

/-- A registry that holds the built-in types and expressions; `word` is how it tells bare words. -/
structure Knows (registry : Registry) (word : Regex) : Prop where
  types : registry.system.types = builtInTypes
  conversions : registry.system.conversions = builtInConversions
  expressions : registry.expressions = [variableEntry, loopEntry, eventEntry word, rangeEntry]

theorem addAll_empty : addAll .empty = .ok (addElements typesOnly) := rfl

theorem closeExpression_of_compile {name returns : String} {priority : Priority} {p : Pattern}
    {setup : Scope → Capture → Setup Expression} {types : TypeTable}
    (hreturns : (types.get? returns).isNone = false) (hp : compile types p.source = .ok p) :
    Registration.closeExpression types ⟨name, returns, priority, [p.source], setup⟩ =
      .ok ⟨name, returns, priority, [p], setup⟩ := by
  rw [Registration.closeExpression, hreturns, Registration.compileAll]
  simp only [Bool.false_eq_true, if_false, List.isEmpty_cons, List.mapM_cons, hp]
  rfl

theorem closeExpression_eventEntry :
    Registration.closeExpression builtInTypes ⟨"event value", objectType, .event,
      [eventPattern.source, "[the] <[a-z][a-z ]*>"], eventValue⟩ = .ok (eventEntry bareWord) := by
  rw [Registration.closeExpression, show (builtInTypes.get? objectType).isNone = false from rfl,
    Registration.compileAll]
  simp only [Bool.false_eq_true, if_false, List.isEmpty_cons, List.mapM_cons,
    compile_eventPattern, compile_barePattern]
  rfl

theorem closeExpressions :
    (addElements typesOnly).expressions.mapM (Registration.closeExpression builtInTypes) =
      .ok [variableEntry, loopEntry, eventEntry bareWord, rangeEntry] :=
  Registration.mapM_eq_ok_iff.2
    (.cons (closeExpression_of_compile rfl (compile_variablePattern _))
      (.cons (closeExpression_of_compile rfl compile_loopPattern)
        (.cons closeExpression_eventEntry
          (.cons (closeExpression_of_compile rfl compile_rangePattern) .nil))))

/-- **The built-in registry holds the built-in expressions.** -/
theorem exists_knows {registry : Registry} (h : builtIn = .ok registry) :
    ∃ word, Knows registry word := by
  rw [builtIn, addAll_empty, Except.bind] at h
  obtain ⟨entries, hclosed⟩ := Registration.closed_of_close h
  cases (Registration.mapM_eq_ok_iff.2 hclosed.compiled).symm.trans closeExpressions
  exact ⟨bareWord, hclosed.types, hclosed.conversions, hclosed.expressions⟩

/-- All built-in patterns can be compiled. -/
theorem exists_builtIn : ∃ registry, builtIn = .ok registry := by
  have hstatements : ((addElements typesOnly).statements.mapM
      (Registration.closeStatement builtInTypes)).toOption.isSome = true := by
    decide +kernel
  have hheaders : ((addElements typesOnly).headers.mapM
      (Registration.closeHeader builtInTypes)).toOption.isSome = true := by
    decide +kernel
  obtain ⟨statements, hstatements⟩ := Option.isSome_iff_exists.1 hstatements
  obtain ⟨headers, hheaders⟩ := Option.isSome_iff_exists.1 hheaders
  rw [builtIn, addAll_empty, Except.bind]
  exact Registration.exists_close closeExpressions (Registration.eq_ok_of_toOption hstatements)
    (Registration.eq_ok_of_toOption hheaders)

end TriggerScript.Vocabulary
