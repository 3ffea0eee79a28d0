import TriggerScript.Proofs.Parsing.Readings
import TriggerScript.Proofs.Pattern.Splits
import TriggerScript.Proofs.Vocabulary.Patterns
import TriggerScript.Proofs.Vocabulary.Template

/-!
# Variables in texts

A text between braces is a variable wherever variables are tried first: the pattern of variables
matches it in one way, and any slot that names a type takes the values of variables.

* `accepts_anyText_iff` : the regular expression in the pattern of variables takes the non-empty texts
  without line feeds.
* `splits_variablePattern` : the one way to match a text between braces.
* `TriesVariables` : a registry that tries variables before anything else; one that holds the
  built-in expressions and no others does.
* `result_parseWithin_braced` : a text between braces is read as a variable, fitted to the slot.
-/

namespace TriggerScript

namespace Vocabulary

open Regex Pattern

/-! ### Names -/

/-- What is left to match of a name behind its first character. -/
def moreText : Regex.Rest := [.rep (.one 0) true 0 none, .place .textEnd]

/-- The search for a name behind a character; it is alive unless a line feed has come. -/
def searching (alive : Bool) (c : Char) : Search := ⟨some c, if alive then [moreText] else [], false⟩

theorem holds_anyText (c : Char) : anyText.holds 0 c = (c != '\n') := by
  rw [Bool.eq_iff_iff, bne_iff_ne, ne_eq, ← Char.toNat_inj]
  have hvalid : c.toNat ≤ 55295 ∨ 57344 ≤ c.toNat ∧ c.toNat ≤ 1114111 := by
    have := c.valid
    simp only [UInt32.isValidChar, Nat.isValidChar] at this
    change _ ∨ _ at this
    have h : c.val.toNat = c.toNat := rfl
    omega
  simp [Regex.holds, anyText, Text.CodeSet.contains, Text.CodeSet.containsCode, Text.Run.holds]
  omega

theorem next_start (c : Char) :
    Rest.next anyText none c [anyText.expr] = if c = '\n' then [] else [moreText] := by
  have h := holds_anyText c
  by_cases hc : c = '\n' <;>
    simp_all [Rest.next, Expr.rests, Expr.nullable, Place.holds, anyText, moreText]

theorem next_later (b c : Char) : Rest.next anyText (some b) c [anyText.expr] = [] := by
  simp [Rest.next, Expr.rests, Expr.nullable, Place.holds, anyText]

theorem next_moreText (b c : Char) :
    Rest.next anyText (some b) c moreText = if c = '\n' then [] else [moreText] := by
  have h := holds_anyText c
  by_cases hc : c = '\n' <;>
    simp_all [Rest.next, Expr.rests, Expr.nullable, Place.holds, anyText, moreText]

/-- What is left of a name never has ended before another character. -/
theorem not_done (b : Option Char) (c : Char) {rest : Regex.Rest}
    (h : rest = [anyText.expr] ∨ rest = moreText) : Rest.done b (some c) rest = false := by
  rcases h with rfl | rfl <;> simp [Rest.done, anyText, moreText, Expr.nullable, Place.holds]

theorem step_eq_searching {s : Search} {c : Char} {alive : Bool} (hfound : s.found = false)
    (hlive : ∀ rest ∈ s.live anyText, rest = [anyText.expr] ∨ rest = moreText)
    (hnext : (s.live anyText).flatMap (Rest.next anyText s.before c) =
      if alive then [moreText] else []) : s.step anyText c = searching alive c := by
  have hdone : (s.live anyText).any (Rest.done s.before (some c)) = false :=
    List.any_eq_false.2 fun rest hrest => by simp [not_done s.before c (hlive rest hrest)]
  rw [Search.step, hnext, hfound, hdone, searching]
  cases alive <;> rfl

theorem step_start (c : Char) : Search.start.step anyText c = searching (c != '\n') c := by
  refine step_eq_searching rfl (by simp [Search.live, Search.start]) ?_
  rw [Search.live, Search.start, List.flatMap_singleton, next_start]
  by_cases hc : c = '\n' <;> simp [hc]

theorem step_searching (alive : Bool) (b c : Char) :
    (searching alive b).step anyText c = searching (alive && c != '\n') c := by
  refine step_eq_searching rfl (by cases alive <;> simp [Search.live, searching]) ?_
  rw [Search.live, searching, List.flatMap_cons, next_later, List.nil_append]
  by_cases hc : c = '\n' <;> cases alive <;> simp [next_moreText, hc]

theorem foldl_searching (alive : Bool) (b : Char) (text : List Char) :
    text.foldl (Search.step anyText) (searching alive b) =
      searching (alive && text.all (· != '\n')) (text.getLast?.getD b) := by
  induction text generalizing alive b with
  | nil => simp
  | cons c rest ih =>
    rw [List.foldl_cons, step_searching, ih, List.all_cons, Bool.and_assoc, List.getLast?_cons]
    simp

theorem accepted_searching (alive : Bool) (b : Char) :
    (searching alive b).accepted anyText = alive := by
  have hstart : Rest.done (some b) none [anyText.expr] = false := by
    simp [Rest.done, anyText, Expr.nullable, Place.holds]
  have hmore : Rest.done (some b) none moreText = true := by
    simp [Rest.done, moreText, Expr.nullable, Place.holds]
  rw [Search.accepted, Search.live, searching, List.any_cons, hstart]
  cases alive with
  | false => rfl
  | true => simp [hmore]

/-- The regular expression takes the non-empty texts without line feeds. -/
theorem accepts_anyText_iff {text : List Char} :
    anyText.accepts text = true ↔ text ≠ [] ∧ '\n' ∉ text := by
  cases text with
  | nil => simp [accepts, Search.accepted, Search.live, Search.start, Rest.done, anyText,
      Expr.nullable]
  | cons c rest =>
    rw [accepts, List.foldl_cons, step_start, foldl_searching, accepted_searching]
    simp only [Bool.and_eq_true, bne_iff_ne, List.all_eq_true, ne_eq, reduceCtorEq,
      not_false_eq_true, true_and, List.mem_cons, not_or]
    exact and_congr ne_comm ⟨fun h hmem => h _ hmem rfl, fun h x hx heq => h (heq ▸ hx)⟩

/-! ### The pattern of variables -/

/-- The texts between braces that the pattern of variables takes for a name. -/
def NameText (inner : List Char) : Prop := inner ≠ [] ∧ '\n' ∉ inner

/-- A text between braces. -/
def braced (inner : List Char) : List Char := '{' :: inner ++ ['}']

theorem eq_singleton_of_pairwise {α : Type} {r : α → α → Prop} {xs : List α} {a : α}
    (hpairwise : xs.Pairwise r) (hirrefl : ¬r a a) (h : ∀ x, x ∈ xs ↔ x = a) : xs = [a] := by
  match xs, hpairwise with
  | [], _ => exact absurd ((h a).2 rfl) List.not_mem_nil
  | [x], _ => rw [(h x).1 List.mem_cons_self]
  | x :: y :: rest, hpairwise =>
    obtain rfl := (h x).1 List.mem_cons_self
    obtain rfl := (h y).1 (List.mem_cons_of_mem _ List.mem_cons_self)
    exact absurd ((List.pairwise_cons.1 hpairwise).1 _ List.mem_cons_self) hirrefl

/-- There is one way to match a text between braces, by which the regular expression takes all that
stands between them. -/
theorem complete_variablePattern_iff {inner : List Char} (h : NameText inner) {ways : List Way} :
    variablePattern.Complete (braced inner) ways ↔
      ways = [.literal ['{'], .regex 0 inner, .literal ['}']] := by
  constructor
  · rintro ⟨hfit, htext⟩
    cases hfit with
    | cons hopen hrest =>
    cases hrest with
    | cons hname hrest =>
    cases hrest with
    | cons hclose hrest =>
    cases hrest
    cases hopen with
    | literal hopen =>
    cases hname with
    | regex _ _ _ =>
    cases hclose with
    | literal hclose =>
    -- Both literals take one character, and the name what is left.
    obtain ⟨c, _, -, hnil, rfl⟩ := List.forall₂_cons_right_iff.1 hopen
    obtain rfl := List.forall₂_nil_right_iff.1 hnil
    obtain ⟨d, _, -, hnil, rfl⟩ := List.forall₂_cons_right_iff.1 hclose
    obtain rfl := List.forall₂_nil_right_iff.1 hnil
    simp only [waysText, Way.text, braced, List.cons_append, List.nil_append,
      List.cons.injEq, List.append_nil] at htext
    obtain ⟨rfl, htext⟩ := htext
    obtain ⟨rfl, hd⟩ := List.append_inj' htext rfl
    cases hd
    rfl
  · rintro rfl
    have hsame (c : Char) : Text.sameLetter c c = true := by simp [Text.sameLetter]
    refine ⟨.cons (.literal (.cons (hsame _) .nil)) (.cons (.regex rfl h.1 ?_)
      (.cons (.literal (.cons (hsame _) .nil)) .nil)), by simp [waysText, Way.text, braced]⟩
    exact accepts_anyText_iff.2 h

theorem splits_variablePattern {inner : List Char} (h : NameText inner) :
    variablePattern.splits (braced inner) = [⟨0, [], [some inner]⟩] := by
  rw [splits_eq_map, eq_singleton_of_pairwise pairwise_completeWays (fun hsame => hsame.asymm hsame)
    fun ways => mem_completeWays_iff.trans (complete_variablePattern_iff h)]
  rfl

end Vocabulary

namespace Parsing

open Vocabulary

variable {registry : Registry} {scope : Scope} {read : Reader} {slot : Slot} {inner : List Char}

/-! ### Reading variables -/

/-- A pattern without slots takes its first split. -/
theorem matchPattern_of_splits {p : Pattern} {text : String} {split : Split} {rest : List Split}
    (index : Nat) (hslots : p.slots = []) (hsplits : p.splits text.toList = split :: rest) :
    matchPattern read scope index p text = .ok (capture index split []) := by
  rw [matchPattern, Pattern.offer_eq_tryEach, hsplits, hslots]
  rfl

/-- The registry tries variables before anything else. -/
structure TriesVariables (registry : Registry) : Prop where
  exact : registry.inGroup .exact = []
  simple : ∃ rest, registry.inGroup .simple = variableEntry :: rest

theorem triesVariables_of_knows {word : Regex} (h : Knows registry word) :
    TriesVariables registry where
  exact := by
    rw [Registry.inGroup, h.expressions]
    rfl
  simple := by
    rw [Registry.inGroup, h.expressions]
    exact ⟨[loopEntry], rfl⟩

theorem priority_of_closeExpression {types : TypeTable} {e : ExpressionEntry String}
    {entry : ExpressionEntry Pattern}
    (h : Registration.closeExpression types e = .ok entry) : entry.priority = e.priority := by
  unfold Registration.closeExpression at h
  split at h
  · cases h
  · cases hpatterns : Registration.compileAll types e.name e.patterns with
    | error fault =>
      rw [hpatterns] at h
      cases h
    | ok patterns =>
      rw [hpatterns] at h
      cases h
      rfl

/-- Whatever types there are, the built-in expressions begin with variables. -/
theorem triesVariables_of_close {r : Registration}
    (hexpressions : r.expressions = (addExpressions .empty).expressions)
    (hclose : r.close = .ok registry) : TriesVariables registry := by
  obtain ⟨entries, hclosed⟩ := Registration.closed_of_close hclose
  have hcompiled := hclosed.compiled
  rw [hexpressions] at hcompiled
  cases hcompiled with
  | @cons _ variableCompiled _ _ hvariable hrest =>
  cases hrest with
  | @cons _ loopCompiled _ _ hloop hrest =>
  cases hrest with
  | @cons _ eventCompiled _ _ hevent hrest =>
  cases hrest with
  | @cons _ rangeCompiled _ _ hrange hrest =>
  cases hrest
  have hknown : (r.types.get? objectType).isNone = false := by
    by_contra hnone
    rw [Registration.closeExpression, if_pos (by simpa using hnone)] at hvariable
    cases hvariable
  obtain rfl : variableCompiled = variableEntry := by
    cases hvariable.symm.trans
      (closeExpression_of_compile hknown (compile_variablePattern r.types))
    rfl
  have hgroup (p : Priority) := Registration.inGroup_of_closed hclosed p
  have hpriorities := And.intro (priority_of_closeExpression hloop)
    (And.intro (priority_of_closeExpression hevent) (priority_of_closeExpression hrange))
  refine ⟨?_, [loopCompiled], ?_⟩
  · rw [hgroup]
    simp [hpriorities, variableEntry]
  · rw [hgroup]
    simp [hpriorities, variableEntry]

/-- Any slot that names a type takes the values of variables. -/
theorem isSome_acceptance?_object (system : TypeSystem) {required : List String}
    (h : required ≠ []) : (system.acceptance? objectType required).isSome := by
  unfold TypeSystem.acceptance?
  split
  · rfl
  · split
    · rfl
    · obtain ⟨first, rest, rfl⟩ := List.exists_cons_of_ne_nil h
      rw [List.find?_cons, TypeTable.isAssignable_object]
      rfl

/-- A variable as a slot takes it. -/
def fitVariable (parts : List Part) : Acceptance → Expression
  | .direct => .variable parts
  | .convert target => .converted (.variable parts) target

theorem convertExpression?_variable (system : TypeSystem) (required : List String)
    (parts : List Part) : convertExpression? system required (.variable parts) =
      (system.acceptance? objectType required).map (fitVariable parts) := by
  have hconstants : (Expression.variable parts).constants? = none := by
    rw [Expression.constants?] <;> intros <;> contradiction
  rw [convertExpression?, hconstants, Expression.returns]
  cases system.acceptance? objectType required with
  | none => rfl
  | some acceptance => cases acceptance <;> rfl

theorem isSingle_fitVariable (parts : List Part) (acceptance : Acceptance) :
    (fitVariable parts acceptance).isSingle = true := by
  cases acceptance <;> simp [fitVariable, Expression.isSingle]

theorem unquote_braced : Text.unquote (braced inner) = none := by
  simp [Text.unquote, braced]

theorem isPlainNumber_braced : Text.isPlainNumber (braced inner) = false := by
  simp [Text.isPlainNumber, braced, Text.isUnsignedNumber, Text.isDigits]

theorem result_tryEntry_variable {text : String} (htext : text.toList = braced inner)
    (hname : NameText inner) {parts : List Part}
    (hparts : (runSetup read scope.location (variableName (String.ofList inner))).result =
      some parts) :
    (tryEntry read scope text slot variableEntry).result =
      convertExpression? scope.system slot.types (.variable parts) := by
  have hsplits : variablePattern.splits text.toList = [⟨0, [], [some inner]⟩] := by
    rw [htext, splits_variablePattern hname]
  have hmatch : (matchElement read scope namedVariable [variablePattern] text).result =
      some (.variable parts) := by
    have hsetup : namedVariable scope (capture 0 ⟨0, [], [some inner]⟩ []) =
        (variableName (String.ofList inner)).map .variable := rfl
    rw [matchElement, numbered, List.zipIdx_singleton, List.map_singleton, result_firstOf,
      List.findSome?_singleton, result_bind, matchPattern_of_splits 0 rfl hsplits, Attempt.ok,
      Option.bind_some, hsetup, result_runSetup_map, hparts, Option.map_some]
  unfold tryEntry
  split
  · next hnone =>
    have hacceptance : scope.system.acceptance? objectType slot.types = none :=
      Option.isNone_iff_eq_none.1 hnone
    rw [convertExpression?_variable, hacceptance]
    rfl
  · rw [result_bind, show (matchElement read scope variableEntry.setup variableEntry.patterns
      text).result = some (.variable parts) from hmatch, Option.bind_some, Attempt.ofOption]

/-- A variable is tried before all other expressions. -/
theorem result_parseSingle_braced (hregistry : TriesVariables registry) {text : String}
    (htext : text.toList = braced inner) (hname : NameText inner) (hfree : slot.literalOnly = false)
    (htypes : slot.types ≠ []) {parts : List Part}
    (hparts : (runSetup read scope.location (variableName (String.ofList inner))).result =
      some parts) :
    (parseSingle registry read scope text slot).result =
      convertExpression? scope.system slot.types (.variable parts) := by
  obtain ⟨rest, hsimple⟩ := hregistry.simple
  obtain ⟨acceptance, hacceptance⟩ :=
    Option.isSome_iff_exists.1 (isSome_acceptance?_object scope.system htypes)
  have hnumber : plainNumber? scope.system text slot = none := by
    rw [plainNumber?, htext, isPlainNumber_braced]
    rfl
  rw [parseSingle, htext, unquote_braced]
  simp only [hfree, Bool.false_eq_true, if_false, hnumber]
  rw [result_orElse, result_firstOf]
  simp only [Priority.inOrder, List.findSome?_cons, hregistry.exact, hsimple, result_tryGroup,
    List.findSome?_nil, result_tryEntry_variable htext hname hparts, convertExpression?_variable,
    hacceptance, Option.map_some, Option.some_or]

/-- A text that has no blanks at its ends is read as it is. -/
theorem parseWithin_of_ends {text : String} {first last : Char}
    (hfirst : Text.isBlank first = false) (hlast : Text.isBlank last = false)
    (htext : text.toList = first :: inner ++ [last]) (depth : Nat) :
    parseWithin registry scope (depth + 1) text slot =
      (parseOnce registry (parseWithin registry scope depth) scope text slot).bind
        (demandSingle scope text slot) := by
  have htrimmed : Text.trim (first :: inner ++ [last]) = first :: inner ++ [last] :=
    Text.trim_of_trimmed ⟨by simp [hfirst], by
      rw [List.getLast?_concat]
      simp [hlast]⟩
  have htrim : Text.trimString text = text := by
    rw [Text.trimString, htext, htrimmed, ← htext, String.ofList_toList]
  have hempty : text.isEmpty = false := by
    rw [String.isEmpty_eq_false_iff]
    rintro rfl
    cases htext
  rw [parseWithin]
  simp only [htrim, hempty, Bool.false_eq_true, if_false]

theorem result_parseWithin_of_ends {text : String} {first last : Char}
    (hfirst : Text.isBlank first = false) (hlast : Text.isBlank last = false)
    (htext : text.toList = first :: inner ++ [last]) (depth : Nat) :
    (parseWithin registry scope (depth + 1) text slot).result =
      (parseOnce registry (parseWithin registry scope depth) scope text slot).result.bind fun e =>
        (demandSingle scope text slot e).result := by
  rw [parseWithin_of_ends hfirst hlast htext, result_bind]

/-- A variable whose name is in order is read by itself, and then fitted to the slot. -/
theorem result_parseWithin_braced (hregistry : TriesVariables registry) {text : String}
    (htext : text.toList = braced inner) (hname : NameText inner) (hfree : slot.literalOnly = false)
    (htypes : slot.types ≠ []) {acceptance : Acceptance}
    (hacceptance : scope.system.acceptance? objectType slot.types = some acceptance) {depth : Nat}
    {parts : List Part} (hparts : (runSetup (parseWithin registry scope depth) scope.location
      (variableName (String.ofList inner))).result = some parts) :
    (parseWithin registry scope (depth + 1) text slot).result =
      some (fitVariable parts acceptance) := by
  have hparens : Text.stripParens (braced inner) = none := by
    simp [Text.stripParens, braced]
  rw [result_parseWithin_of_ends (by decide) (by decide) htext, parseOnce, htext, hparens]
  simp only [Attempt.result_framed, result_orElse,
    result_parseSingle_braced hregistry htext hname hfree htypes hparts,
    convertExpression?_variable, hacceptance, Option.map_some, Option.some_or, Option.bind_some]
  rw [demandSingle, isSingle_fitVariable, Bool.not_true, Bool.and_false]
  rfl

end Parsing

end TriggerScript
