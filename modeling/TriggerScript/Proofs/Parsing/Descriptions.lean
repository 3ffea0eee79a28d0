import TriggerScript.Proofs.Parsing.BodyGraph
import TriggerScript.Proofs.Parsing.Headings

/-!
# Descriptions are read again

What is written down of an expression, or of a heading, is a text that is read in the same way. It
fails where too little is written down: a list inside another one loses its parentheses.

* `HeadingSource` : a heading with some lines inside as a source text.
* `readOutline_of_headingSource` : it is read as this heading.
* `HeadingAgain` : what becomes of an item that is written down.
* `builtInRegistry` : the built-in registry itself.
* `descriptions_read_again` : expressions and headings are read again as they are written down.
* `nested_list_not_read_again` : a list inside another one is not.
-/

namespace TriggerScript

open TriggerScript.Flow TriggerScript.Parsing Text Vocabulary Outline

variable {registry : Registry} {item : ScriptItem} {o : Opening Condition Expression}

/-! ### As a source text -/

/-- A source text with one heading and some lines inside it. -/
def HeadingSource (heading : String) (children : List Node) (source : String) : Prop :=
  ∃ unit inner, Blanks unit ∧ unit ≠ [] ∧ Outline.Written unit 2 children inner ∧
    Spelled ((heading.toList ++ [':']) :: inner) source.toList

/-- Without marks of comments nothing is doubled. -/
theorem doubled_of_not_mem {cs : List Char} (h : '#' ∉ cs) : doubled cs = cs := by
  induction cs with
  | nil => rfl
  | cons c cs ih =>
    obtain ⟨hc, hcs⟩ := not_or.1 (mt List.mem_cons.2 h)
    have hone : doubled (c :: cs) = [c] ++ doubled cs := by simp [doubled, replaceChar, Ne.symm hc]
    rw [hone, ih hcs, List.singleton_append]

theorem readOutline_of_headingSource {heading source : String} {children : List Node}
    (hkey : PlainKey heading.toList) (hmark : '#' ∉ heading.toList)
    (h : HeadingSource heading children source) :
    readOutline source = ([.heading 1 heading children], []) := by
  obtain ⟨unit, inner, hunit, hne, hinner, hspelled⟩ := h
  have hwritten : Outline.Written [] 1 [.heading 1 heading children]
      ((heading.toList ++ [':']) :: inner) := by
    have h := @Outline.Written.heading [] unit heading.toList [] 1 children [] inner [] hkey .none
      hunit hne (by simpa using hinner) .nil
    simpa [doubled_of_not_mem hmark] using h
  exact readOutline_of_written hwritten hspelled

theorem plainKey_itemText (hitem : item.kind.opening? = some o) (hcontent : Trimmed o.content.toList)
    (hne : o.content.toList ≠ []) (hunbroken : '\n' ∉ (itemText false item).toList) :
    PlainKey (itemText false item).toList := by
  obtain ⟨first, word, hword, hfirst⟩ := o.exists_keyword
  rw [itemText_of_opening hitem, String.toList_append] at hunbroken ⊢
  refine ⟨List.append_ne_nil_of_right_ne_nil _ hne, hunbroken, by simpa [hword] using hfirst, ?_⟩
  rw [List.getLast?_append_of_ne_nil _ hne]
  exact hcontent.last

/-! ### Reading again -/

/-- The first step of a body is its first item. -/
theorem get?_zero_ofBlock {C E X : Type} (step : Step C E X) (rest : List (Step C E X)) :
    ∃ item, (Graph.ofBlock (step :: rest)).get? 0 = some item ∧ item.kind = step.kind := by
  obtain ⟨line, inner, hlaid⟩ := layStep_eq_cons none (firstOr rest none) step
  have hheld := (Graph.holdsAt_layBlock_cons.1 (Graph.holdsAt_ofBlock (step :: rest))).1
  rw [hlaid, Graph.holdsAt_cons] at hheld
  exact ⟨_, hheld.1, rfl⟩

/-- An item is written down, with some lines inside. That leaves no error and becomes an item of the
same kind, which is written down in the same way. As a source text it is read as this heading,
unless there is the mark of a comment in it, or a line feed. -/
structure HeadingAgain (registry : Registry) (place : Place) (now : Ternary) (children : List Node)
    (item : ScriptItem) : Prop where
  quiet : errorsOf (readBody (.ofRegistry registry) place now
    [.heading 1 (itemText false item) children]).entries = []
  same : ∃ item' o o', (readBody (.ofRegistry registry) place now
      [.heading 1 (itemText false item) children]).graph.get? 0 = some item' ∧
    item.kind.opening? = some o ∧ item'.kind.opening? = some o' ∧ AlikeOpening o o' ∧
    itemText false item' = itemText false item
  outline : '#' ∉ (itemText false item).toList → '\n' ∉ (itemText false item).toList →
    ∀ source, HeadingSource (itemText false item) children source →
      readOutline source = ([.heading 1 (itemText false item) children], [])

theorem headingAgain_of_isReadAs (hregistry : builtIn = .ok registry) {place : Place} {now : Ternary}
    {children : List Node} {p : Progress} {line : Nat} {text : String}
    (hsystem : place.system = registry.system) (ho : item.kind.opening? = some o)
    (hread : o.IsReadAs (.ofRegistry registry) (place.scope p line) text)
    (hlegible : o.legible (place.scope ⟨now, 0, []⟩ 1) = true)
    (hquiet : o.Quiet (.ofRegistry registry) place now children) :
    HeadingAgain registry place now children item := by
  obtain ⟨⟨o', hagain, halike⟩, hleads, htrimmed⟩ :=
    exists_reopening hregistry hsystem (isReadAs_moved hregistry hread ⟨now, 0, []⟩ 1) hlegible
  have hne := ne_nil_of_leads hleads
  have hkind : classify (itemText false item) true = o'.lineKind o.content := by
    rw [itemText_of_opening ho, classify_opening o htrimmed hne, halike.lineKind]
  obtain ⟨hnone, step, hsteps, hopening⟩ := exists_readBody_heading (honest_ofRegistry registry)
    hkind hagain (halike.quiet hquiet)
  obtain ⟨item', hitem', hsame⟩ := get?_zero_ofBlock step []
  rw [← hsame] at hopening
  constructor
  case quiet => exact hnone
  case same =>
    rw [Body.graph, hsteps]
    refine ⟨item', o, o', hitem', ho, hopening, halike, ?_⟩
    rw [itemText_of_opening hopening, itemText_of_opening ho, halike.keyword, halike.content]
  case outline =>
    intro hmark hunbroken source hsource
    exact readOutline_of_headingSource (plainKey_itemText ho htrimmed hne hunbroken) hmark hsource

/-- The built-in registry, with the expressions as they are compiled. -/
def builtInRegistry : Registry where
  system := ⟨builtInTypes, (addElements typesOnly).conversions.close builtInTypes,
    (addElements typesOnly).comparators⟩
  expressions := [variableEntry, loopEntry, eventEntry bareWord, rangeEntry]
  statements := ((addElements typesOnly).statements.mapM
    (Registration.closeStatement builtInTypes)).toOption.getD []
  headers := ((addElements typesOnly).headers.mapM
    (Registration.closeHeader builtInTypes)).toOption.getD []

theorem builtIn_eq : builtIn = .ok builtInRegistry := by
  obtain ⟨registry, hregistry⟩ := exists_builtIn
  have hclose := hregistry
  rw [builtIn, addAll_empty, Except.bind] at hclose
  obtain ⟨entries, hclosed⟩ := Registration.closed_of_close hclose
  -- The expressions are the only part of which more is needed than that it is compiled.
  cases (Registration.mapM_eq_ok_iff.2 hclosed.compiled).symm.trans closeExpressions
  have hstatements : (addElements typesOnly).statements.mapM
      (Registration.closeStatement builtInTypes) = .ok registry.statements :=
    Registration.mapM_eq_ok_iff.2 hclosed.statements
  have hheaders : (addElements typesOnly).headers.mapM
      (Registration.closeHeader builtInTypes) = .ok registry.headers :=
    Registration.mapM_eq_ok_iff.2 hclosed.headers
  obtain ⟨⟨types, conversions, comparators⟩, expressions, statements, headers⟩ := registry
  obtain ⟨rfl, rfl, rfl, -, rfl, -, -⟩ := hclosed
  rw [hregistry, builtInRegistry, hstatements, hheaders]
  rfl

/-- **What is written down is read again,** with the built-in elements. Expressions that are legible
are read for the same slot as expressions that are written down alike. And the items of a body are
lines of their own and headings: a heading that is legible is read again at its place, with any
lines inside that leave no error. -/
theorem descriptions_read_again (hregistry : builtIn = .ok registry) :
    (∀ scope text slot e, scope.system = registry.system →
      (parseExpression registry scope text slot).result = some e → e.legible scope = true →
      ∃ e', (parseExpression registry scope (e.describe false) slot).result = some e' ∧
        e'.describe false = e.describe false) ∧
    ∀ start before nodes, start.system = registry.system →
      let body := readBody (.ofRegistry registry) start before nodes
      (∀ id item, body.graph.get? id = some item → ∃ place step rest,
        StandsAt (.ofRegistry registry) start body.steps place (step :: rest) ∧
        item.kind = step.kind ∧ ((∃ c, item.kind = .check c) ∨ (∃ e, item.kind = .act e) ∨
          ∃ o, item.kind.opening? = some o)) ∧
      ∀ place step rest item o now children,
        StandsAt (.ofRegistry registry) start body.steps place (step :: rest) →
        item.kind = step.kind → item.kind.opening? = some o →
        o.legible (place.scope ⟨now, 0, []⟩ 1) = true →
        o.Quiet (.ofRegistry registry) place now children →
        HeadingAgain registry place now children item := by
  refine ⟨fun scope text slot e => exists_parseExpression_describe hregistry, ?_⟩
  intro start before nodes hsystem body
  constructor
  · intro id item hitem
    obtain ⟨place, step, rest, hstands, hkind⟩ := exists_standsAt_of_get? hitem
    have hcomplete := (wellFormed_readBody (.ofRegistry registry) start before nodes).1.complete
      item (Array.mem_of_getElem? hitem)
    exact ⟨place, step, rest, hstands, hkind, hcomplete.cases⟩
  · intro place step rest item o now children hstands hkind ho hlegible hquiet
    -- Loops over single values are refused behind the reader. The strict one refuses them itself,
    -- so what it has read of a step tells that there are several.
    have htop := readAt_readBody (LineReader.ofRegistry registry).strict start before nodes
    rw [readBody_strict] at htop
    have hread := hstands.strict.readAt htop step List.mem_cons_self
    obtain ⟨p, line, text, hread⟩ := hread.exists_isReadAs (hkind ▸ ho)
    exact headingAgain_of_isReadAs hregistry (hstands.system_eq.trans hsystem) ho hread hlegible
      hquiet

/-- A script without events or loops around it. -/
def barePlace : Place := ⟨builtInRegistry.system, "test.sk", [], [], false⟩

/-- A line inside a loop that needs the value of the loop. -/
def sumUp : List Node := [.entry 2 "add loop-value to \x7bsum\x7d"]

/-- Whether a heading is legible and this line inside it leaves no error. -/
def opensQuietly (item : ScriptItem) : Bool :=
  item.kind.opening?.any fun o => o.legible (barePlace.scope ⟨.no, 0, []⟩ 1) &&
    (errorsOf (readBlock (.ofRegistry builtInRegistry)
      (o.inside (.ofRegistry builtInRegistry) barePlace) sumUp .none ⟨.no, 1, []⟩).2.entries).isEmpty

/-- A list with items that are written down otherwise, and a loop over such a list. -/
theorem descriptions_read_again_sum : builtIn = .ok builtInRegistry ∧
    (∃ e, (parseExpression builtInRegistry (bareScope builtInRegistry)
        "1 , \"% \x7bx\x7d %\" AND (2)" (.many [objectType])).result = some e ∧
      e.legible (bareScope builtInRegistry) = true ∧
      e.describe false = "1, \"%\x7bx\x7d%\" and 2" ∧
      ∃ e', (parseExpression builtInRegistry (bareScope builtInRegistry) (e.describe false)
        (.many [objectType])).result = some e' ∧ e'.describe false = e.describe false) ∧
    ∃ step rest item o, StandsAt (.ofRegistry builtInRegistry) barePlace
        (readBody (.ofRegistry builtInRegistry) barePlace .no
          [.heading 1 "loop 1 ,(2) AND \x7bx\x7d" sumUp]).steps barePlace (step :: rest) ∧
      item.kind = step.kind ∧ item.kind.opening? = some o ∧
      o.legible (barePlace.scope ⟨.no, 0, []⟩ 1) = true ∧
      o.Quiet (.ofRegistry builtInRegistry) barePlace .no sumUp ∧
      itemText false item = "loop 1, 2 and \x7bx\x7d" ∧
      HeadingAgain builtInRegistry barePlace .no sumUp item := by
  obtain ⟨hexpressions, hbodies⟩ := descriptions_read_again builtIn_eq
  refine ⟨builtIn_eq, ?_, ?_⟩
  · have hread : (parseExpression builtInRegistry (bareScope builtInRegistry)
        "1 , \"% \x7bx\x7d %\" AND (2)" (.many [objectType])).result.any (fun e =>
          e.legible (bareScope builtInRegistry) &&
            e.describe false == "1, \"%\x7bx\x7d%\" and 2") = true := by
      decide +kernel
    obtain ⟨e, he, hread⟩ := (Option.any_eq_true _ _).1 hread
    rw [Bool.and_eq_true, beq_iff_eq] at hread
    exact ⟨e, he, hread.1, hread.2, hexpressions _ _ _ _ rfl he hread.1⟩
  · have hsteps : (readBody (.ofRegistry builtInRegistry) barePlace .no
        [.heading 1 "loop 1 ,(2) AND \x7bx\x7d" sumUp]).steps.head?.any (fun step =>
          opensQuietly ⟨step.kind, none, none, 1⟩ &&
            itemText false ⟨step.kind, none, none, 1⟩ == "loop 1, 2 and \x7bx\x7d") = true := by
      decide +kernel
    obtain ⟨step, hstep, hsteps⟩ := (Option.any_eq_true _ _).1 hsteps
    rw [Bool.and_eq_true, beq_iff_eq] at hsteps
    obtain ⟨o, ho, hopens⟩ := (Option.any_eq_true _ _).1 hsteps.1
    rw [Bool.and_eq_true, List.isEmpty_iff] at hopens
    obtain ⟨rest, hbody⟩ := List.head?_eq_some_iff.1 hstep
    have hstands : StandsAt (.ofRegistry builtInRegistry) barePlace
        (readBody (.ofRegistry builtInRegistry) barePlace .no
          [.heading 1 "loop 1 ,(2) AND \x7bx\x7d" sumUp]).steps barePlace (step :: rest) :=
      hbody ▸ .top
    have hquiet : o.Quiet (.ofRegistry builtInRegistry) barePlace .no sumUp :=
      ⟨List.cons_ne_nil _ _, hopens.2⟩
    exact ⟨step, rest, ⟨step.kind, none, none, 1⟩, o, hstands, rfl, ho, hopens.1, hquiet, hsteps.2,
      (hbodies barePlace .no _ rfl).2 _ _ _ _ _ _ _ hstands rfl ho hopens.1 hquiet⟩

/-- **A list inside another one is not read again.** It loses its parentheses, so `and` and `or` are
mixed. -/
theorem nested_list_not_read_again : builtIn = .ok builtInRegistry ∧
    (∃ e, (parseExpression builtInRegistry (bareScope builtInRegistry) "(1 and 2) or 3"
        (.many [objectType])).result = some e ∧ e.describe false = "1 and 2 or 3" ∧
      (parseExpression builtInRegistry (bareScope builtInRegistry) (e.describe false)
        (.many [objectType])).result = none) ∧
    let again (heading : String) := readBody (.ofRegistry builtInRegistry) barePlace .no
      [.heading 1 heading [.entry 2 "wait 1 tick"]]
    errorsOf (again "loop (1 and 2) or 3").entries = [] ∧
      ∃ item, (again "loop (1 and 2) or 3").graph.get? 0 = some item ∧
        itemText false item = "loop 1 and 2 or 3" ∧
        errorsOf (again (itemText false item)).entries ≠ [] := by
  refine ⟨builtIn_eq, ?_, ?_⟩
  · have hread : (parseExpression builtInRegistry (bareScope builtInRegistry) "(1 and 2) or 3"
        (.many [objectType])).result.any (fun e => e.describe false == "1 and 2 or 3") = true := by
      decide +kernel
    have hagain : (parseExpression builtInRegistry (bareScope builtInRegistry) "1 and 2 or 3"
        (.many [objectType])).result.isNone = true := by
      decide +kernel
    obtain ⟨e, he, hread⟩ := (Option.any_eq_true _ _).1 hread
    rw [beq_iff_eq] at hread
    exact ⟨e, he, hread, by rw [hread]; exact Option.isNone_iff_eq_none.1 hagain⟩
  · intro again
    have hloop : ((errorsOf (again "loop (1 and 2) or 3").entries).isEmpty &&
        ((again "loop (1 and 2) or 3").graph.get? 0).any fun item =>
          itemText false item == "loop 1 and 2 or 3") = true := by
      decide +kernel
    have hagain : (errorsOf (again "loop 1 and 2 or 3").entries).isEmpty = false := by
      decide +kernel
    rw [Bool.and_eq_true, List.isEmpty_iff] at hloop
    obtain ⟨item, hitem, htext⟩ := (Option.any_eq_true _ _).1 hloop.2
    rw [beq_iff_eq] at htext
    refine ⟨hloop.1, item, hitem, htext, fun hnone => ?_⟩
    rw [htext] at hnone
    rw [hnone] at hagain
    cases hagain

end TriggerScript
