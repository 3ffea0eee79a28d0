import TriggerScript.World.Switchboard
import TriggerScript.Proofs.Flow.WellFormed
import TriggerScript.Proofs.Outline.RoundTrip
import TriggerScript.Proofs.Parsing.Elsewhere
import TriggerScript.Proofs.Parsing.Enclosing
import TriggerScript.Proofs.Parsing.Mirrors

/-!
# Headings are read again

Conditionals, loops and lines that are run as long as a condition holds are written down as a
keyword and what stands behind it. With a colon behind it and some lines inside, such a heading
becomes an item of the same kind again.

* `Opening` : what the heading of an item asks for.
* `LineReader.strict` : a reader that refuses single values to run over by itself.
* `exists_standsAt_of_get?` : each item of a graph is a step of the body, read at its place.
* `Opening.Quiet` : lines that leave no error inside a heading.
* `exists_readBody_heading` : a heading that is read as an opening becomes an item with this opening.
* `AlikeOpening` : openings of one kind that are written alike.
* `exists_reopening` : what an opening is written down as is read as a like one.
-/

namespace TriggerScript

open TriggerScript.Flow TriggerScript.Parsing Text Vocabulary

/-! ### Openings -/

namespace Flow

variable {C E X : Type}

/-- What the heading of an item asks for: that a condition holds, once or in each round, or values
to run over. -/
inductive Opening (C X : Type) where
  | ifHolds (c : C)
  | loop (values : X)
  | whileHolds (c : C)

/-- The heading of an item that has lines inside. A conditional begins with its first branch. -/
def ItemKind.opening? : ItemKind C E X → Option (Opening C X)
  | .check _ => none
  | .act _ => none
  | .choose branches => (branches.head?.bind (·.1)).map .ifHolds
  | .loop values _ => some (.loop values)
  | .whileHolds c _ => some (.whileHolds c)

/-- All items of a well-formed graph have headings, apart from lines of their own. -/
theorem ItemKind.Complete.cases {kind : ItemKind C E X} (h : kind.Complete) :
    (∃ c, kind = .check c) ∨ (∃ e, kind = .act e) ∨ ∃ o, kind.opening? = some o := by
  cases kind with
  | check c => exact .inl ⟨c, rfl⟩
  | act e => exact .inr (.inl ⟨e, rfl⟩)
  | choose branches =>
    obtain ⟨c, hc⟩ := h.first
    rw [List.head?_map, Option.map_eq_some_iff] at hc
    obtain ⟨first, hfirst, hc⟩ := hc
    exact .inr (.inr ⟨.ifHolds c, by rw [opening?, hfirst, Option.bind_some, hc, Option.map_some]⟩)
  | loop values body => exact .inr (.inr ⟨_, rfl⟩)
  | whileHolds c body => exact .inr (.inr ⟨_, rfl⟩)

namespace Opening

/-- The word in front. -/
def keyword : Opening C X → String
  | .ifHolds _ => "if "
  | .loop _ => "loop "
  | .whileHolds _ => "while "

theorem exists_keyword (o : Opening C X) :
    ∃ first word, o.keyword.toList = first :: word ∧ isBlank first = false := by
  cases o with
  | ifHolds c => exact ⟨'i', ['f', ' '], by rw [keyword]; decide, rfl⟩
  | loop values => exact ⟨'l', ['o', 'o', 'p', ' '], by rw [keyword]; decide, rfl⟩
  | whileHolds c => exact ⟨'w', ['h', 'i', 'l', 'e', ' '], by rw [keyword]; decide, rfl⟩

/-- The kind of a line with some text behind the word. -/
def lineKind (text : String) : Opening C X → LineKind
  | .ifHolds _ => .ifHolds text
  | .loop _ => .loop text
  | .whileHolds _ => .whileHolds text

theorem continues_lineKind (o : Opening C X) (text : String) :
    (o.lineKind text).continues = false := by
  cases o <;> rfl

/-- What is read of the text behind the word; only several values can be run over. -/
def IsReadAs (r : LineReader C E X) (scope : Scope) (text : String) : Opening C X → Prop
  | .ifHolds c => (r.condition scope text).result = some c
  | .loop values => (r.values scope text).result = some values ∧ r.isSingle values = false
  | .whileHolds c => (r.condition scope text).result = some c

/-- The place inside of the first item of a body. -/
def inside (r : LineReader C E X) (place : Place) : Opening C X → Place
  | .ifHolds _ => place
  | .loop values => place.insideLoop ⟨0, r.returns values⟩
  | .whileHolds _ => place

/-- Lines inside of the heading that leave no error. -/
structure Quiet (r : LineReader C E X) (place : Place) (delay : Ternary) (children : List Node)
    (o : Opening C X) : Prop where
  nonempty : children ≠ []
  quiet : errorsOf (readBlock r (o.inside r place) children .none ⟨delay, 1, []⟩).2.entries = []

end Opening

end Flow

namespace Parsing

variable {C E X : Type} {r : LineReader C E X}

/-! ### Kinds of lines -/

section Kinds

variable {s keyword : String} {first c : Char} {word cs : List Char}

/-- What is left behind its keyword. -/
theorem afterKeyword?_append (hkeyword : keyword.toList = word) (hs : Trimmed s.toList) :
    afterKeyword? keyword (word ++ s.toList) = some s := by
  have hafter : afterWord? word (word ++ s.toList) = some s.toList :=
    afterWord?_eq_some_iff.2 ⟨word, rfl, by simp [sameAscii]⟩
  rw [afterKeyword?, hkeyword, hafter, Option.map_some, trim_of_trimmed hs, String.ofList_toList]

theorem afterKeyword?_eq_none (hkeyword : keyword.toList = first :: word)
    (h : c.toLower ≠ first.toLower) : afterKeyword? keyword (c :: cs) = none := by
  rw [afterKeyword?, hkeyword, afterWord?_cons_eq_none _ _ h, Option.map_none]

theorem sameAscii_eq_false_of_head (h : c.toLower ≠ first.toLower) :
    sameAscii (c :: cs) (first :: word) = false := by
  rw [sameAscii_cons, beq_eq_false_iff_ne.2 h, Bool.false_and]

theorem trim_append_of_word (hkeyword : keyword.toList = first :: word)
    (hfirst : isBlank first = false) (hs : Trimmed s.toList) (hne : s.toList ≠ []) :
    trim (keyword ++ s).toList = first :: (word ++ s.toList) := by
  rw [String.toList_append, hkeyword, ← List.cons_append]
  refine trim_of_trimmed ⟨by simpa using hfirst, ?_⟩
  rw [List.getLast?_append_of_ne_nil _ hne]
  exact hs.last

/-- **Which kind of line a heading is written down as.** -/
theorem classify_opening (o : Opening C X) (hs : Trimmed s.toList) (hne : s.toList ≠ []) :
    classify (o.keyword ++ s) true = o.lineKind s := by
  have hif : "if ".toList = ['i', 'f', ' '] := by decide
  have hloop : "loop ".toList = ['l', 'o', 'o', 'p', ' '] := by decide
  have hwhile : "while ".toList = ['w', 'h', 'i', 'l', 'e', ' '] := by decide
  have helseIf : "else if ".toList = 'e' :: "lse if ".toList := by decide
  cases o with
  | ifHolds c =>
    have hself := afterKeyword?_append hif hs
    rw [Opening.keyword, classify, trim_append_of_word hif rfl hs hne]
    simp only [List.cons_append, List.nil_append] at hself
    simp [sameAscii_eq_false_of_head, afterKeyword?_eq_none helseIf, hself, Opening.lineKind]
  | loop x =>
    have hself := afterKeyword?_append hloop hs
    rw [Opening.keyword, classify, trim_append_of_word hloop rfl hs hne]
    simp only [List.cons_append, List.nil_append] at hself
    simp [sameAscii_eq_false_of_head, afterKeyword?_eq_none helseIf, afterKeyword?_eq_none hif, hself,
      Opening.lineKind]
  | whileHolds c =>
    have hself := afterKeyword?_append hwhile hs
    rw [Opening.keyword, classify, trim_append_of_word hwhile rfl hs hne]
    simp only [List.cons_append, List.nil_append] at hself
    simp [sameAscii_eq_false_of_head, afterKeyword?_eq_none helseIf, afterKeyword?_eq_none hif,
      afterKeyword?_eq_none hloop, hself, Opening.lineKind]

end Kinds

/-! ### Single values to run over -/

/-- The same reader, which does not read a single value to run over. -/
def LineReader.strict (r : LineReader C E X) : LineReader C E X :=
  { r with
    values := fun scope text => (r.values scope text).bind fun values =>
      if r.isSingle values then
        .refuse scope.location ("Can't loop '" ++ text ++ "' because it's only a single value")
          .semantic
      else .ok values }

section Strict

variable {place : Place} {line : Nat} {text : String} {p : Progress} {inside : Inside C E X}
  {pending : Pending C E X}

theorem readLoop_strict : readLoop r.strict place line text inside p =
    readLoop r place line text inside p := by
  simp only [readLoop, Progress.attempt, LineReader.strict, Attempt.bind]
  cases hvalues : (r.values (place.scope p line) text).result with
  | none => rfl
  | some values =>
    cases hsingle : r.isSingle values with
    | true =>
      -- The same complaint, made by the reader and not by the place.
      simp [Attempt.refuse, Attempt.after, Place.complain, Place.scope, hsingle]
    | false =>
      simp [Attempt.ok, Attempt.after, hsingle]

theorem readHeading_strict (kind : LineKind) :
    readHeading r.strict place line kind inside pending p =
      readHeading r place line kind inside pending p := by
  cases kind with
  | loop text => simp only [readHeading, readLoop_strict]
  | ifHolds text | elseIf text | otherwise | whileHolds text | statement text => rfl

end Strict

mutual

theorem readBlock_strict (place : Place) (nodes : List Node) (pending : Pending C E X)
    (p : Progress) : readBlock r.strict place nodes pending p = readBlock r place nodes pending p := by
  match nodes with
  | [] => rfl
  | node :: rest =>
    simp only [readBlock, readNode_strict place node, readBlock_strict place rest]

theorem readNode_strict (place : Place) (node : Node) (pending : Pending C E X) (p : Progress) :
    readNode r.strict place node pending p = readNode r place node pending p := by
  match node with
  | .entry line key => rfl
  | .heading line key children =>
    have hinside : (fun place p => readBlock r.strict place children .none p) =
        fun place p => readBlock r place children .none p :=
      funext fun place => funext fun p => readBlock_strict place children .none p
    simp only [readNode, hinside, readHeading_strict]

end

/-- **Nothing changes if single values are refused at once.** -/
theorem readBody_strict (place : Place) (delay : Ternary) (nodes : List Node) :
    readBody r.strict place delay nodes = readBody r place delay nodes := by
  rw [readBody, readBody, readBlock_strict]

theorem StandsAt.strict {start place : Place} {top block : List (Step C E X)}
    (h : StandsAt r start top place block) : StandsAt r.strict start top place block := by
  induction h with
  | top => exact .top
  | next _ ih => exact ih.next
  | branch _ hb ih => exact ih.branch hb
  | loop _ ih => exact ih.loop
  | whileHolds _ ih => exact ih.whileHolds

/-- What the heading of a step was read as. -/
theorem ReadAt.exists_isReadAs {place : Place} {step : Step C E X} {o : Opening C X}
    (h : ReadAt r.strict place step) (ho : step.kind.opening? = some o) :
    ∃ p line text, o.IsReadAs r (place.scope p line) text := by
  cases h with
  | check h => cases ho
  | act h => cases ho
  | @choose _ id line branches hcondition hbody =>
    -- The heading is the one of the first branch, which has a condition.
    obtain ⟨c, hc, rfl⟩ := Option.map_eq_some_iff.1 ho
    rw [branchIds, List.head?_map] at hc
    obtain ⟨pair, hpair, hc⟩ := Option.bind_eq_some_iff.1 hc
    obtain ⟨branch, hbranch, rfl⟩ := Option.map_eq_some_iff.1 hpair
    exact hcondition branch (List.mem_of_head? hbranch) c hc
  | @loop _ p id line text x body h hbody =>
    cases ho
    simp only [LineReader.strict, result_bind] at h
    obtain ⟨values, hvalues, h⟩ := Option.bind_eq_some_iff.1 h
    split at h
    · cases h
    · next hsingle =>
      cases h
      exact ⟨p, line, text, hvalues, by simpa using hsingle⟩
  | whileHolds h hbody =>
    cases ho
    exact ⟨_, _, _, h⟩

/-! ### Items and steps -/

section Items

variable {start : Place} {top : List (Step C E X)} {item : Item C E X}

mutual

theorem exists_standsAt_of_mem_step {place : Place} {step : Step C E X} {rest : List (Step C E X)}
    {parent next : Option ItemId} (h : StandsAt r start top place (step :: rest))
    (hitem : item ∈ layStep parent next step) :
    ∃ place step rest, StandsAt r start top place (step :: rest) ∧ item.kind = step.kind := by
  match step with
  | .check id line c =>
    obtain rfl := List.mem_singleton.1 hitem
    exact ⟨_, _, _, h, rfl⟩
  | .act id line e =>
    obtain rfl := List.mem_singleton.1 hitem
    exact ⟨_, _, _, h, rfl⟩
  | .choose id line branches =>
    rcases List.mem_cons.1 hitem with rfl | hitem
    · exact ⟨_, _, _, h, rfl⟩
    · exact exists_standsAt_of_mem_branches (fun branch hb => h.branch hb) hitem
  | .loop id line x body =>
    rcases List.mem_cons.1 hitem with rfl | hitem
    · exact ⟨_, _, _, h, rfl⟩
    · exact exists_standsAt_of_mem_block h.loop hitem
  | .whileHolds id line c body =>
    rcases List.mem_cons.1 hitem with rfl | hitem
    · exact ⟨_, _, _, h, rfl⟩
    · exact exists_standsAt_of_mem_block h.whileHolds hitem

theorem exists_standsAt_of_mem_block {place : Place} {block : List (Step C E X)}
    {parent tail : Option ItemId} (h : StandsAt r start top place block)
    (hitem : item ∈ layBlock parent tail block) :
    ∃ place step rest, StandsAt r start top place (step :: rest) ∧ item.kind = step.kind := by
  match block with
  | [] => cases hitem
  | step :: rest =>
    rcases List.mem_append.1 hitem with hitem | hitem
    · exact exists_standsAt_of_mem_step h hitem
    · exact exists_standsAt_of_mem_block h.next hitem

theorem exists_standsAt_of_mem_branches {place : Place} {branches : List (Branch C E X)}
    {parent next : Option ItemId} (h : ∀ branch ∈ branches, StandsAt r start top place branch.body)
    (hitem : item ∈ layBranches parent next branches) :
    ∃ place step rest, StandsAt r start top place (step :: rest) ∧ item.kind = step.kind := by
  match branches with
  | [] => cases hitem
  | branch :: rest =>
    rcases List.mem_append.1 hitem with hitem | hitem
    · exact exists_standsAt_of_mem_branch (h branch List.mem_cons_self) hitem
    · exact exists_standsAt_of_mem_branches (fun b hb => h b (List.mem_cons_of_mem _ hb)) hitem

theorem exists_standsAt_of_mem_branch {place : Place} {branch : Branch C E X}
    {parent next : Option ItemId} (h : StandsAt r start top place branch.body)
    (hitem : item ∈ layBranch parent next branch) :
    ∃ place step rest, StandsAt r start top place (step :: rest) ∧ item.kind = step.kind := by
  match branch with
  | .mk condition body => exact exists_standsAt_of_mem_block h hitem

end

/-- Each item of a graph is a step of the body. -/
theorem exists_standsAt_of_get? {id : ItemId} (hitem : (Graph.ofBlock top).get? id = some item) :
    ∃ place step rest, StandsAt r start top place (step :: rest) ∧ item.kind = step.kind := by
  have hmem : item ∈ layBlock none none top :=
    List.mem_toArray.1 (Array.mem_of_getElem? hitem)
  exact exists_standsAt_of_mem_block .top hmem

end Items

/-! ### A body with one heading -/

section Heading

variable {place : Place} {delay : Ternary} {line : Nat} {key text : String} {children : List Node}
  {o : Opening C X}

/-- A heading that begins something new, and nothing behind it. -/
theorem readBlock_heading (hkind : classify key true = o.lineKind text) (hchildren : children ≠ [])
    (p : Progress) : readBlock r place [.heading line key children] .none p =
      let (steps, pending, q) := readHeading r place line (o.lineKind text)
        (fun place p => readBlock r place children .none p) .none p
      (steps ++ (closeChain pending.chain q).1, (closeChain pending.chain q).2) := by
  have hsome : children.isEmpty = false := by simpa using hchildren
  simp only [readBlock, readNode, hkind, settle, o.continues_lineKind, hsome, Pending.none, closeChain,
    Bool.false_eq_true, if_false, List.nil_append]

/-- The lines inside of a heading leave no error behind it. -/
theorem quiet_behind (h : o.Quiet r place delay children) {entries : List Entry}
    (hentries : errorsOf entries = []) :
    errorsOf (readBlock r (o.inside r place) children .none ⟨delay, 1, entries⟩).2.entries = [] := by
  have hbehind := @readBlock_behind C E X r entries (o.inside r place) children .none ⟨delay, 1, []⟩
  rw [Progress.behind, List.append_nil] at hbehind
  rw [hbehind, Progress.behind, errorsOf_append, hentries, h.quiet, List.append_nil]

/-- Lines that are left are run any number of times. -/
theorem readRepeating_of_ne_nil {inside : ItemId → Progress → List (Step C E X) × Progress}
    {step : ItemId → List (Step C E X) → Step C E X} {p : Progress}
    (h : (inside p.next { p with next := p.next + 1 }).1 ≠ []) :
    readRepeating inside step p =
      let (body, inner) := inside p.next { p with next := p.next + 1 }
      ([step p.next body], { inner with delay := delayAfterRepeating p.delay inner.delay }) := by
  have hsome : (inside p.next { p with next := p.next + 1 }).1.isEmpty = false := by simpa using h
  simp only [readRepeating, Progress.draw, hsome, Bool.false_eq_true, if_false]

/-- **A heading that is read as an opening becomes an item with this opening,** without an error, if
the lines inside leave none. -/
theorem exists_readBody_heading (hr : r.Honest) (hkind : classify key true = o.lineKind text)
    (hread : o.IsReadAs r (place.scope ⟨delay, 0, []⟩ line) text)
    (hquiet : o.Quiet r place delay children) :
    errorsOf (readBody r place delay [.heading line key children]).entries = [] ∧
      ∃ step, (readBody r place delay [.heading line key children]).steps = [step] ∧
        step.kind.opening? = some o := by
  have hquiet' {α : Type} {a : Attempt α} (ha : a.Tidy) {x : α} (hx : a.result = some x) :
      errorsOf a.entries = [] :=
    List.eq_nil_of_length_eq_zero (by rw [ha, hx]; rfl)
  rw [readBody, readBlock_heading hkind hquiet.nonempty]
  cases o with
  | ifHolds c =>
    have hentries := hquiet' (hr.condition _ _).tidy hread
    have hbody := quiet_behind hquiet hentries
    simp only [Opening.lineKind, Opening.IsReadAs, Opening.inside, readHeading, beginChain,
      Progress.attempt, Progress.draw, Chain.readBranch] at hread hbody ⊢
    simp only [hread]
    exact ⟨hbody, _, rfl, rfl⟩
  | loop x =>
    obtain ⟨hread, hsingle⟩ := hread
    have hentries := hquiet' (hr.values _ _).tidy hread
    have hbody := quiet_behind hquiet hentries
    -- Lines without errors leave steps, so the loop is not dropped as an empty one.
    have hmirrors := mirrors_readBlock hr _ children rfl hbody
    have hne := ((continues_of_chain_none rfl).1 hmirrors).ne_nil hquiet.nonempty
    simp only [Opening.lineKind, readHeading, readLoop, Progress.attempt, hread, hsingle]
    simp only [Bool.false_eq_true, if_false]
    rw [readRepeating_of_ne_nil hne]
    exact ⟨hbody, _, rfl, rfl⟩
  | whileHolds c =>
    have hentries := hquiet' (hr.condition _ _).tidy hread
    have hbody := quiet_behind hquiet hentries
    have hmirrors := mirrors_readBlock hr _ children rfl hbody
    have hne := ((continues_of_chain_none rfl).1 hmirrors).ne_nil hquiet.nonempty
    simp only [Opening.IsReadAs] at hread
    simp only [Opening.lineKind, readHeading, readWhile, Progress.attempt, hread]
    rw [readRepeating_of_ne_nil hne]
    exact ⟨hbody, _, rfl, rfl⟩

end Heading

end Parsing

/-! ### What a heading is written down as -/

namespace Flow.Opening

/-- What stands behind the word. -/
def content : Opening Condition Expression → String
  | .ifHolds c => c.describe false
  | .loop values => values.describe false
  | .whileHolds c => c.describe false

/-- Whether what stands behind the word is read again as it is written down. -/
def legible (scope : Scope) : Opening Condition Expression → Bool
  | .ifHolds c => c.legible scope
  | .loop values => values.legible scope
  | .whileHolds c => c.legible scope

end Flow.Opening

/-- Openings of one kind that are written alike. -/
inductive AlikeOpening : Opening Condition Expression → Opening Condition Expression → Prop
  | ifHolds {c c' : Condition} (h : AlikeCondition c c') : AlikeOpening (.ifHolds c) (.ifHolds c')
  | loop {values values' : Expression} (h : Alike values values') :
    AlikeOpening (.loop values) (.loop values')
  | whileHolds {c c' : Condition} (h : AlikeCondition c c') :
    AlikeOpening (.whileHolds c) (.whileHolds c')

section Written

variable {registry : Registry} {item : ScriptItem} {o o' : Opening Condition Expression}

theorem itemText_of_opening (h : item.kind.opening? = some o) :
    itemText false item = o.keyword ++ o.content := by
  obtain ⟨kind, next, parent, line⟩ := item
  cases kind with
  | check c => cases h
  | act e => cases h
  | choose branches =>
    obtain ⟨c, hc, rfl⟩ := Option.map_eq_some_iff.1 h
    simp only [itemText, hc]
    rfl
  | loop values body =>
    cases h
    rfl
  | whileHolds c body =>
    cases h
    rfl

namespace AlikeOpening

theorem content (h : AlikeOpening o o') : o'.content = o.content := by
  cases h with
  | ifHolds h => exact h.describe
  | loop h => exact h.describe
  | whileHolds h => exact h.describe

theorem keyword (h : AlikeOpening o o') : o'.keyword = o.keyword := by
  cases h <;> rfl

theorem lineKind (h : AlikeOpening o o') (text : String) : o'.lineKind text = o.lineKind text := by
  cases h <;> rfl

/-- Lines stand inside of both in the same way. -/
theorem inside (h : AlikeOpening o o') (place : Place) :
    o'.inside (.ofRegistry registry) place = o.inside (.ofRegistry registry) place := by
  cases h with
  | ifHolds h => rfl
  | loop h => exact congrArg (fun type => place.insideLoop ⟨0, type⟩) h.returns
  | whileHolds h => rfl

theorem quiet (h : AlikeOpening o o') {place : Place} {delay : Ternary} {children : List Node}
    (hquiet : o.Quiet (.ofRegistry registry) place delay children) :
    o'.Quiet (.ofRegistry registry) place delay children where
  nonempty := hquiet.nonempty
  quiet := by
    rw [h.inside]
    exact hquiet.quiet

end AlikeOpening

theorem isReadAs_loop_iff {scope : Scope} {text : String} {values : Expression} :
    (Opening.loop values).IsReadAs (.ofRegistry registry) scope text ↔
      (parseExpression registry scope text (.many [objectType])).result = some values ∧
        values.isSingle = false := Iff.rfl

/-- The same is read in any line of a place. -/
theorem isReadAs_moved (hregistry : builtIn = .ok registry) {place : Place} {p : Progress} {line : Nat}
    {text : String} (h : o.IsReadAs (.ofRegistry registry) (place.scope p line) text)
    (p' : Progress) (line' : Nat) :
    o.IsReadAs (.ofRegistry registry) (place.scope p' line') text := by
  have hmoved : place.scope p' line' = (place.scope p line).moved p'.delay
      (some ⟨place.script, line'⟩) place.warnMissingAnd := rfl
  rw [hmoved]
  cases o with
  | ifHolds c => exact (result_parseCondition_moved hregistry).trans h
  | loop values =>
    rw [isReadAs_loop_iff] at h ⊢
    exact ⟨(sameResults_parseExpression hregistry text _).trans h.1, h.2⟩
  | whileHolds c => exact (result_parseCondition_moved hregistry).trans h

/-- **What stands behind the word is read again as it is written down.** -/
theorem exists_reopening (hregistry : builtIn = .ok registry) {scope : Scope} {text : String}
    (hsystem : scope.system = registry.system) (h : o.IsReadAs (.ofRegistry registry) scope text)
    (hlegible : o.legible scope = true) :
    (∃ o', o'.IsReadAs (.ofRegistry registry) scope o.content ∧ AlikeOpening o o') ∧
      leads o.content.toList = true ∧ Trimmed o.content.toList := by
  cases o with
  | ifHolds c =>
    obtain ⟨⟨c', hagain, halike⟩, hends⟩ :=
      exists_parseCondition_describe hregistry hsystem h hlegible
    exact ⟨⟨.ifHolds c', hagain, .ifHolds halike⟩, hends⟩
  | loop values =>
    obtain ⟨hread, hsingle⟩ := isReadAs_loop_iff.1 h
    have hrenewed := renews_parseExpression hregistry hsystem hread hlegible
    obtain ⟨values', hagain, halike⟩ := hrenewed.again
    have hreads := isReadAs_loop_iff.2 ⟨hagain, halike.single.trans hsingle⟩
    exact ⟨⟨.loop values', hreads, .loop halike⟩, hrenewed.written.leads,
      hrenewed.written.trimmed⟩
  | whileHolds c =>
    obtain ⟨⟨c', hagain, halike⟩, hends⟩ :=
      exists_parseCondition_describe hregistry hsystem h hlegible
    exact ⟨⟨.whileHolds c', hagain, .whileHolds halike⟩, hends⟩

end Written

end TriggerScript
