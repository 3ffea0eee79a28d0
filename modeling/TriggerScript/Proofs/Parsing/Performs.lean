import TriggerScript.Proofs.Diagnostics.Frames
import TriggerScript.Parsing.Procedure
import TriggerScript.Proofs.Pattern.Splits

/-!
# Readings on a desk are attempts

An attempt is a value: its result, with the entries that it leaves. A procedure performs an
attempt if it gives this result on every desk at the same spot, adds these entries to the log, and
leaves all else on the desk as it was. What the log already holds plays no part.

* `Spot` : what a reading can see of a desk.
* `Desk.note` : the desk with entries added to its log.
* `Performs` : on every desk at a spot, a procedure does what an attempt says.
* `performs_parseWithin` : nested expressions, with the depth on the desk as the bound.
* `performs_parseStatement`, `performs_parseCondition`, `performs_parseHeader` : lines and headers.
* `attemptOn_eq` : the next line is read on the desk.
-/

namespace TriggerScript.Parsing

/-- What a reading can see of a desk. -/
structure Spot where
  registry : Registry
  scope : Scope
  depth : Nat

namespace Spot

/-- The readings of nested texts at a spot. -/
def read (p : Spot) : Reader :=
  parseWithin p.registry p.scope (maxDepth - p.depth)

/-- The same spot with other events. -/
def about (p : Spot) (events : List EventKind) : Spot :=
  { p with scope := { p.scope with events } }

end Spot

namespace Desk

def spot (d : Desk) : Spot :=
  ⟨d.state.registry, d.scope, d.depth⟩

/-- The desk with entries added to its log. -/
def note (d : Desk) (entries : List Entry) : Desk :=
  d.withLog (d.state.log.addAll entries)

/-- What an attempt makes of a desk. -/
def attempt {α : Type} (d : Desk) (a : Attempt α) : Option α × Desk :=
  (a.result, d.note a.entries)

variable (d : Desk) (entries : List Entry)

@[simp] theorem note_nil : d.note [] = d := rfl

@[simp] theorem note_note (more : List Entry) :
    (d.note entries).note more = d.note (entries ++ more) := by
  simp only [note, withLog, Log.addAll_append]

@[simp] theorem scope_note : (d.note entries).scope = d.scope := by
  simp only [scope, State.scope, note, withLog, Log.location_addAll]

@[simp] theorem scope_spot : d.spot.scope = d.scope := rfl

@[simp] theorem spot_note : (d.note entries).spot = d.spot := by
  simp only [spot, scope_note]
  rfl

end Desk

variable {α β : Type} {p : Spot}

/-- On every desk at a spot, a procedure does what an attempt says. -/
def Performs (p : Spot) (m : Procedure α) (a : Attempt α) : Prop :=
  ∀ d : Desk, d.spot = p → m d = d.attempt a

/-- The readings of nested texts on a desk do what those of a plain reader say. -/
def PerformsReader (p : Spot) (work : DeskReader) (read : Reader) : Prop :=
  ∀ text slot, Performs p (work text slot) (read text slot)

/-! ### Putting attempts together -/

section Combinators

theorem Performs.ofOption (a : Option α) : Performs p (Procedure.ofOption a) (.ofOption a) :=
  fun _ _ => rfl

theorem Performs.complain (message : String) (quality : Quality) :
    Performs p (Procedure.complain (α := α) message quality)
      (.refuse p.scope.location message quality) := by
  rintro d rfl
  rfl

theorem Performs.bind {m : Procedure α} {a : Attempt α} {f : α → Procedure β} {g : α → Attempt β}
    (hm : Performs p m a) (hf : ∀ x, Performs p (f x) (g x)) :
    Performs p (m.bind f) (a.bind g) := by
  intro d hd
  rw [Procedure.bind, hm d hd, Attempt.bind, Desk.attempt]
  cases a.result with
  | none => rfl
  | some x =>
    simp only [hf x (d.note a.entries) (by rw [Desk.spot_note, hd])]
    simp only [Desk.attempt, Attempt.after, Desk.note_note]

theorem Performs.map {m : Procedure α} {a : Attempt α} (hm : Performs p m a) (f : α → β) :
    Performs p (m.map f) (a.map f) := by
  intro d hd
  rw [Procedure.map, hm d hd]
  rfl

theorem Performs.orElse {m : Procedure α} {a : Attempt α} {m' : Unit → Procedure α}
    {a' : Unit → Attempt α} (hm : Performs p m a) (hm' : Performs p (m' ()) (a' ())) :
    Performs p (m.orElse m') (a.orElse a') := by
  intro d hd
  rw [Procedure.orElse, hm d hd, Attempt.orElse, Desk.attempt]
  cases hresult : a.result with
  | some x => simp only [Desk.attempt, hresult]
  | none =>
    simp only [hm' (d.note a.entries) (by rw [Desk.spot_note, hd])]
    simp only [Desk.attempt, Attempt.after, Desk.note_note]

theorem Performs.firstOf {f : α → Procedure β} {g : α → Attempt β} (h : ∀ x, Performs p (f x) (g x))
    (xs : List α) : Performs p (Procedure.firstOf f xs) (.firstOf g xs) := by
  induction xs with
  | nil => exact .ofOption none
  | cons x rest ih => exact (h x).orElse ih

/-- A procedure may look at the desk, if it asks only for what can be seen from the spot. -/
theorem Performs.look {f : Desk → Procedure α} {a : Attempt α}
    (h : ∀ d : Desk, d.spot = p → Performs p (f d) a) : Performs p (Procedure.look f) a :=
  fun d hd => h d hd d hd

theorem Performs.inFrame {m : Procedure α} {a : Attempt α} (hm : Performs p m a)
    (default : Option (String × Quality)) :
    Performs p (Procedure.inFrame default m)
      (a.framed (default.map fun e => .error p.scope.location e.1 e.2)) := by
  rintro d rfl
  have hopen : (d.withLog d.state.log.enter.2).spot = d.spot := rfl
  simp only [Procedure.inFrame, hm _ hopen, Attempt.framed, Desk.attempt]
  cases a.result with
  | some x =>
    exact congrArg (fun log => (some x, d.withLog log))
      (d.state.log.closeSuccess_addAll_enter a.entries)
  | none =>
    exact congrArg (fun log => (none, d.withLog log))
      (d.state.log.closeBest_addAll_enter a.entries default)

theorem Performs.nested {m : Procedure α} {a : Attempt α}
    (hm : Performs { p with depth := p.depth + 1 } m a) : Performs p (Procedure.nested m) a := by
  rintro d rfl
  rw [Procedure.nested, hm { d with depth := d.depth + 1 } rfl]
  rfl

theorem Performs.about {m : Procedure α} {a : Attempt α} {events : List EventKind}
    (hm : Performs (p.about events) m a) : Performs p (Procedure.about events m) a := by
  rintro d rfl
  rw [Procedure.about, hm (d.withEvents events) rfl]
  rfl

theorem Performs.runSetup {work : DeskReader} {read : Reader} (hread : PerformsReader p work read)
    (setup : Setup α) :
    Performs p (Procedure.runSetup work setup) (Parsing.runSetup read p.scope.location setup) := by
  induction setup with
  | done result => exact .ofOption result
  | error message quality next ih =>
    rintro d rfl
    change Procedure.runSetup work next (d.note [.error d.scope.location message quality]) = _
    rw [ih _ (Desk.spot_note ..), Desk.attempt, Desk.note_note]
    rfl
  | warning message next ih =>
    rintro d rfl
    change Procedure.runSetup work next (d.note [.warning d.scope.location message]) = _
    rw [ih _ (Desk.spot_note ..), Desk.attempt, Desk.note_note]
    rfl
  | parse text slot next ih =>
    intro d hd
    have hnext := ih (read text slot).result (d.note (read text slot).entries)
      (by rw [Desk.spot_note, hd])
    rw [Procedure.runSetup]
    simp only [hread text slot d hd, Desk.attempt, hnext, Desk.note_note]
    rfl

end Combinators

/-! ### Patterns -/

section Patterns

variable {work : DeskReader} {read : Reader}

theorem Performs.parseSlots (hread : PerformsReader p work read) (slots : List Slot)
    (spans : List (Option Span)) :
    Performs p (Procedure.parseSlots work slots spans)
      (Parsing.parseSlots read p.scope slots spans) := by
  induction slots generalizing spans with
  | nil => exact .ofOption _
  | cons slot slots ih =>
    rw [Procedure.parseSlots, Parsing.parseSlots]
    cases spans.head?.join with
    | some span => exact (hread _ slot).bind fun e => (ih spans.tail).map _
    | none =>
      refine .look fun d hd => ?_
      rw [show d.scope = p.scope from congrArg Spot.scope hd]
      exact (ih spans.tail).map _

/-- While no split has been taken, the matcher only adds entries. -/
theorem tryEach_parseSlots (hread : PerformsReader p work read) (slots : List Slot)
    (made : Split → List (Option Expression) → Capture) (splits : List Split) {d : Desk}
    (hd : d.spot = p) (entries : List Entry) :
    tryEach (fun split (sofar : Option Capture × Desk) =>
        match Procedure.parseSlots work slots split.spans sofar.2 with
        | (some parts, d) => (true, some (made split parts), d)
        | (none, d) => (false, sofar.1, d)) splits (none, d.note entries) =
      let r := tryEach (fun split (sofar : Attempt Capture) =>
        let parts := Parsing.parseSlots read p.scope slots split.spans
        (parts.result.isSome, (parts.map (made split)).after sofar.entries)) splits ⟨none, entries⟩
      (r.1, d.attempt r.2) := by
  induction splits generalizing entries with
  | nil => rfl
  | cons split rest ih =>
    have hslots := Performs.parseSlots hread slots split.spans (d.note entries)
      (by rw [Desk.spot_note, hd])
    simp only [tryEach, hslots, Desk.attempt, Desk.note_note]
    cases hresult : (Parsing.parseSlots read p.scope slots split.spans).result with
    | none =>
      simp only [Option.isSome_none, ih]
      simp only [Attempt.after, Attempt.map, hresult, Option.map_none]
      rfl
    | some parts => simp [Attempt.after, Attempt.map, hresult]

theorem Performs.matchPattern (hread : PerformsReader p work read) (index : Nat)
    (pattern : Pattern) (text : String) :
    Performs p (Procedure.matchPattern work index pattern text)
      (Parsing.matchPattern read p.scope index pattern text) := by
  intro d hd
  have htry := tryEach_parseSlots hread pattern.slots (capture index)
    (pattern.splits text.toList) hd []
  rw [Procedure.matchPattern, Parsing.matchPattern, Pattern.offer_eq_tryEach,
    Pattern.offer_eq_tryEach]
  exact congrArg Prod.snd htry

theorem Performs.matchElement (hread : PerformsReader p work read)
    (setup : Scope → Capture → Setup α) (patterns : List Pattern) (text : String) :
    Performs p (Procedure.matchElement work setup patterns text)
      (Parsing.matchElement read p.scope setup patterns text) := by
  refine .firstOf (fun (index, pattern) => ?_) _
  refine (Performs.matchPattern hread index pattern text).bind fun c => .look fun d hd => ?_
  rw [show d.scope = p.scope from congrArg Spot.scope hd]
  exact .runSetup hread _

end Patterns

/-! ### Expressions -/

section Expressions

variable {work : DeskReader} {read : Reader} (text : String) (slot : Slot)

theorem Performs.tryEntry (hread : PerformsReader p work read)
    (entry : ExpressionEntry Pattern) :
    Performs p (Procedure.tryEntry work text slot entry)
      (Parsing.tryEntry read p.scope text slot entry) := by
  refine .look fun d hd => ?_
  rw [show d.scope = p.scope from congrArg Spot.scope hd, Parsing.tryEntry]
  split
  · exact .ofOption none
  · exact (Performs.matchElement hread _ _ _).bind fun e => .ofOption _

/-- What has been found so far stays, and all remaining expressions are tried. -/
theorem tryGroup_attempt (hread : PerformsReader p work read)
    (entries : List (ExpressionEntry Pattern)) {d : Desk} (hd : d.spot = p)
    (sofar : Attempt Expression) :
    Procedure.tryGroup work text slot sofar.result entries (d.note sofar.entries) =
      d.attempt (entries.foldl (fun sofar entry =>
        let next := Parsing.tryEntry read p.scope text slot entry
        ⟨sofar.result.or next.result, sofar.entries ++ next.entries⟩) sofar) := by
  induction entries generalizing sofar with
  | nil => rfl
  | cons entry rest ih =>
    have hentry := Performs.tryEntry text slot hread entry (d.note sofar.entries)
      (by rw [Desk.spot_note, hd])
    rw [Procedure.tryGroup, List.foldl_cons, ← ih]
    simp only [hentry, Desk.attempt, Desk.note_note]

theorem Performs.tryGroup (hread : PerformsReader p work read)
    (entries : List (ExpressionEntry Pattern)) :
    Performs p (Procedure.tryGroup work text slot none entries)
      (Parsing.tryGroup read p.scope text slot entries) :=
  fun _ hd => tryGroup_attempt text slot hread entries hd .no

theorem Performs.parseLiteral :
    Performs p (Procedure.parseLiteral text slot) (Parsing.parseLiteral p.scope text slot) := by
  refine .look fun d hd => ?_
  rw [show d.scope = p.scope from congrArg Spot.scope hd, Parsing.parseLiteral]
  cases slot.types.findSome? fun type => p.scope.system.types.readLiteral? type text with
  | some value => exact .ofOption _
  | none => exact .complain _ _

theorem Performs.acceptFor (e : Expression) :
    Performs p (Procedure.acceptFor text slot e) (Parsing.acceptFor p.scope text slot e) := by
  refine .look fun d hd => ?_
  rw [show d.scope = p.scope from congrArg Spot.scope hd, Parsing.acceptFor]
  cases convertExpression? p.scope.system slot.types e with
  | some e => exact .ofOption _
  | none => exact .complain _ _

theorem Performs.parseSingle (hread : PerformsReader p work read) :
    Performs p (Procedure.parseSingle work text slot)
      (Parsing.parseSingle p.registry read p.scope text slot) := by
  rw [Procedure.parseSingle, Parsing.parseSingle]
  cases Text.unquote text.toList with
  | some content => exact (Performs.runSetup hread _).bind fun parts => .acceptFor text slot _
  | none =>
    cases slot.literalOnly with
    | true => exact .parseLiteral text slot
    | false =>
      simp only [Bool.false_eq_true, if_false]
      refine .look fun d hd => ?_
      rw [show d.scope = p.scope from congrArg Spot.scope hd,
        show d.state.registry = p.registry from congrArg Spot.registry hd]
      cases plainNumber? p.scope.system text slot with
      | some value => exact .acceptFor text slot _
      | none =>
        have hgroup (group : Priority) :=
          Performs.tryGroup text slot hread (p.registry.inGroup group)
        exact (Performs.firstOf hgroup Priority.inOrder).orElse (.parseLiteral text slot)

theorem Performs.parseItems (hread : PerformsReader p work read) (slot : Slot)
    (items : List (List Char)) :
    Performs p (Procedure.parseItems work slot items)
      (Parsing.parseItems p.registry read p.scope slot items) := by
  induction items with
  | nil => exact .ofOption _
  | cons item rest ih =>
    rw [Procedure.parseItems, Parsing.parseItems]
    refine Performs.bind ?_ fun e => ih.map _
    cases Text.stripParens item with
    | some inner => exact hread _ slot
    | none => exact .parseSingle _ slot hread

theorem Performs.parseList (hread : PerformsReader p work read) :
    Performs p (Procedure.parseList work text slot)
      (Parsing.parseList p.registry read p.scope text slot) := by
  rw [Procedure.parseList, Parsing.parseList]
  cases Text.splitList text.toList with
  | none => exact .ofOption none
  | some e =>
    by_cases hlength : e.items.length ≤ 1
    · simp only [if_pos hlength]
      exact .ofOption none
    simp only [if_neg hlength]
    cases e.isMixed with
    | true => exact .complain _ _
    | false =>
      refine (Performs.parseItems hread _ e.items).bind fun items => ?_
      intro d hd
      have hscope : d.scope = p.scope := congrArg Spot.scope hd
      beta_reduce
      by_cases hcomma : (e.isCommaOnly && p.scope.warnMissingAnd) = true
      · rw [hscope, if_pos hcomma, if_pos hcomma, ← hscope]
        rfl
      · rw [hscope, if_neg hcomma, if_neg hcomma]
        rfl

theorem Performs.parseOnce (hread : PerformsReader p work read) :
    Performs p (Procedure.parseOnce work text slot)
      (Parsing.parseOnce p.registry read p.scope text slot) := by
  rw [Procedure.parseOnce, Parsing.parseOnce]
  cases Text.stripParens text.toList with
  | some inner => exact hread _ slot
  | none =>
    have hlist := Performs.parseList text slot hread
    exact ((Performs.parseSingle text slot hread).orElse hlist).inFrame none

theorem Performs.demandSingle (e : Expression) :
    Performs p (Procedure.demandSingle text slot e) (Parsing.demandSingle p.scope text slot e) := by
  rw [Procedure.demandSingle, Parsing.demandSingle]
  split
  · refine .look fun d hd => ?_
    rw [show d.scope = p.scope from congrArg Spot.scope hd]
    exact .complain _ _
  · exact .ofOption _

/-- The depth on the desk bounds the nesting. By induction on the rounds, which are always more
than the levels that are left. -/
theorem performs_parseWithin {rounds : Nat} (h : maxDepth - p.depth < rounds) :
    PerformsReader p (Procedure.parseWithin rounds) p.read := by
  induction rounds generalizing p with
  | zero => omega
  | succ rounds ih =>
    intro text slot
    rw [Spot.read, Procedure.parseWithin]
    by_cases hdepth : maxDepth ≤ p.depth
    · rw [Nat.sub_eq_zero_of_le hdepth, Parsing.parseWithin]
      cases (Text.trimString text).isEmpty with
      | true => exact .complain _ _
      | false =>
        simp only [Bool.false_eq_true, if_false]
        refine .look fun d hd => ?_
        rw [show d.depth = p.depth from congrArg Spot.depth hd, if_pos hdepth]
        exact .complain _ _
    · obtain ⟨left, hleft⟩ := Nat.exists_eq_succ_of_ne_zero
        (show maxDepth - p.depth ≠ 0 by omega)
      have hdeeper := ih (p := { p with depth := p.depth + 1 }) (by dsimp only; omega)
      rw [Spot.read, show maxDepth - (p.depth + 1) = left by omega] at hdeeper
      rw [hleft, Parsing.parseWithin]
      cases (Text.trimString text).isEmpty with
      | true => exact .complain _ _
      | false =>
        simp only [Bool.false_eq_true, if_false]
        refine .look fun d hd => ?_
        rw [show d.depth = p.depth from congrArg Spot.depth hd, if_neg hdepth]
        exact (Performs.parseOnce _ slot hdeeper).nested.bind fun e => .demandSingle _ slot e

theorem performs_parseExpression : PerformsReader p Procedure.parseExpression p.read :=
  performs_parseWithin (by omega)

end Expressions

/-! ### Lines and headers -/

section Lines

variable (p) (text : String)

/-- Some statements tried in order, with nested texts read at the depth of the spot. -/
def Spot.parseAmong (entries : List (StatementEntry Pattern)) (complaint : String) :
    Attempt Statement :=
  let text := Text.trimString text
  (Attempt.firstOf (fun entry => matchElement p.read p.scope entry.setup.run entry.patterns text)
    entries).framed (some (.error p.scope.location (complaint ++ "'" ++ text ++ "'") .generic))

/-- A condition or an effect. -/
def Spot.parseStatement : Attempt Statement :=
  p.parseAmong text p.registry.statements "Can't understand this condition/effect: "

/-- A condition. -/
def Spot.parseCondition : Attempt Condition :=
  (p.parseAmong text (p.registry.statements.filter (·.setup.isCondition))
    "Can't understand this condition: ").bind fun s => .ofOption s.condition?

/-- A header as one registered element, which sees the events that it is about. -/
def Spot.tryHeader (entry : HeaderEntry Pattern) : Attempt ParsedHeader :=
  let q := p.about entry.kinds
  (matchElement q.read q.scope entry.setup entry.patterns text).map
    fun header => ⟨entry.name, entry.kinds, header⟩

/-- The header of a trigger. -/
def Spot.parseHeader : Attempt ParsedHeader :=
  let text := withoutOn text
  (Attempt.firstOf (p.tryHeader text) p.registry.headers).framed
    (some (.error p.scope.location ("Can't understand this event: '" ++ text ++ "'") .generic))

theorem performs_parseAmong (entries : Registry → List (StatementEntry Pattern))
    (complaint : String) :
    Performs p (Procedure.parseAmong entries complaint text)
      (p.parseAmong text (entries p.registry) complaint) := by
  refine Performs.inFrame (.look fun d hd => ?_) (some (_, .generic))
  rw [show d.state.registry = p.registry from congrArg Spot.registry hd]
  exact .firstOf (fun entry => .matchElement performs_parseExpression _ _ _) _

theorem performs_parseStatement :
    Performs p (Procedure.parseStatement text) (p.parseStatement text) :=
  performs_parseAmong p text Registry.statements _

theorem performs_parseCondition :
    Performs p (Procedure.parseCondition text) (p.parseCondition text) :=
  (performs_parseAmong p text (fun r => r.statements.filter (·.setup.isCondition)) _).bind
    fun _ => .ofOption _

theorem performs_tryHeader (entry : HeaderEntry Pattern) :
    Performs p (Procedure.tryHeader text entry) (p.tryHeader text entry) :=
  Performs.map (.about (.matchElement performs_parseExpression _ _ _)) _

theorem performs_parseHeader : Performs p (Procedure.parseHeader text) (p.parseHeader text) := by
  refine Performs.inFrame (.look fun d hd => ?_) (some (_, .generic))
  rw [show d.state.registry = p.registry from congrArg Spot.registry hd]
  exact .firstOf (performs_tryHeader p _) _

end Lines

/-! ### The next line -/

section NextLine

/-- Where the next line is read. -/
def State.desk (s : State) : Desk := ⟨s, 0⟩

/-- An attempt at the next line, as it changes the desk. -/
def State.attemptOn (s : State) (f : Registry → Scope → Attempt α) : Option α × Desk :=
  ((s.attempt f).1, (s.attempt f).2.desk)

theorem attemptOn_eq_attempt (s : State) (f : Registry → Scope → Attempt α) :
    s.attemptOn f = s.desk.attempt (f s.registry s.scope) := rfl

theorem read_desk (s : State) : s.desk.spot.read = parseExpression s.registry s.scope := rfl

variable (s : State) (text : String)

/-- **The next line is read on the desk.** The attempts that are made at lines are what the
procedures do, with the log that they leave. -/
theorem attemptOn_eq :
    (∀ slot, s.attemptOn (parseExpression · · text slot) =
      Procedure.parseExpression text slot s.desk) ∧
    s.attemptOn (parseStatement · · text) = Procedure.parseStatement text s.desk ∧
    s.attemptOn (parseCondition · · text) = Procedure.parseCondition text s.desk ∧
    s.attemptOn (parseHeader · · text) = Procedure.parseHeader text s.desk := by
  simp only [attemptOn_eq_attempt]
  refine ⟨fun slot => ?_, (performs_parseStatement s.desk.spot text s.desk rfl).symm,
    (performs_parseCondition s.desk.spot text s.desk rfl).symm,
    (performs_parseHeader s.desk.spot text s.desk rfl).symm⟩
  rw [performs_parseExpression text slot s.desk rfl, read_desk]

end NextLine

end TriggerScript.Parsing
