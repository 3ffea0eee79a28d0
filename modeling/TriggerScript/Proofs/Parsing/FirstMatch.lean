import TriggerScript.Proofs.Parsing.Takes
import TriggerScript.Proofs.Registry.Closing

/-!
# The first element takes the line

Statements and headers are taken by the first registered element that takes them, by its first
pattern that does. Candidates before it leave no trace: each is told by what it does on a desk where
nothing has been tried, with any log.

* `Desk.StatementAt`, `Desk.HeaderAt` : what a pattern of an element reads a text as.
* `Subject` : a header without the word `on` in front.
* `first_match` : statements, conditions and headers.
-/

namespace TriggerScript.Parsing

namespace Desk

/-- What the statement with number `i` reads a text as, by its pattern with number `j`. -/
def StatementAt (d : Desk) (text : String) (i j : Nat) (s : Statement) : Prop :=
  ∃ entry p, d.state.registry.statements[i]? = some entry ∧ entry.patterns[j]? = some p ∧
    d.Takes entry.setup.run j p text s

/-- What the header with number `i` reads a text as, by its pattern with number `j`. The events are
those that this header is about. -/
def HeaderAt (d : Desk) (text : String) (i j : Nat) (parsed : ParsedHeader) : Prop :=
  ∃ entry p header, d.state.registry.headers[i]? = some entry ∧ entry.patterns[j]? = some p ∧
    (d.withEvents entry.kinds).Takes entry.setup j p text header ∧
    parsed = ⟨entry.name, entry.kinds, header⟩

end Desk

/-- A header without blanks around it and without one word `on`, in any letter case, in front. -/
def Subject (text subject : String) : Prop :=
  let cs := Text.trim text.toList
  if (cs.take 3).map Char.toLower = ['o', 'n', ' '] then
    subject = String.ofList (Text.trimStart (cs.drop 3))
  else subject = String.ofList cs

theorem subject_withoutOn (text : String) : Subject text (withoutOn text) := by
  have hword : ['o', 'n', ' '].map Char.toLower = ['o', 'n', ' '] := by decide
  simp only [Subject, withoutOn, Text.afterWord?, Text.sameAscii, hword, beq_iff_eq]
  by_cases h : (((Text.trim text.toList).take 3).map Char.toLower) = ['o', 'n', ' ']
  · rw [if_pos h]
    simp only [List.length_cons, List.length_nil, h, if_true]
  · rw [if_neg h]
    simp only [List.length_cons, List.length_nil, h, if_false]

section Places

variable {d : Desk} {text : String}

/-- A place has one statement. -/
theorem statementAt_unique {i j : Nat} {s s' : Statement} (h : d.StatementAt text i j s)
    (h' : d.StatementAt text i j s') : s = s' := by
  obtain ⟨entry, p, hentry, hp, htake⟩ := h
  obtain ⟨entry', p', hentry', hp', htake'⟩ := h'
  cases hentry.symm.trans hentry'
  cases hp.symm.trans hp'
  exact Option.some.inj (((takes_iff rfl).1 htake).symm.trans ((takes_iff rfl).1 htake'))

theorem selects_statements :
    Selects (d.StatementAt (Text.trimString text)) (Procedure.parseStatement text d).1 := by
  have hselects := selects_elements (Text.trimString text) (fun _ => d) (fun e => e.setup.run)
    (fun e => e.patterns) (fun _ s => s) d.state.registry.statements
  rw [fst_of_performs rfl (performs_parseStatement d.spot text), Spot.parseStatement,
    Spot.parseAmong, Attempt.result_framed, result_firstOf]
  simp only [Option.map_id'] at hselects
  refine hselects.congr fun i j s => ?_
  simp only [Desk.StatementAt, exists_eq_right, exists_and_left]

theorem selects_headers :
    Selects (d.HeaderAt (withoutOn text)) (Procedure.parseHeader text d).1 := by
  have hselects := selects_elements (withoutOn text) (fun e : HeaderEntry Pattern =>
    d.withEvents e.kinds) (fun e => e.setup) (fun e => e.patterns)
    (fun e header => (⟨e.name, e.kinds, header⟩ : ParsedHeader)) d.state.registry.headers
  rw [fst_of_performs rfl (performs_parseHeader d.spot text), Spot.parseHeader,
    Attempt.result_framed, result_firstOf]
  refine hselects.congr fun i j parsed => ?_
  simp only [Desk.HeaderAt, exists_and_left, @eq_comm _ parsed]

/-- Only conditions are tried. Their places are those among all statements. -/
theorem selects_conditions :
    Selects (fun i j c => d.StatementAt (Text.trimString text) i j (.condition c))
      (Procedure.parseCondition text d).1 := by
  have hselects := selects_elements (Text.trimString text) (fun _ => d) (fun e => e.setup.run)
    (fun e => if e.setup.isCondition then e.patterns else []) (fun _ s => s)
    d.state.registry.statements
  have hplace {e : StatementEntry Pattern} {p : Pattern} {j : Nat} :
      (if e.setup.isCondition then e.patterns else [])[j]? = some p ↔
        e.setup.isCondition = true ∧ e.patterns[j]? = some p := by
    cases e.setup.isCondition <;> simp
  have hfilter (e : StatementEntry Pattern) :
      (matchElement d.spot.read d.spot.scope e.setup.run
        (if e.setup.isCondition then e.patterns else []) (Text.trimString text)).result =
      if e.setup.isCondition then
        (matchElement d.spot.read d.spot.scope e.setup.run e.patterns (Text.trimString text)).result
      else none := by
    cases e.setup.isCondition <;> rfl
  simp only [Option.map_id', hfilter, hplace, exists_eq_right, exists_and_left] at hselects
  rw [← findSome?_filter] at hselects
  have hbind := hselects.bind (g := Statement.condition?) fun i j s hs => by
    obtain ⟨e, -, p, ⟨hcondition, -⟩, htake⟩ := hs
    rw [isSome_condition?_of_matchAt _ ((takes_iff rfl).1 htake), hcondition]
  rw [fst_of_performs rfl (performs_parseCondition d.spot text), Spot.parseCondition, result_bind,
    Spot.parseAmong, Attempt.result_framed, result_firstOf]
  refine hbind.congr fun i j c => ?_
  constructor
  · rintro ⟨s, ⟨e, he, p, ⟨-, hp⟩, htake⟩, hc⟩
    cases s with
    | effect => cases hc
    | condition condition =>
      cases hc
      exact ⟨e, p, he, hp, htake⟩
  · rintro ⟨e, p, he, hp, htake⟩
    have hcondition := isSome_condition?_of_matchAt _ ((takes_iff rfl).1 htake)
    exact ⟨_, ⟨e, he, p, ⟨hcondition.symm, hp⟩, htake⟩, rfl⟩

end Places

theorem statementAt_congr {d d' : Desk} (h : d.spot = d'.spot) {text : String} {i j : Nat}
    {s : Statement} : d.StatementAt text i j s ↔ d'.StatementAt text i j s := by
  simp only [Desk.StatementAt, takes_congr h,
    show d.state.registry = d'.state.registry from congrArg Spot.registry h]

theorem headerAt_congr {d d' : Desk} (h : d.spot = d'.spot) {text : String} {i j : Nat}
    {parsed : ParsedHeader} : d.HeaderAt text i j parsed ↔ d'.HeaderAt text i j parsed := by
  have habout (events : List EventKind) :
      (d.withEvents events).spot = (d'.withEvents events).spot :=
    congrArg (fun p => p.about events) h
  simp only [Desk.HeaderAt, takes_congr (habout _),
    show d.state.registry = d'.state.registry from congrArg Spot.registry h]

/-- **The first element that takes a line has it.** On every desk, reading a line gives what the
lexicographically first registered statement and pattern read it as, and fails if no pattern of a
statement takes it; reading a condition does so among the conditions, and reading a header among the
headers, each with its own events. What a pattern takes is told on the desk as it would be had any
other things been logged, so nothing tried before plays a part. The attempts that are made at lines
are these readings, and registered elements are numbered in order of registration. -/
theorem first_match (d : Desk) (past : Log) (text : String) :
    Selects ((d.withPast past).StatementAt (Text.trimString text))
      (Procedure.parseStatement text d).1 ∧
    Selects (fun i j c => (d.withPast past).StatementAt (Text.trimString text) i j (.condition c))
      (Procedure.parseCondition text d).1 ∧
    (∀ c, (Procedure.parseStatement text d).1 = some (.condition c) →
      (Procedure.parseCondition text (d.withPast past)).1 = some c) ∧
    (∃ subject, Subject text subject ∧
      Selects ((d.withPast past).HeaderAt subject) (Procedure.parseHeader text d).1) ∧
    (∀ s : State, s.desk = d →
      s.attemptOn (parseStatement · · text) = Procedure.parseStatement text d ∧
      s.attemptOn (parseCondition · · text) = Procedure.parseCondition text d ∧
      s.attemptOn (parseHeader · · text) = Procedure.parseHeader text d) ∧
    ∀ r : Registration, r.close = .ok d.state.registry →
      List.Forall₂ (fun s entry => Registration.closeStatement r.types s = .ok entry)
        r.statements d.state.registry.statements ∧
      List.Forall₂ (fun h entry => Registration.closeHeader r.types h = .ok entry)
        r.headers d.state.registry.headers := by
  have hspot : d.spot = (d.withPast past).spot := rfl
  refine ⟨selects_statements.congr fun _ _ _ => statementAt_congr hspot,
    selects_conditions.congr fun _ _ _ => statementAt_congr hspot, ?_,
    ⟨_, subject_withoutOn text, selects_headers.congr fun _ _ _ => headerAt_congr hspot⟩, ?_, ?_⟩
  · intro c hc
    have hstatements : Selects (d.StatementAt (Text.trimString text))
        (some (Statement.condition c)) := hc ▸ selects_statements
    refine hstatements.restrict ?_ (fun i j s s' => statementAt_unique)
      fun _ _ => Statement.condition.inj
    exact selects_conditions.congr fun _ _ _ => statementAt_congr hspot.symm
  · rintro s rfl
    exact (attemptOn_eq s text).2
  · intro r hr
    obtain ⟨entries, hclosed⟩ := Registration.closed_of_close hr
    exact ⟨hclosed.statements, hclosed.headers⟩

end TriggerScript.Parsing
