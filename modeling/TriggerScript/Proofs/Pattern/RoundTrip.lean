import Mathlib
import TriggerScript.Proofs.Pattern.Spelling

/-!
# Written patterns are read back

Reading the text of a part puts the part behind those that were read before. So a pattern that was
written down is compiled to what it was.

* `reached` : what has been read when the first parts of a pattern lie behind.
* `Reads` : reading a text leads from one draft to another.
* `reads_chars`, `reads_literal`, `reads_space`, `reads_slot`, `reads_regex` : parts that are not
  groups.
* `SpellsAll.reads` : parts one after the other, with the groups among them.
* `compile_of_reads`, `compile_of_spells` : the pattern as a whole.
* `compile_undoes_spelling` : compiled patterns are normal, and normal patterns are read back.
-/

namespace TriggerScript

namespace Pattern

/-! ### Drafts of a pattern -/

/-- The slots among the first parts of a pattern. -/
def slotsUpTo (p : Pattern) (leaves : List Element) : List Slot :=
  p.slots.take (leaves.filterMap (·.slot?)).length

/-- The regular expressions among the first parts of a pattern. -/
def regexesUpTo (p : Pattern) (leaves : List Element) : List Regex :=
  p.regexes.take (leaves.filterMap (·.regex?)).length

/-- What has been read when `leaves` are the parts of a pattern that lie behind, and `elements` those
of the innermost sequence in reverse; no literal is open. -/
def ended (p : Pattern) (leaves : List Element) (groups : List OpenGroup)
    (elements : List Element) : Draft :=
  ⟨groups, elements, [], p.slotsUpTo leaves, p.regexesUpTo leaves⟩

/-- The same while a literal that comes last is still open. -/
def reached (p : Pattern) (leaves : List Element) (groups : List OpenGroup) :
    List Element → Draft
  | .literal cs :: before => { p.ended leaves groups before with word := cs.reverse }
  | elements => p.ended leaves groups elements

section Drafts

variable {p : Pattern} {leaves : List Element} {groups : List OpenGroup} {elements : List Element}

theorem reached_of_not_literal (h : ∀ cs, .literal cs ∉ elements.head?) :
    p.reached leaves groups elements = p.ended leaves groups elements := by
  unfold reached
  split
  · next cs before => exact absurd rfl (h cs)
  · rfl

/-- A literal ends where something else begins. -/
theorem flush_reached (h : ∀ e ∈ elements.head?, e.Normal) :
    (p.reached leaves groups elements).flush = p.ended leaves groups elements := by
  unfold reached
  split
  · next cs before =>
    have hne : cs ≠ [] := by
      cases h _ rfl with
      | literal hne _ => exact hne
    simp [Draft.flush, ended, hne]
  · simp [Draft.flush, ended]

theorem groups_reached : (p.reached leaves groups elements).groups = groups := by
  unfold reached
  split <;> rfl

theorem slots_reached : (p.reached leaves groups elements).slots = p.slotsUpTo leaves := by
  unfold reached
  split <;> rfl

theorem regexes_reached : (p.reached leaves groups elements).regexes = p.regexesUpTo leaves := by
  unfold reached
  split <;> rfl

/-- A part without a number adds neither a slot nor a regular expression. -/
theorem ended_append {e : Element} (hslot : e.slot? = none) (hregex : e.regex? = none) :
    p.ended (leaves ++ [e]) groups elements = p.ended leaves groups elements := by
  simp [ended, slotsUpTo, regexesUpTo, hslot, hregex]

theorem eq_length_of_prefix_range {indices : List Nat} {i n : Nat}
    (h : indices ++ [i] <+: List.range n) : i = indices.length := by
  have hlast := h.getElem (i := indices.length) (by simp)
  simpa using hlast

/-- Slots are numbered as they are read. -/
theorem slot_eq_length (hnormal : p.Normal) {i : Nat}
    (h : leaves ++ [.slot i] <+: elementsLeaves p.elements) :
    i = (leaves.filterMap (·.slot?)).length := by
  have hindices := h.filterMap (·.slot?)
  rw [List.filterMap_append, ← slotIndices, hnormal.slots] at hindices
  exact eq_length_of_prefix_range hindices

theorem regex_eq_length (hnormal : p.Normal) {i : Nat}
    (h : leaves ++ [.regex i] <+: elementsLeaves p.elements) :
    i = (leaves.filterMap (·.regex?)).length := by
  have hindices := h.filterMap (·.regex?)
  rw [List.filterMap_append, ← regexIndices, hnormal.regexes] at hindices
  exact eq_length_of_prefix_range hindices

/-- The next slot comes behind those that were read before. -/
theorem slotsUpTo_slot {i : Nat} {slot : Slot}
    (hslot : p.slots[(leaves.filterMap (·.slot?)).length]? = some slot) :
    p.slotsUpTo (leaves ++ [.slot i]) = p.slotsUpTo leaves ++ [slot] := by
  rw [slotsUpTo, slotsUpTo, List.filterMap_append, List.length_append]
  change p.slots.take ((leaves.filterMap (·.slot?)).length + 1) = _
  rw [List.take_add_one, hslot, Option.toList_some]

theorem regexesUpTo_regex {i : Nat} {re : Regex}
    (hre : p.regexes[(leaves.filterMap (·.regex?)).length]? = some re) :
    p.regexesUpTo (leaves ++ [.regex i]) = p.regexesUpTo leaves ++ [re] := by
  rw [regexesUpTo, regexesUpTo, List.filterMap_append, List.length_append]
  change p.regexes.take ((leaves.filterMap (·.regex?)).length + 1) = _
  rw [List.take_add_one, hre, Option.toList_some]

end Drafts

/-! ### Reading texts -/

section Reading

variable {types : TypeTable} {source : String} {p : Pattern}

/-- Reading a text leads from one draft to another, whatever follows. -/
def Reads (types : TypeTable) (source : String) (d : Draft) (text : List Char) (d' : Draft) :
    Prop :=
  ∀ place tail, ∃ place', d.run types source (tokensFrom place (text ++ tail)) =
    d'.run types source (tokensFrom place' tail)

theorem Reads.nil {d : Draft} : Reads types source d [] d :=
  fun place _ => ⟨place, rfl⟩

theorem Reads.append {d d' d'' : Draft} {xs ys : List Char} (h : Reads types source d xs d')
    (h' : Reads types source d' ys d'') : Reads types source d (xs ++ ys) d'' := by
  intro place tail
  obtain ⟨place', hfirst⟩ := h place (ys ++ tail)
  obtain ⟨place'', hsecond⟩ := h' place' tail
  exact ⟨place'', by rw [List.append_assoc, hfirst, hsecond]⟩

theorem run_cons_of_step {d d' : Draft} {token : Token} (h : d.step types source token = .ok d')
    (rest : List Token) :
    d.run types source (token :: rest) = d'.run types source rest := by
  rw [Draft.run, h]
  rfl

/-- The characters of a literal gather at its end, in lower case. -/
theorem run_chars {d : Draft} (cs : List Char) (rest : List Token) :
    d.run types source (cs.map .char ++ rest) =
      Draft.run types source { d with word := (cs.flatMap Text.lowerChar).reverse ++ d.word }
        rest := by
  induction cs generalizing d with
  | nil => rfl
  | cons c cs ih =>
    rw [List.map_cons, List.cons_append, run_cons_of_step rfl, ih]
    simp

/-- Characters that stand for themselves are read as a literal. -/
theorem reads_chars {leaves : List Element} {groups : List OpenGroup} {elements : List Element}
    {cs text : List Char}
    (htokens : ∀ place tail, ∃ place',
      tokensFrom place (text ++ tail) = cs.map .char ++ tokensFrom place' tail)
    (hapart : ∀ e ∈ elements.head?, Apart (.literal (cs.flatMap Text.lowerChar)) e) :
    Reads types source (p.reached leaves groups elements) text
      (p.reached (leaves ++ [.literal (cs.flatMap Text.lowerChar)]) groups
        (.literal (cs.flatMap Text.lowerChar) :: elements)) := by
  intro place tail
  have hbefore : p.reached leaves groups elements = p.ended leaves groups elements :=
    reached_of_not_literal fun cs' hcs' => hapart _ hcs'
  obtain ⟨place', htokens⟩ := htokens place tail
  refine ⟨place', ?_⟩
  rw [htokens, run_chars, hbefore, reached, ended_append rfl rfl, ended, List.append_nil]

theorem reads_literal {leaves : List Element} {groups : List OpenGroup} {elements : List Element}
    {cs : List Char} (hlower : ∀ c ∈ cs, Text.lowerChar c = [c])
    (hapart : ∀ e ∈ elements.head?, Apart (.literal cs) e) :
    Reads types source (p.reached leaves groups elements) (escaped cs)
      (p.reached (leaves ++ [.literal cs]) groups (.literal cs :: elements)) := by
  have hown : cs.flatMap Text.lowerChar = cs := by
    rw [List.flatMap_congr hlower, List.flatMap_singleton']
  rw [← hown] at hapart
  have hreads : Reads types source (p.reached leaves groups elements) (escaped cs) _ :=
    reads_chars (fun place tail => ⟨_, tokensFrom_escaped place cs tail⟩) hapart
  rwa [hown] at hreads

/-- Blanks behind blanks change nothing. -/
theorem run_blanks {leaves : List Element} {groups : List OpenGroup} {elements : List Element}
    (n : Nat) (rest : List Token) :
    (p.ended leaves groups (.space :: elements)).run types source
        (List.replicate n .blank ++ rest) =
      (p.ended leaves groups (.space :: elements)).run types source rest := by
  induction n with
  | zero => rfl
  | succ n ih => rw [List.replicate_succ, List.cons_append, run_cons_of_step rfl]; exact ih

theorem reads_space {leaves : List Element} {groups : List OpenGroup} {elements : List Element}
    {blanks : List Char} (hne : blanks ≠ []) (hblank : ∀ c ∈ blanks, Text.isBlank c = true)
    (helements : ∀ e ∈ elements.head?, e.Normal ∧ Apart .space e) :
    Reads types source (p.reached leaves groups elements) blanks
      (p.reached (leaves ++ [.space]) groups (.space :: elements)) := by
  intro place tail
  have hstep : (p.reached leaves groups elements).step types source .blank =
      .ok (p.ended leaves groups (.space :: elements)) := by
    rw [Draft.step, Draft.pushSpace, flush_reached fun e he => (helements e he).1]
    cases elements with
    | nil => rfl
    | cons e elements =>
      have hapart := (helements e rfl).2
      cases e with
      | space => exact absurd hapart id
      | _ => rfl
  obtain ⟨c, more, rfl⟩ := List.exists_cons_of_ne_nil hne
  refine ⟨place + (c :: more).length, ?_⟩
  rw [tokensFrom_blanks place hblank, List.length_cons, List.replicate_succ, List.cons_append,
    run_cons_of_step hstep, run_blanks, reached, ended_append rfl rfl]
  simp

theorem reads_slot {leaves : List Element} {groups : List OpenGroup} {elements : List Element}
    {i : Nat} {slot : Slot} {body : List Char} (hnormal : p.Normal)
    (hslot : p.slots[i]? = some slot) (hbody : '%' ∉ body) (hread : readSlot types body = .ok slot)
    (hleaves : leaves ++ [.slot i] <+: elementsLeaves p.elements)
    (helements : ∀ e ∈ elements.head?, e.Normal) :
    Reads types source (p.reached leaves groups elements) ('%' :: body ++ ['%'])
      (p.reached (leaves ++ [.slot i]) groups (.slot i :: elements)) := by
  intro place tail
  obtain rfl := slot_eq_length hnormal hleaves
  have hlength : (p.slotsUpTo leaves).length = (leaves.filterMap (·.slot?)).length := by
    have hlt := (List.getElem?_eq_some_iff.1 hslot).1
    rw [slotsUpTo, List.length_take]
    omega
  have hstep : ∀ place', (p.reached leaves groups elements).step types source (.slot body place') =
      .ok (p.ended (leaves ++ [.slot (leaves.filterMap (·.slot?)).length]) groups
        (.slot (leaves.filterMap (·.slot?)).length :: elements)) := by
    intro place'
    simp only [Draft.step, hread, Draft.push, flush_reached helements, slots_reached, hlength]
    simp [ended, slotsUpTo_slot hslot, regexesUpTo, Element.regex?]
  refine ⟨place + body.length + 2, ?_⟩
  rw [tokensFrom_slot hbody, run_cons_of_step (hstep _), reached]
  simp

theorem reads_regex {leaves : List Element} {groups : List OpenGroup} {elements : List Element}
    {i : Nat} {re : Regex} {body : List Char} (hnormal : p.Normal)
    (hre : p.regexes[i]? = some re) (hbody : isRegexBody body = true)
    (hcompile : Regex.compile? (wholeText body) = some re)
    (hleaves : leaves ++ [.regex i] <+: elementsLeaves p.elements)
    (helements : ∀ e ∈ elements.head?, e.Normal) :
    Reads types source (p.reached leaves groups elements) ('<' :: body ++ ['>'])
      (p.reached (leaves ++ [.regex i]) groups (.regex i :: elements)) := by
  intro place tail
  obtain rfl := regex_eq_length hnormal hleaves
  have hlength : (p.regexesUpTo leaves).length = (leaves.filterMap (·.regex?)).length := by
    have hlt := (List.getElem?_eq_some_iff.1 hre).1
    rw [regexesUpTo, List.length_take]
    omega
  have hstep : ∀ place', (p.reached leaves groups elements).step types source (.regex body place') =
      .ok (p.ended (leaves ++ [.regex (leaves.filterMap (·.regex?)).length]) groups
        (.regex (leaves.filterMap (·.regex?)).length :: elements)) := by
    intro place'
    simp only [Draft.step, hcompile, Draft.push, flush_reached helements, regexes_reached, hlength]
    simp [ended, regexesUpTo_regex hre, slotsUpTo, Element.slot?]
  refine ⟨place + body.length + 2, ?_⟩
  rw [tokensFrom_regex hbody, run_cons_of_step (hstep _), reached]
  simp

/-! ### Groups -/

/-- An alternative begins with its label, and what follows is read up to its end. -/
theorem run_alternative {leaves : List Element} {close : Char} {before : List Alternative}
    {outer : List Element} {groups : List OpenGroup} {mark : Int32} {label text : List Char}
    {d : Draft} {c : Char} (hmark : SpellsMark mark label)
    (hread : Reads types source (p.reached leaves (⟨close, before, mark, outer⟩ :: groups) [])
      text d)
    {tail : List Char} (hunmarked : Unmarked (text ++ c :: tail)) (place : Nat) : ∃ place',
    (p.ended leaves (⟨close, before, 0, outer⟩ :: groups) []).run types source
        (labelled place (label ++ (text ++ c :: tail))) =
      d.run types source (tokensFrom place' (c :: tail)) := by
  obtain ⟨tokens, place₁, hlabelled, htokens⟩ := labelled_of_spells hmark hunmarked place
  obtain ⟨place₂, hrun⟩ := hread place₁ (c :: tail)
  refine ⟨place₂, ?_⟩
  rcases htokens with rfl | ⟨rfl, rfl⟩
  · rw [hlabelled, List.singleton_append, run_cons_of_step rfl]
    exact hrun
  · rw [hlabelled, List.nil_append]
    exact hrun

/-- A group begins. -/
theorem step_opening {leaves : List Element} {groups : List OpenGroup} {elements : List Element}
    {c : Char} (helements : ∀ e ∈ elements.head?, e.Normal) :
    (p.reached leaves groups elements).step types source (.opening c) =
      .ok (p.ended leaves (⟨if c == '[' then ']' else ')', [], 0, elements⟩ :: groups) []) := by
  simp only [Draft.step, flush_reached helements]
  rfl

section Delimiters

variable {leaves : List Element} {close : Char} {before : List Alternative} {mark : Int32}
  {outer : List Element} {groups : List OpenGroup} {elements : List Element} {place : Nat}
  (helements : ∀ e ∈ elements, e.Normal)

include helements

/-- An alternative ends and another one begins. -/
theorem step_bar :
    (p.reached leaves (⟨close, before, mark, outer⟩ :: groups) elements.reverse).step types source
        (.delimiter '|' place) =
      .ok (p.ended leaves (⟨close, .mk mark elements :: before, 0, outer⟩ :: groups) []) := by
  have hflush : (p.reached leaves (⟨close, before, mark, outer⟩ :: groups) elements.reverse).flush =
      p.ended leaves (⟨close, before, mark, outer⟩ :: groups) elements.reverse :=
    flush_reached fun e he => helements e (List.mem_reverse.1 (List.mem_of_mem_head? he))
  simp only [Draft.step, groups_reached, hflush]
  simp [ended]

/-- The last alternative ends, and the group with it. -/
theorem step_close (hclose : close = ')' ∨ close = ']') :
    (p.reached leaves (⟨close, before, mark, outer⟩ :: groups) elements.reverse).step types source
        (.delimiter close place) =
      .ok (p.ended leaves groups
        (.group (.mk mark elements :: before).reverse (close == ']') :: outer)) := by
  have hflush : (p.reached leaves (⟨close, before, mark, outer⟩ :: groups) elements.reverse).flush =
      p.ended leaves (⟨close, before, mark, outer⟩ :: groups) elements.reverse :=
    flush_reached fun e he => helements e (List.mem_reverse.1 (List.mem_of_mem_head? he))
  have hbar : (close == '|') = false := by
    rcases hclose with rfl | rfl <;> rfl
  simp only [Draft.step, groups_reached, hflush, hbar]
  simp [ended]

end Delimiters

/-! ### What was written down -/

mutual

/-- **The text of a part puts this part behind those that were read before.** -/
theorem Spells.reads (hregistered : types.Registered) (hnormal : p.Normal)
    (hwritable : Writable types p) {e : Element} {text : List Char} (h : Spells types p e text)
    (he : e.Normal) {leaves : List Element} {groups : List OpenGroup} {elements : List Element}
    (hleaves : leaves ++ e.leaves <+: elementsLeaves p.elements)
    (helements : ∀ x ∈ elements.head?, x.Normal ∧ Apart e x) :
    Reads types source (p.reached leaves groups elements) text
      (p.reached (leaves ++ e.leaves) groups (e :: elements)) := by
  have hlast : ∀ x ∈ elements.head?, x.Normal := fun x hx => (helements x hx).1
  match h with
  | .literal =>
    cases he with
    | literal _ hlower => exact reads_literal hlower fun x hx => (helements x hx).2
  | .space hne hblank => exact reads_space hne hblank helements
  | .slot hslot h =>
    have hmem := List.mem_of_getElem? hslot
    exact reads_slot hnormal hslot (not_mem_of_spellsSlot h (hwritable.spellable _ hmem))
      (readSlot_of_spells hregistered h (hwritable.ne_nil _ hmem) (hwritable.spellable _ hmem))
      hleaves hlast
  | .regex hre hbody h => exact reads_regex hnormal hre hbody h hleaves hlast
  | .choice h =>
    cases he with
    | group _ heach =>
    intro place tail
    obtain ⟨place', hrun⟩ :=
      h.run_eq hregistered hnormal hwritable (.inl rfl) heach hleaves [] elements groups
        (place + 1) tail
    refine ⟨place', ?_⟩
    rw [List.cons_append, tokensFrom_opening (.inl rfl), run_cons_of_step (step_opening hlast)]
    exact hrun
  | .option h =>
    cases he with
    | group _ heach =>
    intro place tail
    obtain ⟨place', hrun⟩ :=
      h.run_eq hregistered hnormal hwritable (.inr rfl) heach hleaves [] elements groups
        (place + 1) tail
    refine ⟨place', ?_⟩
    rw [List.cons_append, tokensFrom_opening (.inr rfl), run_cons_of_step (step_opening hlast)]
    exact hrun

theorem SpellsAll.reads (hregistered : types.Registered) (hnormal : p.Normal)
    (hwritable : Writable types p) {rest : List Element} {text : List Char}
    (h : SpellsAll types p rest text) (hrest : ElementsNormal rest) {leaves : List Element}
    {groups : List OpenGroup} {elements : List Element}
    (hleaves : leaves ++ elementsLeaves rest <+: elementsLeaves p.elements)
    (helements : ∀ x ∈ elements.head?, x.Normal ∧ ∀ e ∈ rest.head?, Apart e x) :
    Reads types source (p.reached leaves groups elements) text
      (p.reached (leaves ++ elementsLeaves rest) groups (rest.reverse ++ elements)) := by
  match h with
  | .nil =>
    rw [elementsLeaves, List.append_nil]
    exact Reads.nil
  | .cons h hmore =>
    obtain ⟨hapart, heach⟩ := hrest
    rw [List.isChain_cons] at hapart
    obtain ⟨he, hothers⟩ := List.forall_mem_cons.1 heach
    rw [List.reverse_cons, List.append_assoc, List.singleton_append]
    rw [elementsLeaves, ← List.append_assoc] at hleaves ⊢
    refine (h.reads hregistered hnormal hwritable he ((List.prefix_append _ _).trans hleaves)
      fun x hx => ⟨(helements x hx).1, (helements x hx).2 _ rfl⟩).append ?_
    refine hmore.reads hregistered hnormal hwritable ⟨hapart.2, hothers⟩ hleaves fun x hx => ?_
    obtain rfl := Option.some.inj hx
    exact ⟨he, fun e' he' => (hapart.1 e' he').symm⟩

theorem SpellsAlternatives.run_eq (hregistered : types.Registered) (hnormal : p.Normal)
    (hwritable : Writable types p) {close : Char} {alternatives : List Alternative}
    {text : List Char} (h : SpellsAlternatives types p close alternatives text)
    (hclose : close = ')' ∨ close = ']') (heach : ∀ a ∈ alternatives, a.Normal)
    {leaves : List Element}
    (hleaves : leaves ++ alternativesLeaves alternatives <+: elementsLeaves p.elements)
    (before : List Alternative) (outer : List Element) (groups : List OpenGroup) (place : Nat)
    (tail : List Char) : ∃ place',
      (p.ended leaves (⟨close, before, 0, outer⟩ :: groups) []).run types source
          (labelled place (text ++ tail)) =
        (p.reached (leaves ++ alternativesLeaves alternatives) groups
          (.group (before.reverse ++ alternatives) (close == ']') :: outer)).run types source
            (tokensFrom place' tail) := by
  have hcloseMark : ∀ rest, Unmarked (close :: rest) := by
    rcases hclose with rfl | rfl <;> exact unmarked_cons (by decide) (by decide)
  match h with
  | @SpellsAlternatives.last _ _ _ mark elements label text hmark h =>
    cases List.forall_mem_singleton.1 heach with
    | mk hapart helements =>
    rw [alternativesLeaves, alternativesLeaves, List.append_nil] at hleaves ⊢
    rw [List.append_assoc, List.append_assoc, List.singleton_append]
    have hreads : Reads types source (p.reached leaves (⟨close, before, mark, outer⟩ :: groups) [])
        text (p.reached (leaves ++ elementsLeaves elements) (⟨close, before, mark, outer⟩ :: groups)
          (elements.reverse ++ [])) :=
      h.reads hregistered hnormal hwritable ⟨hapart, helements⟩ hleaves nofun
    obtain ⟨place', hrun⟩ := run_alternative hmark hreads (h.unmarked (hcloseMark tail)) place
    refine ⟨place' + 1, ?_⟩
    rw [hrun, tokensFrom_close hclose, List.append_nil,
      run_cons_of_step (step_close helements hclose), List.reverse_cons]
    rfl
  | @SpellsAlternatives.more _ _ _ mark elements rest label text more hmark h hrest =>
    obtain ⟨hfirst, hothers⟩ := List.forall_mem_cons.1 heach
    cases hfirst with
    | mk hapart helements =>
    rw [alternativesLeaves, ← List.append_assoc] at hleaves ⊢
    rw [List.append_assoc, List.append_assoc, List.cons_append]
    have hreads : Reads types source (p.reached leaves (⟨close, before, mark, outer⟩ :: groups) [])
        text (p.reached (leaves ++ elementsLeaves elements) (⟨close, before, mark, outer⟩ :: groups)
          (elements.reverse ++ [])) :=
      h.reads hregistered hnormal hwritable ⟨hapart, helements⟩
        ((List.prefix_append _ _).trans hleaves) nofun
    have hbar : Unmarked ('|' :: (more ++ tail)) := unmarked_cons (by decide) (by decide) _
    obtain ⟨place₁, hrun⟩ := run_alternative hmark hreads (h.unmarked hbar) place
    obtain ⟨place₂, hmore⟩ := hrest.run_eq hregistered hnormal hwritable hclose hothers hleaves
      (.mk mark elements :: before) outer groups (place₁ + 1) tail
    refine ⟨place₂, ?_⟩
    rw [hrun, tokensFrom_bar, List.append_nil, run_cons_of_step (step_bar helements)]
    simpa using hmore

end

/-- A pattern is compiled from a text that leads from nothing to all its parts. -/
theorem compile_of_reads (hnormal : p.Normal) {text : List Char}
    (hreads : Reads types (String.ofList text) (p.reached [] [] []) text
      (p.reached (elementsLeaves p.elements) [] p.elements.reverse)) :
    compile types (String.ofList text) = .ok { p with source := String.ofList text } := by
  obtain ⟨place, hrun⟩ := hreads 0 []
  have hstart : p.reached [] [] [] = Draft.empty := by
    simp [reached, ended, slotsUpTo, regexesUpTo, Draft.empty]
  have hslots : p.slotsUpTo (elementsLeaves p.elements) = p.slots := by
    rw [slotsUpTo, ← slotIndices, hnormal.slots, List.length_range, List.take_length]
  have hregexes : p.regexesUpTo (elementsLeaves p.elements) = p.regexes := by
    rw [regexesUpTo, ← regexIndices, hnormal.regexes, List.length_range, List.take_length]
  have hflush : (p.reached (elementsLeaves p.elements) [] p.elements.reverse).flush =
      p.ended (elementsLeaves p.elements) [] p.elements.reverse :=
    flush_reached fun e he =>
      hnormal.elements.each e (List.mem_reverse.1 (List.mem_of_mem_head? he))
  rw [hstart, List.append_nil] at hrun
  refine compile_eq_ok_iff.2 ⟨p.reached (elementsLeaves p.elements) [] p.elements.reverse,
    ?_, groups_reached, ?_, ?_⟩
  · rw [tokens, String.toList_ofList, hrun, tokensFrom]
    rfl
  · rw [hflush]
    exact List.reverse_ne_nil_iff.2 hnormal.ne_nil
  · rw [hflush, slots_reached, regexes_reached, hslots, hregexes, ended, List.reverse_reverse]

/-- **A pattern that was written down is compiled to what it was.** -/
theorem compile_of_spells (hregistered : types.Registered) (hnormal : p.Normal)
    (hwritable : Writable types p) {text : List Char} (h : SpellsAll types p p.elements text) :
    compile types (String.ofList text) = .ok { p with source := String.ofList text } := by
  have hreads : Reads types (String.ofList text) (p.reached [] [] []) text
      (p.reached ([] ++ elementsLeaves p.elements) [] (p.elements.reverse ++ [])) :=
    h.reads hregistered hnormal hwritable hnormal.elements (List.prefix_refl _) nofun
  rw [List.nil_append, List.append_nil] at hreads
  exact compile_of_reads hnormal hreads

end Reading

/-- **Compiling undoes writing.** Compiled patterns are in normal form. A normal pattern can be
written down if its slots ask for types whose names can stand there and its regular expressions have
texts; and however it is written down, it is compiled to the same parts, marks, slots and regular
expressions. -/
theorem compile_undoes_spelling :
    (∀ (types : TypeTable) (source : String) (p : Pattern),
      compile types source = .ok p → p.Normal) ∧
    ∀ (types : TypeTable) (p : Pattern), types.Registered → p.Normal → Writable types p →
      (∃ text, SpellsAll types p p.elements text) ∧
      ∀ text, SpellsAll types p p.elements text →
        compile types (String.ofList text) = .ok { p with source := String.ofList text } := by
  refine ⟨fun types source p h => normal_of_compile h, fun types p hregistered hnormal hwritable => ?_⟩
  exact ⟨exists_spellsAll hnormal hwritable p.elements hnormal.elements.each
    (List.Subset.refl _), fun text h => compile_of_spells hregistered hnormal hwritable h⟩

/-- Two types. The names of the second one differ in letter case only. -/
def herdTable : TypeTable := ⟨[.named "text" "text¦s", .named "sheep" "¦Sheep¦sheep"]⟩

theorem registered_herdTable : herdTable.Registered := by
  have hfirst : TypeTable.empty.register (.named "text" "text¦s") =
      .ok ⟨[.named "text" "text¦s"]⟩ := rfl
  have hsecond : TypeTable.register ⟨[.named "text" "text¦s"]⟩ (.named "sheep" "¦Sheep¦sheep") =
      .ok herdTable := rfl
  exact .register (.register .empty hfirst) hsecond

/-- A choice with a negative mark between an optional group and a regular expression. -/
def murmurPattern : Pattern where
  source := ""
  elements := [.literal ['s', 'a', 'y'], .space,
    .group [.mk (-3) [.group [.mk 0 [.slot 0], .mk 7 [.literal ['%', '1']]] true],
      .mk 0 [.regex 0]] false]
  slots := [⟨["text", "text"], false, true, false, true⟩]
  regexes := (Regex.compile? (wholeText "\\b.".toList)).toList

theorem exists_murmurRegex :
    ∃ re, Regex.compile? (wholeText "\\b.".toList) = some re ∧ murmurPattern.regexes = [re] := by
  have hsome : (Regex.compile? (wholeText "\\b.".toList)).isSome = true := by decide +kernel
  obtain ⟨re, hre⟩ := Option.isSome_iff_exists.1 hsome
  exact ⟨re, hre, by rw [murmurPattern, hre, Option.toList_some]⟩

theorem normal_murmurPattern : murmurPattern.Normal where
  ne_nil := List.cons_ne_nil _ _
  elements := by
    have hsay : Element.Normal (.literal ['s', 'a', 'y']) :=
      .literal (List.cons_ne_nil _ _) (by simpa using ⟨rfl, rfl, rfl⟩)
    have hone : Element.Normal (.literal ['%', '1']) :=
      .literal (List.cons_ne_nil _ _) (by simpa using ⟨rfl, rfl⟩)
    have hinner : Element.Normal
        (.group [.mk 0 [.slot 0], .mk 7 [.literal ['%', '1']]] true) := by
      refine .group (List.cons_ne_nil _ _) fun a ha => ?_
      rcases List.mem_pair.1 ha with rfl | rfl
      · exact .mk (List.isChain_singleton _) (List.forall_mem_singleton.2 .slot)
      · exact .mk (List.isChain_singleton _) (List.forall_mem_singleton.2 hone)
    have houter : Element.Normal
        (.group [.mk (-3) [.group [.mk 0 [.slot 0], .mk 7 [.literal ['%', '1']]] true],
          .mk 0 [.regex 0]] false) := by
      refine .group (List.cons_ne_nil _ _) fun a ha => ?_
      rcases List.mem_pair.1 ha with rfl | rfl
      · exact .mk (List.isChain_singleton _) (List.forall_mem_singleton.2 hinner)
      · exact .mk (List.isChain_singleton _) (List.forall_mem_singleton.2 .regex)
    refine .cons (.cons (.cons .nil houter nofun) .space ?_) hsay ?_
    · exact fun e he => Option.some.inj he ▸ trivial
    · exact fun e he => Option.some.inj he ▸ trivial
  slots := rfl
  regexes := by
    obtain ⟨re, -, hregexes⟩ := exists_murmurRegex
    rw [hregexes]
    rfl

theorem plainName_text (plural : Bool) :
    PlainName ((TypeInfo.named "text" "text¦s").form plural).toList := by
  cases plural <;> decide

theorem writable_murmurPattern : Writable herdTable murmurPattern where
  ne_nil := List.forall_mem_singleton.2 (List.cons_ne_nil _ _)
  known := by
    refine List.forall_mem_singleton.2 fun code hcode => ?_
    have hcode : code = "text" := by simpa using hcode
    exact ⟨_, List.mem_cons_self, hcode.symm⟩
  spellable := by
    refine List.forall_mem_singleton.2 fun info hinfo hcode => ?_
    rcases List.mem_pair.1 hinfo with rfl | rfl
    · exact ⟨plainName_text, by decide⟩
    · exact absurd hcode (by decide)
  regexes := by
    obtain ⟨re, hre, hregexes⟩ := exists_murmurRegex
    rw [hregexes]
    exact List.forall_mem_singleton.2 ⟨_, by decide, hre⟩

theorem spells_murmurPattern : SpellsAll herdTable murmurPattern murmurPattern.elements
    "\\s\\a\\y (-3¦[%-+text/texts%|7¦\\%\\1]|<\\b.>)".toList := by
  obtain ⟨re, hre, hregexes⟩ := exists_murmurRegex
  have hnames : ∀ name ∈ [(TypeInfo.named "text" "text¦s", false),
      (TypeInfo.named "text" "text¦s", true)], name.1 ∈ herdTable.infos := by
    intro name hname
    rcases List.mem_pair.1 hname with rfl | rfl <;> exact List.mem_cons_self
  have hslot : Spells herdTable murmurPattern (.slot 0) "%-+text/texts%".toList :=
    .slot rfl (@SpellsSlot.mk herdTable ['-', '+'] _ (by simp [isFlag]) hnames)
  have hseven : SpellsMark 7 "7¦".toList :=
    @SpellsMark.plain 7 ['7'] (List.cons_ne_nil _ _) (List.forall_mem_singleton.2 rfl) rfl
  have hthree : SpellsMark (-3) "-3¦".toList :=
    @SpellsMark.negative (-3) ['3'] (List.cons_ne_nil _ _) (List.forall_mem_singleton.2 rfl) rfl
  have hone : Spells herdTable murmurPattern (.literal ['%', '1']) "\\%\\1".toList := .literal
  have hoption := Spells.option
    (.more .omitted (.cons hslot .nil) (.last hseven (.cons hone .nil)))
  have hregex : Spells herdTable murmurPattern (.regex 0) "<\\b.>".toList :=
    .regex (by rw [hregexes]; rfl) (by decide : isRegexBody ['\\', 'b', '.'] = true) hre
  have hchoice := Spells.choice
    (.more hthree (.cons hoption .nil) (.last .omitted (.cons hregex .nil)))
  have hspace : Spells herdTable murmurPattern .space [' '] :=
    .space (List.cons_ne_nil _ _) (List.forall_mem_singleton.2 rfl)
  exact .cons .literal (.cons hspace (.cons hchoice .nil))

/-- It is written down with labels where marks are not zero, and read back. -/
theorem compile_undoes_spelling_murmurPattern :
    herdTable.Registered ∧ murmurPattern.Normal ∧ Writable herdTable murmurPattern ∧
    SpellsAll herdTable murmurPattern murmurPattern.elements
      "\\s\\a\\y (-3¦[%-+text/texts%|7¦\\%\\1]|<\\b.>)".toList ∧
    ∃ source, compile herdTable source = .ok { murmurPattern with source } ∧
      source = "\\s\\a\\y (-3¦[%-+text/texts%|7¦\\%\\1]|<\\b.>)" ∧
      Pattern.Normal { murmurPattern with source } := by
  have hcompile := (compile_undoes_spelling.2 herdTable murmurPattern registered_herdTable
    normal_murmurPattern writable_murmurPattern).2 _ spells_murmurPattern
  refine ⟨registered_herdTable, normal_murmurPattern, writable_murmurPattern,
    spells_murmurPattern, _, hcompile, String.ofList_toList, ?_⟩
  exact compile_undoes_spelling.1 _ _ _ hcompile

/-- Some sheep. -/
def flockPattern : Pattern := ⟨"", [.slot 0], [.many ["sheep"]], []⟩

/-- A slot that asks for no type. -/
def namelessPattern : Pattern := ⟨"", [.slot 0], [.one []], []⟩

theorem normal_of_one_slot (source : String) (slot : Slot) :
    Pattern.Normal ⟨source, [.slot 0], [slot], []⟩ where
  ne_nil := List.cons_ne_nil _ _
  elements := .cons .nil .slot nofun
  slots := rfl
  regexes := rfl

/-- What the conditions are for: a plural that is the singular in other letters is read as the
singular; a slot without names is not read at all; and what is a regular expression on its own may
hide the end of the one that it is put into. -/
theorem not_read_back :
    (herdTable.Registered ∧ flockPattern.Normal ∧
      (∀ info ∈ herdTable.infos, info.code ∈ ["sheep"] →
        info.singular ≠ info.plural ∧ ∀ plural, PlainName (info.form plural).toList) ∧
      SpellsAll herdTable flockPattern flockPattern.elements "%sheep%".toList ∧
      compile herdTable "%sheep%" =
        .ok { flockPattern with source := "%sheep%", slots := [.one ["sheep"]] } ∧
      flockPattern.slots ≠ [.one ["sheep"]]) ∧
    (namelessPattern.Normal ∧
      SpellsAll herdTable namelessPattern namelessPattern.elements "%%".toList ∧
      ∀ p, compile herdTable "%%" ≠ .ok p) ∧
    (isRegexBody "(?x)#a".toList = true ∧ (Regex.compile? "(?x)#a".toList).isSome = true ∧
      ∀ p, compile herdTable "<(?x)#a>" ≠ .ok p) := by
  refine ⟨⟨registered_herdTable, normal_of_one_slot _ _, ?_, ?_, ?_, by decide⟩,
    ⟨normal_of_one_slot _ _, ?_, ?_⟩, by decide, by decide +kernel, ?_⟩
  · intro info hinfo hcode
    rcases List.mem_pair.1 hinfo with rfl | rfl
    · exact absurd hcode (by decide)
    · refine ⟨by decide, fun plural => ?_⟩
      cases plural <;> decide
  · have hnames : ∀ name ∈ [(TypeInfo.named "sheep" "¦Sheep¦sheep", true)],
        name.1 ∈ herdTable.infos :=
      List.forall_mem_singleton.2 (List.mem_cons_of_mem _ List.mem_cons_self)
    have hslot : Spells herdTable flockPattern (.slot 0) "%sheep%".toList :=
      .slot rfl (@SpellsSlot.mk herdTable [] _ (by simp) hnames)
    exact .cons hslot .nil
  · have htokens : tokens "%sheep%".toList = [.slot "sheep".toList 7] := by cbv
    have hslot : readSlot herdTable "sheep".toList = .ok (.one ["sheep"]) := rfl
    rw [compile, htokens, Draft.run, Draft.step, hslot]
    rfl
  · have hslot : Spells herdTable namelessPattern (.slot 0) "%%".toList :=
      .slot rfl (@SpellsSlot.mk herdTable [] [] (by simp) (by simp))
    exact .cons hslot .nil
  · intro p h
    have htokens : tokens "%%".toList = [.slot [] 2] := by cbv
    have hslot : readSlot herdTable [] = .error "'' is not a type" := rfl
    obtain ⟨d, hrun, -⟩ := compile_eq_ok_iff.1 h
    rw [htokens, Draft.run, Draft.step, hslot] at hrun
    cases hrun
  · intro p h
    have htokens : tokens "<(?x)#a>".toList = [.regex "(?x)#a".toList 8] := by cbv
    have hnone : Regex.compile? (wholeText "(?x)#a".toList) = none := by decide +kernel
    obtain ⟨d, hrun, -⟩ := compile_eq_ok_iff.1 h
    rw [htokens, Draft.run, Draft.step, hnone] at hrun
    cases hrun

end Pattern

end TriggerScript
