import TriggerScript.Engine.OptionTable
import TriggerScript.Proofs.Text.Parts

/-!
# The uses of options in a text

A text is cut at the first `{@` and at the next `}`, and so on behind that. Each name between them
is replaced by what it stands for; what is put in is not part of the text that is cut.

* `OptionUse`, `CutAtUses` : a text as its uses of options and what stands before and behind them.
* `exists_cutAtUses`, `CutAtUses.unique` : there is one way to cut a text.
* `replaced`, `undefinedNames` : the text with names replaced, and the names without a definition.
* `substituteChars_of_cutAtUses` : these are what replacing options gives.
* `substitute_cuts` : the replacing of options in one piece.
-/

namespace TriggerScript

/-- A use of an option, and the text before it since the last use. -/
structure OptionUse where
  before : List Char
  name : List Char
  deriving DecidableEq, Repr

namespace OptionUse

/-- The use as it is written. -/
def mark (use : OptionUse) : List Char :=
  '{' :: '@' :: (use.name ++ ['}'])

/-- What the name stands for. -/
def value? (table : OptionTable) (use : OptionUse) : Option String :=
  table.lookup (String.ofList use.name)

end OptionUse

/-- A text with its uses written out. -/
def written (uses : List OptionUse) (tail : List Char) : List Char :=
  uses.flatMap (fun use => use.before ++ use.mark) ++ tail

/-- A text with the names replaced by what they stand for; other uses stay as they are written. -/
def replaced (table : OptionTable) (uses : List OptionUse) (tail : List Char) : List Char :=
  uses.flatMap (fun use => use.before ++ ((use.value? table).elim use.mark String.toList)) ++ tail

/-- The names that stand for nothing, in order, as often as they are used. -/
def undefinedNames (table : OptionTable) (uses : List OptionUse) : List String :=
  (uses.filter fun use => (use.value? table).isNone).map fun use => String.ofList use.name

/-- A text is cut into uses of options and a tail: each use begins with the first `{@` and ends with
the next `}`, and no use is left in the tail. -/
inductive CutAtUses : List Char → List OptionUse → List Char → Prop where
  | tail {cs : List Char}
    (hnone : ∀ front name back, cs ≠ front ++ '{' :: '@' :: name ++ '}' :: back) : CutAtUses cs [] cs
  | use {use : OptionUse} {rest tail : List Char} {uses : List OptionUse}
    (hfirst : ¬['{', '@'] <:+: use.before) (hnext : '}' ∉ use.name)
    (hrest : CutAtUses rest uses tail) :
    CutAtUses (use.before ++ use.mark ++ rest) (use :: uses) tail

theorem replaced_cons (table : OptionTable) (use : OptionUse) (uses : List OptionUse)
    (tail : List Char) : replaced table (use :: uses) tail =
      use.before ++ (use.value? table).elim use.mark String.toList ++ replaced table uses tail := by
  rw [replaced, List.flatMap_cons, List.append_assoc, ← replaced]

theorem undefinedNames_cons (table : OptionTable) (use : OptionUse) (uses : List OptionUse) :
    undefinedNames table (use :: uses) =
      undefinedNames table [use] ++ undefinedNames table uses := by
  rw [undefinedNames, ← List.singleton_append, List.filter_append, List.map_append]
  rfl

/-! ### Cutting -/

theorem cutUse?_eq_none_iff {cs : List Char} : cutUse? cs = none ↔ ¬['{', '@'] <:+: cs := by
  induction cs using cutUse?.induct with
  | case1 rest => simpa [cutUse?] using ⟨[], rest, rfl⟩
  | case2 c rest hne ih =>
    rw [cutUse?.eq_2 _ _ hne, Option.map_eq_none_iff, ih, List.infix_cons_iff, not_or,
      iff_and_self]
    rintro - ⟨back, hback⟩
    obtain ⟨rfl, rfl⟩ := List.cons.inj hback
    exact hne back rfl rfl
  | case3 => simp [cutUse?]

/-- The first `{@` of a text. -/
theorem cutUse?_eq_some_iff {cs before rest : List Char} : cutUse? cs = some (before, rest) ↔
    cs = before ++ '{' :: '@' :: rest ∧ ¬['{', '@'] <:+: before := by
  constructor
  · intro h
    induction cs using cutUse?.induct generalizing before with
    | case1 back =>
      obtain ⟨rfl, rfl⟩ := Prod.mk.inj (Option.some.inj h)
      exact ⟨rfl, by simp⟩
    | case2 c back hne ih =>
      rw [cutUse?.eq_2 _ _ hne] at h
      obtain ⟨⟨front, rest'⟩, hcut, heq⟩ := Option.map_eq_some_iff.1 h
      obtain ⟨rfl, rfl⟩ := Prod.mk.inj heq
      obtain ⟨rfl, hfront⟩ := ih hcut
      refine ⟨rfl, fun hinfix => ?_⟩
      rcases List.infix_cons_iff.1 hinfix with ⟨more, hmore⟩ | hinfix
      · obtain ⟨rfl, rfl⟩ := List.cons.inj hmore
        exact hne _ rfl rfl
      · exact hfront hinfix
    | case3 => cases h
  · rintro ⟨rfl, hbefore⟩
    induction before with
    | nil => rfl
    | cons c before ih =>
      obtain ⟨hstart, hlater⟩ := not_or.1 (mt List.infix_cons_iff.2 hbefore)
      rw [List.cons_append, cutUse?.eq_2, ih hlater]
      · rfl
      · rintro back rfl hback
        cases before with
        | nil => cases hback
        | cons d before =>
          obtain ⟨rfl, -⟩ := List.cons.inj hback
          exact hstart ⟨before, rfl⟩

/-- The first use in a text, and the text behind it. -/
def nextUse? (cs : List Char) : Option (OptionUse × List Char) :=
  (cutUse? cs).bind fun cut =>
    (Text.cutAt? '}' cut.2).map fun parts => (⟨cut.1, parts.1⟩, parts.2)

theorem nextUse?_eq_some_iff {cs rest : List Char} {use : OptionUse} :
    nextUse? cs = some (use, rest) ↔ cs = use.before ++ use.mark ++ rest ∧
      ¬['{', '@'] <:+: use.before ∧ '}' ∉ use.name := by
  obtain ⟨before, name⟩ := use
  simp only [nextUse?, Option.bind_eq_some_iff, Option.map_eq_some_iff, Prod.exists,
    cutUse?_eq_some_iff, Text.cutAt?_eq_some_iff, Prod.mk.injEq, OptionUse.mk.injEq]
  constructor
  · rintro ⟨_, _, ⟨rfl, hfirst⟩, _, _, ⟨rfl, hnext⟩, ⟨rfl, rfl⟩, rfl⟩
    exact ⟨by simp [OptionUse.mark], hfirst, hnext⟩
  · rintro ⟨rfl, hfirst, hnext⟩
    exact ⟨before, name ++ '}' :: rest, ⟨by simp [OptionUse.mark], hfirst⟩, name, rest,
      ⟨rfl, hnext⟩, ⟨rfl, rfl⟩, rfl⟩

theorem nextUse?_append {use : OptionUse} (hfirst : ¬['{', '@'] <:+: use.before)
    (hnext : '}' ∉ use.name) (rest : List Char) :
    nextUse? (use.before ++ use.mark ++ rest) = some (use, rest) :=
  nextUse?_eq_some_iff.2 ⟨rfl, hfirst, hnext⟩

/-- There is no use in a text in which no `}` comes behind an `{@`. -/
theorem nextUse?_eq_none_iff {cs : List Char} : nextUse? cs = none ↔
    ∀ front name back, cs ≠ front ++ '{' :: '@' :: name ++ '}' :: back := by
  constructor
  · rintro hnone front name back rfl
    have hopen : ['{', '@'] <:+: front ++ '{' :: '@' :: name := ⟨front, name, by simp⟩
    obtain ⟨⟨before, rest⟩, hcut⟩ :=
      Option.ne_none_iff_exists'.1 (mt cutUse?_eq_none_iff.1 (not_not.2 hopen))
    obtain ⟨heq, hfirst⟩ := cutUse?_eq_some_iff.1 hcut
    have hcut' : cutUse? (front ++ '{' :: '@' :: name ++ '}' :: back) =
        some (before, rest ++ '}' :: back) :=
      cutUse?_eq_some_iff.2 ⟨by simp [heq], hfirst⟩
    rw [nextUse?, hcut', Option.bind_some, Option.map_eq_none_iff, Text.cutAt?_eq_none_iff] at hnone
    simp at hnone
  · intro hnone
    rw [Option.eq_none_iff_forall_ne_some]
    rintro ⟨use, rest⟩ hnext
    refine hnone use.before use.name rest ?_
    simp [(nextUse?_eq_some_iff.1 hnext).1, OptionUse.mark]

namespace CutAtUses

theorem of_nextUse? {cs rest tail : List Char} {use : OptionUse} {uses : List OptionUse}
    (h : nextUse? cs = some (use, rest)) (hrest : CutAtUses rest uses tail) :
    CutAtUses cs (use :: uses) tail := by
  obtain ⟨rfl, hfirst, hnext⟩ := nextUse?_eq_some_iff.1 h
  exact .use hfirst hnext hrest

/-- How a text is cut, by its first use. -/
theorem first {cs tail : List Char} {uses : List OptionUse} (h : CutAtUses cs uses tail) :
    nextUse? cs = none ∧ uses = [] ∧ tail = cs ∨
      ∃ use rest more, nextUse? cs = some (use, rest) ∧ uses = use :: more ∧
        CutAtUses rest more tail := by
  cases h with
  | tail hnone => exact .inl ⟨nextUse?_eq_none_iff.2 hnone, rfl, rfl⟩
  | use hfirst hnext hrest =>
    exact .inr ⟨_, _, _, nextUse?_append hfirst hnext _, rfl, hrest⟩

/-- There is one way only to cut a text. -/
theorem unique {cs tail tail' : List Char} {uses uses' : List OptionUse}
    (h : CutAtUses cs uses tail) (h' : CutAtUses cs uses' tail') : uses = uses' ∧ tail = tail' := by
  induction h generalizing uses' with
  | tail hnone =>
    rcases h'.first with ⟨-, rfl, rfl⟩ | ⟨use, rest, more, hnext', -, -⟩
    · exact ⟨rfl, rfl⟩
    · rw [nextUse?_eq_none_iff.2 hnone] at hnext'
      cases hnext'
  | @use use rest tail uses hfirst hnext hrest ih =>
    have huse := nextUse?_append hfirst hnext rest
    rcases h'.first with ⟨hnone, -, -⟩ | ⟨_, _, _, hnext', rfl, hrest'⟩
    · rw [huse] at hnone
      cases hnone
    · obtain ⟨rfl, rfl⟩ := Prod.mk.inj (Option.some.inj (huse.symm.trans hnext'))
      obtain ⟨rfl, rfl⟩ := ih hrest'
      exact ⟨rfl, rfl⟩

/-- Nothing is lost when a text is cut. -/
theorem written_eq {cs tail : List Char} {uses : List OptionUse} (h : CutAtUses cs uses tail) :
    written uses tail = cs := by
  induction h with
  | tail => rfl
  | use _ _ _ ih => rw [← ih, written, written, List.flatMap_cons, List.append_assoc]

end CutAtUses

/-- Each text can be cut. -/
theorem exists_cutAtUses (cs : List Char) : ∃ uses tail, CutAtUses cs uses tail := by
  -- What stands behind a use is shorter than the text.
  induction hlength : cs.length using Nat.strong_induction_on generalizing cs with
  | _ n ih =>
    cases hnext : nextUse? cs with
    | none => exact ⟨[], cs, .tail (nextUse?_eq_none_iff.1 hnext)⟩
    | some cut =>
      obtain ⟨use, rest⟩ := cut
      have hshorter : rest.length < n := by
        rw [← hlength, (nextUse?_eq_some_iff.1 hnext).1]
        simp [OptionUse.mark]
        omega
      obtain ⟨uses, tail, hrest⟩ := ih _ hshorter rest rfl
      exact ⟨use :: uses, tail, .of_nextUse? hnext hrest⟩

/-! ### Replacing -/

theorem substituteChars_of_nextUse?_none {table : OptionTable} {cs : List Char}
    (h : nextUse? cs = none) : substituteChars table cs = (cs, []) := by
  rw [substituteChars]
  split
  · rfl
  · next before rest hcut =>
    rw [nextUse?, hcut, Option.bind_some, Option.map_eq_none_iff] at h
    split
    · rfl
    · next name after hname =>
      rw [h] at hname
      cases hname

/-- The first use is replaced, and then those in the text behind it. -/
theorem substituteChars_of_nextUse? {table : OptionTable} {cs rest : List Char} {use : OptionUse}
    (h : nextUse? cs = some (use, rest)) : substituteChars table cs =
      (use.before ++ (use.value? table).elim use.mark String.toList ++
          (substituteChars table rest).1,
        undefinedNames table [use] ++ (substituteChars table rest).2) := by
  obtain ⟨⟨before, behind⟩, hcut, h⟩ := Option.bind_eq_some_iff.1 h
  obtain ⟨⟨name, after⟩, hname, h⟩ := Option.map_eq_some_iff.1 h
  obtain ⟨rfl, rfl⟩ := Prod.mk.inj h
  rw [substituteChars]
  split
  · next hnone =>
    rw [hcut] at hnone
    cases hnone
  · next before' behind' hcut' =>
    obtain ⟨rfl, rfl⟩ := Prod.mk.inj (Option.some.inj (hcut.symm.trans hcut'))
    split
    · next hnone =>
      rw [hname] at hnone
      cases hnone
    · next name' after' hname' =>
      obtain ⟨rfl, rfl⟩ := Prod.mk.inj (Option.some.inj (hname.symm.trans hname'))
      cases hvalue : table.lookup (String.ofList name) with
      | some value => simp [OptionUse.value?, undefinedNames, hvalue]
      | none => simp [OptionUse.value?, OptionUse.mark, undefinedNames, hvalue]

/-- **Each name is replaced once,** wherever the text has been cut. -/
theorem substituteChars_of_cutAtUses (table : OptionTable) {cs tail : List Char}
    {uses : List OptionUse} (h : CutAtUses cs uses tail) :
    substituteChars table cs = (replaced table uses tail, undefinedNames table uses) := by
  induction h with
  | tail hnone => exact substituteChars_of_nextUse?_none (nextUse?_eq_none_iff.2 hnone)
  | @use use rest tail uses hfirst hnext hrest ih =>
    rw [substituteChars_of_nextUse? (nextUse?_append hfirst hnext rest), ih, replaced_cons,
      undefinedNames_cons table use uses]

/-- **Replacing options is one exact pass.** There is one way to cut a text at its uses of options,
whatever they stand for. The names that are defined are replaced by their values, whatever these
look like, the other uses stay as they are, and there is one error for each of these, in order. -/
theorem substitute_cuts (text : String) :
    ∃ uses tail, (∀ uses' tail', CutAtUses text.toList uses' tail' ↔ uses' = uses ∧ tail' = tail) ∧
      String.ofList (written uses tail) = text ∧
      ∀ table location, substitute table location text =
        (String.ofList (replaced table uses tail), (undefinedNames table uses).map fun name =>
          .error (some location) ("undefined option \x7b@" ++ name ++ "\x7d") .semantic) := by
  obtain ⟨uses, tail, hcut⟩ := exists_cutAtUses text.toList
  refine ⟨uses, tail, fun uses' tail' => ⟨fun hcut' => hcut'.unique hcut, ?_⟩, ?_, ?_⟩
  · rintro ⟨rfl, rfl⟩
    exact hcut
  · rw [hcut.written_eq, String.ofList_toList]
  · intro table location
    rw [substitute, substituteChars_of_cutAtUses table hcut]

end TriggerScript
