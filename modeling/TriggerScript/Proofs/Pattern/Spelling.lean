import Mathlib
import TriggerScript.Proofs.Pattern.Normal
import TriggerScript.Proofs.Types.Naming

/-!
# Spelling patterns

The ways in which the parts of a pattern can be written down. Each character of a literal has an
escape before it, so no character of a literal is taken for anything else.

* `SpellsMark`, `SpellsSlot` : the marks of alternatives, and what stands between percent signs.
* `Spells`, `SpellsAll`, `SpellsAlternatives` : the texts of parts.
* `Writable` : patterns whose slots name types and whose regular expressions have a text.
* `exists_spellsAll` : a normal pattern that is writable can be written down.
* `readSlot_of_spells` : a slot is read back.
* `tokensFrom_escaped`, `tokensFrom_regex`, ... : the tokens of what was written down.
-/

namespace TriggerScript

namespace Pattern

/-! ### Texts of parts -/

/-- The signs that may stand before the names of types in a slot. -/
def isFlag (c : Char) : Bool :=
  c == '-' || c == '*' || c == '+' || c == '~'

/-- An escape before each character. -/
def escaped (cs : List Char) : List Char :=
  cs.flatMap fun c => ['\\', c]

/-- A text that can stand between angle brackets: no closing bracket in it is without an escape, and
no escape stands at its end. -/
def isRegexBody : List Char → Bool
  | [] => true
  | '>' :: _ => false
  | ['\\'] => false
  | '\\' :: _ :: rest => isRegexBody rest
  | _ :: rest => isRegexBody rest

/-- The mark of an alternative: a decimal number with a bar. Zero may be left out. -/
inductive SpellsMark : Int32 → List Char → Prop where
  | omitted : SpellsMark 0 []
  | plain {mark : Int32} {digits : List Char} (hne : digits ≠ [])
      (hdigits : ∀ d ∈ digits, d.isDigit = true) (hvalue : digitsValue digits = mark.toInt) :
      SpellsMark mark (digits ++ ['¦'])
  | negative {mark : Int32} {digits : List Char} (hne : digits ≠ [])
      (hdigits : ∀ d ∈ digits, d.isDigit = true) (hvalue : -digitsValue digits = mark.toInt) :
      SpellsMark mark ('-' :: digits ++ ['¦'])

/-- The slot that flags and names stand for; a name comes with whether it is a plural. -/
def slotOf (flags : List Char) (names : List (TypeInfo × Bool)) : Slot where
  types := names.map (·.1.code)
  single := names.all (!·.2)
  nullable := flags.contains '-'
  literalOnly := flags.contains '*'
  greedy := flags.contains '+'

/-- The names of types as they stand in a slot. -/
def namesText (names : List (TypeInfo × Bool)) : List Char :=
  ['/'].intercalate (names.map fun name => (name.1.form name.2).toList)

/-- What stands between percent signs for a slot: flags, and a name for each type. -/
inductive SpellsSlot (types : TypeTable) : Slot → List Char → Prop where
  | mk {flags : List Char} {names : List (TypeInfo × Bool)}
      (hflags : ∀ c ∈ flags, isFlag c = true) (hnames : ∀ name ∈ names, name.1 ∈ types.infos) :
      SpellsSlot types (slotOf flags names) (flags ++ namesText names)

mutual

/-- The texts of a part of a pattern. -/
inductive Spells (types : TypeTable) (p : Pattern) : Element → List Char → Prop where
  | literal {cs : List Char} : Spells types p (.literal cs) (escaped cs)
  | space {blanks : List Char} (hne : blanks ≠ [])
      (hblank : ∀ c ∈ blanks, Text.isBlank c = true) : Spells types p .space blanks
  | choice {alternatives : List Alternative} {text : List Char}
      (h : SpellsAlternatives types p ')' alternatives text) :
      Spells types p (.group alternatives false) ('(' :: text)
  | option {alternatives : List Alternative} {text : List Char}
      (h : SpellsAlternatives types p ']' alternatives text) :
      Spells types p (.group alternatives true) ('[' :: text)
  | slot {i : Nat} {slot : Slot} {body : List Char} (hslot : p.slots[i]? = some slot)
      (h : SpellsSlot types slot body) : Spells types p (.slot i) ('%' :: body ++ ['%'])
  | regex {i : Nat} {re : Regex} {body : List Char} (hre : p.regexes[i]? = some re)
      (hbody : isRegexBody body = true) (h : Regex.compile? (wholeText body) = some re) :
      Spells types p (.regex i) ('<' :: body ++ ['>'])

/-- The texts of parts one after the other. -/
inductive SpellsAll (types : TypeTable) (p : Pattern) : List Element → List Char → Prop where
  | nil : SpellsAll types p [] []
  | cons {e : Element} {rest : List Element} {text more : List Char} (h : Spells types p e text)
      (hrest : SpellsAll types p rest more) : SpellsAll types p (e :: rest) (text ++ more)

/-- The texts of the alternatives of a group up to its closing character. -/
inductive SpellsAlternatives (types : TypeTable) (p : Pattern) :
    Char → List Alternative → List Char → Prop where
  | last {close : Char} {mark : Int32} {elements : List Element} {label text : List Char}
      (hmark : SpellsMark mark label) (h : SpellsAll types p elements text) :
      SpellsAlternatives types p close [.mk mark elements] (label ++ (text ++ [close]))
  | more {close : Char} {mark : Int32} {elements : List Element} {rest : List Alternative}
      {label text more : List Char} (hmark : SpellsMark mark label)
      (h : SpellsAll types p elements text)
      (hrest : SpellsAlternatives types p close rest more) :
      SpellsAlternatives types p close (.mk mark elements :: rest)
        (label ++ (text ++ '|' :: more))

end

/-- A name that can stand in a slot as it is. -/
structure PlainName (name : List Char) : Prop where
  percent : '%' ∉ name
  slash : '/' ∉ name
  trimmed : Text.Trimmed name
  flag : ∀ c ∈ name.head?, isFlag c = false

instance (name : List Char) : Decidable (PlainName name) :=
  decidable_of_iff ('%' ∉ name ∧ '/' ∉ name ∧
      name.head?.all (fun c => !Text.isBlank c && !isFlag c) = true ∧
      name.getLast?.all (fun c => !Text.isBlank c) = true) <| by
    simp only [Option.all_eq_true, Bool.and_eq_true, Bool.not_eq_true']
    constructor
    · rintro ⟨hpercent, hslash, hfirst, hlast⟩
      exact ⟨hpercent, hslash, ⟨fun c hc => (hfirst c hc).1, hlast⟩, fun c hc => (hfirst c hc).2⟩
    · rintro ⟨hpercent, hslash, htrimmed, hflag⟩
      exact ⟨hpercent, hslash, fun c hc => ⟨htrimmed.first c hc, hflag c hc⟩, htrimmed.last⟩

/-- Names that can stand in a slot and tell the singular from the plural in any letter case. -/
structure Spellable (info : TypeInfo) : Prop where
  plain : ∀ plural, PlainName (info.form plural).toList
  distinct : Text.lowerString info.singular ≠ Text.lowerString info.plural

/-- A pattern whose slots ask for types that have names to stand there, and whose regular
expressions are those of texts that can stand between angle brackets. -/
structure Writable (types : TypeTable) (p : Pattern) : Prop where
  ne_nil : ∀ slot ∈ p.slots, slot.types ≠ []
  known : ∀ slot ∈ p.slots, ∀ code ∈ slot.types, ∃ info ∈ types.infos, info.code = code
  spellable : ∀ slot ∈ p.slots, ∀ info ∈ types.infos, info.code ∈ slot.types → Spellable info
  regexes : ∀ re ∈ p.regexes, ∃ body, isRegexBody body = true ∧
    Regex.compile? (wholeText body) = some re

/-! ### Every normal pattern can be written down -/

theorem digitsValue_eq (ds : List Char) : digitsValue ds = (Nat.ofDigitChars 10 ds 0 : Nat) := by
  have hfold : ∀ (start : Nat), ds.foldl (fun n c => 10 * n + ((c.toNat - '0'.toNat : Nat) : Int))
      (start : Int) = (Nat.ofDigitChars 10 ds start : Nat) := by
    induction ds with
    | nil => exact fun _ => rfl
    | cons d ds ih =>
      intro start
      rw [List.foldl_cons, Nat.ofDigitChars_cons, ← ih]
      push_cast
      rfl
  exact hfold 0

theorem exists_spellsMark (mark : Int32) : ∃ label, SpellsMark mark label := by
  have hne : Nat.toDigits 10 mark.toInt.natAbs ≠ [] := Nat.toDigits_ne_nil
  have hdigits : ∀ d ∈ Nat.toDigits 10 mark.toInt.natAbs, d.isDigit = true := fun d hd =>
    Nat.isDigit_of_mem_toDigits (by decide) (by decide) hd
  have hvalue : digitsValue (Nat.toDigits 10 mark.toInt.natAbs) = (mark.toInt.natAbs : Int) := by
    rw [digitsValue_eq, Nat.ofDigitChars_ten_toDigits]
  rcases Int.natAbs_eq mark.toInt with hsign | hsign
  · exact ⟨_, .plain hne hdigits (hvalue.trans hsign.symm)⟩
  · exact ⟨_, .negative hne hdigits ((congrArg Neg.neg hvalue).trans hsign.symm)⟩

/-- The flags of a slot in some order. -/
def flagsOf (slot : Slot) : List Char :=
  (if slot.nullable then ['-'] else []) ++ (if slot.literalOnly then ['*'] else []) ++
    if slot.greedy then ['+'] else []

theorem slotOf_flagsOf {slot : Slot} {names : List (TypeInfo × Bool)}
    (htypes : names.map (·.1.code) = slot.types) (hsingle : names.all (!·.2) = slot.single) :
    slotOf (flagsOf slot) names = slot := by
  obtain ⟨types, single, nullable, literalOnly, greedy⟩ := slot
  subst htypes hsingle
  cases nullable <;> cases literalOnly <;> cases greedy <;> rfl

theorem isFlag_of_mem_flagsOf {slot : Slot} : ∀ c ∈ flagsOf slot, isFlag c = true := by
  obtain ⟨types, single, nullable, literalOnly, greedy⟩ := slot
  cases nullable <;> cases literalOnly <;> cases greedy <;> simp [flagsOf, isFlag]

theorem exists_infos {types : TypeTable} {codes : List String}
    (hknown : ∀ code ∈ codes, ∃ info ∈ types.infos, info.code = code) :
    ∃ infos : List TypeInfo, (∀ info ∈ infos, info ∈ types.infos) ∧
      infos.map (·.code) = codes := by
  induction codes with
  | nil => exact ⟨[], nofun, rfl⟩
  | cons code codes ih =>
    obtain ⟨⟨info, hinfo, rfl⟩, hmore⟩ := List.forall_mem_cons.1 hknown
    obtain ⟨infos, hinfos, rfl⟩ := ih hmore
    exact ⟨info :: infos, List.forall_mem_cons.2 ⟨hinfo, hinfos⟩, rfl⟩

/-- A slot is written with singulars if it is to be a single one, and with plurals if not. -/
theorem exists_spellsSlot {types : TypeTable} {slot : Slot} (hne : slot.types ≠ [])
    (hknown : ∀ code ∈ slot.types, ∃ info ∈ types.infos, info.code = code) :
    ∃ body, SpellsSlot types slot body := by
  obtain ⟨infos, hinfos, hcodes⟩ := exists_infos hknown
  have hnonempty : infos ≠ [] := by
    rintro rfl
    exact hne hcodes.symm
  have hslot : slotOf (flagsOf slot) (infos.map fun info => (info, !slot.single)) = slot := by
    refine slotOf_flagsOf (by rwa [List.map_map]) ?_
    obtain ⟨info, infos, rfl⟩ := List.exists_cons_of_ne_nil hnonempty
    cases slot.single <;> simp
  rw [← hslot]
  exact ⟨_, .mk isFlag_of_mem_flagsOf (by simpa using hinfos)⟩

section Existence

variable {types : TypeTable} {p : Pattern}

mutual

theorem exists_spells (hnormal : p.Normal) (hwritable : Writable types p) (e : Element)
    (he : e.Normal) (hleaves : e.leaves ⊆ elementsLeaves p.elements) :
    ∃ text, Spells types p e text := by
  match e with
  | .literal cs => exact ⟨_, .literal⟩
  | .space => exact ⟨[' '], .space (List.cons_ne_nil _ _) (by simp [Text.isBlank])⟩
  | .group alternatives optional =>
    obtain ⟨hne, heach⟩ : alternatives ≠ [] ∧ ∀ a ∈ alternatives, a.Normal := by
      cases he with
      | group hne heach => exact ⟨hne, heach⟩
    cases optional with
    | false =>
      obtain ⟨text, h⟩ := exists_spellsAlternatives hnormal hwritable ')' alternatives hne heach hleaves
      exact ⟨_, .choice h⟩
    | true =>
      obtain ⟨text, h⟩ := exists_spellsAlternatives hnormal hwritable ']' alternatives hne heach hleaves
      exact ⟨_, .option h⟩
  | .slot i =>
    have hi : i ∈ p.slotIndices :=
      List.mem_filterMap.2 ⟨.slot i, hleaves (List.mem_singleton_self _), rfl⟩
    rw [hnormal.slots, List.mem_range] at hi
    have hmem := List.getElem_mem hi
    obtain ⟨body, h⟩ := exists_spellsSlot (hwritable.ne_nil _ hmem) (hwritable.known _ hmem)
    exact ⟨_, .slot (List.getElem?_eq_getElem hi) h⟩
  | .regex i =>
    have hi : i ∈ p.regexIndices :=
      List.mem_filterMap.2 ⟨.regex i, hleaves (List.mem_singleton_self _), rfl⟩
    rw [hnormal.regexes, List.mem_range] at hi
    obtain ⟨body, hbody, h⟩ := hwritable.regexes _ (List.getElem_mem hi)
    exact ⟨_, .regex (List.getElem?_eq_getElem hi) hbody h⟩

/-- **A normal pattern that is writable can be written down.** -/
theorem exists_spellsAll (hnormal : p.Normal) (hwritable : Writable types p)
    (elements : List Element) (heach : ∀ e ∈ elements, e.Normal)
    (hleaves : elementsLeaves elements ⊆ elementsLeaves p.elements) :
    ∃ text, SpellsAll types p elements text := by
  match elements with
  | [] => exact ⟨_, .nil⟩
  | e :: rest =>
    obtain ⟨he, hrest⟩ := List.forall_mem_cons.1 heach
    rw [elementsLeaves, List.append_subset] at hleaves
    obtain ⟨text, h⟩ := exists_spells hnormal hwritable e he hleaves.1
    obtain ⟨more, hmore⟩ := exists_spellsAll hnormal hwritable rest hrest hleaves.2
    exact ⟨_, .cons h hmore⟩

theorem exists_spellsAlternatives (hnormal : p.Normal) (hwritable : Writable types p)
    (close : Char) (alternatives : List Alternative) (hne : alternatives ≠ [])
    (heach : ∀ a ∈ alternatives, a.Normal)
    (hleaves : alternativesLeaves alternatives ⊆ elementsLeaves p.elements) :
    ∃ text, SpellsAlternatives types p close alternatives text := by
  match alternatives with
  | [] => exact absurd rfl hne
  | .mk mark elements :: rest =>
    obtain ⟨hfirst, hrest⟩ := List.forall_mem_cons.1 heach
    have helements : ∀ e ∈ elements, e.Normal := by
      cases hfirst with
      | mk _ helements => exact helements
    rw [alternativesLeaves, List.append_subset] at hleaves
    obtain ⟨label, hmark⟩ := exists_spellsMark mark
    obtain ⟨text, h⟩ := exists_spellsAll hnormal hwritable elements helements hleaves.1
    by_cases hlast : rest = []
    · subst hlast
      exact ⟨_, .last hmark h⟩
    · obtain ⟨more, hmore⟩ := exists_spellsAlternatives hnormal hwritable close rest hlast hrest hleaves.2
      exact ⟨_, .more hmark h hmore⟩

end

end Existence

/-! ### A slot is read back -/

theorem isFlag_eq_true_iff {c : Char} :
    isFlag c = true ↔ c = '-' ∨ c = '*' ∨ c = '+' ∨ c = '~' := by
  simp [isFlag, or_assoc]

theorem slotFlags_of_not_flag {slot : Slot} {names : List Char}
    (h : ∀ c ∈ names.head?, isFlag c = false) : slotFlags slot names = (slot, names) := by
  unfold slotFlags
  split
  · exact absurd (h _ rfl) (by decide)
  · exact absurd (h _ rfl) (by decide)
  · exact absurd (h _ rfl) (by decide)
  · exact absurd (h _ rfl) (by decide)
  · rfl

/-- Flags are taken off the front of a text. -/
theorem slotFlags_append {slot : Slot} {flags names : List Char}
    (hflags : ∀ c ∈ flags, isFlag c = true) (hnames : ∀ c ∈ names.head?, isFlag c = false) :
    slotFlags slot (flags ++ names) =
      ({ slot with
          nullable := slot.nullable || flags.contains '-',
          literalOnly := slot.literalOnly || flags.contains '*',
          greedy := slot.greedy || flags.contains '+' }, names) := by
  induction flags generalizing slot with
  | nil => simp [slotFlags_of_not_flag hnames]
  | cons c flags ih =>
    obtain ⟨hc, hmore⟩ := List.forall_mem_cons.1 hflags
    rcases isFlag_eq_true_iff.1 hc with rfl | rfl | rfl | rfl <;>
      simp [slotFlags, ih hmore]

theorem pieces_of_not_mem {mark : Char} {cs : List Char} (h : mark ∉ cs) :
    Text.pieces mark cs = [cs] := by
  induction cs with
  | nil => rfl
  | cons c cs ih =>
    rw [List.mem_cons, not_or] at h
    simp [Text.pieces, ih h.2, Ne.symm h.1]

theorem pieces_append_cons {mark : Char} {first rest : List Char} (h : mark ∉ first) :
    Text.pieces mark (first ++ mark :: rest) = first :: Text.pieces mark rest := by
  induction first with
  | nil => simp [Text.pieces]
  | cons c first ih =>
    rw [List.mem_cons, not_or] at h
    simp [Text.pieces, ih h.2, Ne.symm h.1]

/-- Cutting at a mark undoes joining with it. -/
theorem pieces_intercalate {mark : Char} {parts : List (List Char)} (hne : parts ≠ [])
    (h : ∀ part ∈ parts, mark ∉ part) : Text.pieces mark ([mark].intercalate parts) = parts := by
  induction parts with
  | nil => exact absurd rfl hne
  | cons part parts ih =>
    obtain ⟨hpart, hparts⟩ := List.forall_mem_cons.1 h
    by_cases hlast : parts = []
    · subst hlast
      rw [List.intercalate_singleton, pieces_of_not_mem hpart]
    · rw [List.intercalate_cons_of_ne_nil hlast, List.append_assoc, List.singleton_append,
        pieces_append_cons hpart, ih hlast hparts]

theorem eq_or_mem_of_mem_intercalate {mark c : Char} {parts : List (List Char)}
    (h : c ∈ [mark].intercalate parts) : c = mark ∨ ∃ part ∈ parts, c ∈ part := by
  induction parts with
  | nil => cases h
  | cons part parts ih =>
    by_cases hlast : parts = []
    · subst hlast
      rw [List.intercalate_singleton] at h
      exact .inr ⟨part, List.mem_singleton_self _, h⟩
    · rw [List.intercalate_cons_of_ne_nil hlast, List.mem_append, List.mem_append] at h
      rcases h with (h | h) | h
      · exact .inr ⟨part, List.mem_cons_self, h⟩
      · exact .inl (List.mem_singleton.1 h)
      · exact (ih h).imp_right fun ⟨part, hpart, hc⟩ => ⟨part, List.mem_cons_of_mem _ hpart, hc⟩

/-- The names of a slot begin like the first of them, or with a slash. -/
theorem head?_namesText {names : List (TypeInfo × Bool)}
    (h : ∀ name ∈ names, Spellable name.1) :
    ∀ c ∈ (namesText names).head?, isFlag c = false := by
  intro c hc
  cases names with
  | nil => cases hc
  | cons name names =>
    have hfirst := ((h name List.mem_cons_self).plain name.2).flag
    rw [namesText, List.map_cons] at hc
    by_cases hlast : names.map (fun name => (name.1.form name.2).toList) = []
    · rw [hlast, List.intercalate_singleton] at hc
      exact hfirst c hc
    · rw [List.intercalate_cons_of_ne_nil hlast, List.append_assoc, List.head?_append] at hc
      cases hhead : (name.1.form name.2).toList.head? with
      | none =>
        rw [hhead] at hc
        cases hc
        decide
      | some d =>
        rw [hhead] at hc
        cases hc
        exact hfirst _ hhead

/-- Each name leads back to its type. -/
theorem slotTypes_eq {types : TypeTable} (hregistered : types.Registered) {slot : Slot}
    {names : List (TypeInfo × Bool)} (hnames : ∀ name ∈ names, name.1 ∈ types.infos)
    (hspellable : ∀ name ∈ names, Spellable name.1) :
    slotTypes types slot (names.map fun name => name.1.form name.2) =
      .ok { slot with
        types := slot.types ++ names.map (·.1.code),
        single := slot.single && names.all (!·.2) } := by
  induction names generalizing slot with
  | nil => simp [slotTypes]
  | cons name names ih =>
    obtain ⟨hname, hmore⟩ := List.forall_mem_cons.1 hnames
    obtain ⟨hfirst, hothers⟩ := List.forall_mem_cons.1 hspellable
    rw [List.map_cons, slotTypes,
      hregistered.lookup?_form hname (hfirst.plain name.2).trimmed fun _ => hfirst.distinct]
    simp only [ih hmore hothers]
    simp [Bool.and_assoc]

/-- **What stands between percent signs for a slot is read as this slot.** -/
theorem readSlot_of_spells {types : TypeTable} (hregistered : types.Registered) {slot : Slot}
    {body : List Char} (h : SpellsSlot types slot body) (hne : slot.types ≠ [])
    (hspellable : ∀ info ∈ types.infos, info.code ∈ slot.types → Spellable info) :
    readSlot types body = .ok slot := by
  obtain ⟨hflags, hnames⟩ := h
  rename_i flags names
  have hnonempty : names ≠ [] := by
    rintro rfl
    exact hne rfl
  have heach : ∀ name ∈ names, Spellable name.1 := fun name hname =>
    hspellable name.1 (hnames name hname) (List.mem_map_of_mem hname)
  have hpieces : Text.pieces '/' (namesText names) =
      names.map fun name => (name.1.form name.2).toList := by
    refine pieces_intercalate (by simpa using hnonempty) fun part hpart => ?_
    obtain ⟨name, hname, rfl⟩ := List.mem_map.1 hpart
    exact ((heach name hname).plain name.2).slash
  rw [readSlot, slotFlags_append hflags (head?_namesText heach)]
  simp only [hpieces, List.map_map]
  have hforms : (String.ofList ∘ fun name : TypeInfo × Bool => (name.1.form name.2).toList) =
      fun name => name.1.form name.2 := funext fun name => String.ofList_toList
  rw [hforms, slotTypes_eq hregistered hnames heach]
  simp [slotOf, Slot.one, Slot.many]

theorem not_mem_of_spellsSlot {types : TypeTable} {slot : Slot} {body : List Char}
    (h : SpellsSlot types slot body)
    (hspellable : ∀ info ∈ types.infos, info.code ∈ slot.types → Spellable info) :
    '%' ∉ body := by
  obtain ⟨hflags, hnames⟩ := h
  rename_i flags names
  rw [List.mem_append, not_or]
  constructor
  · intro hmem
    exact absurd (hflags _ hmem) (by decide)
  · intro hmem
    rcases eq_or_mem_of_mem_intercalate hmem with h | ⟨part, hpart, hc⟩
    · exact absurd h (by decide)
    · obtain ⟨name, hname, rfl⟩ := List.mem_map.1 hpart
      have hname' := hspellable name.1 (hnames name hname) (List.mem_map_of_mem hname)
      exact (hname'.plain name.2).percent hc

/-! ### The tokens of what was written down -/

/-- The tokens behind an opening character or a bar: an alternative begins here. -/
def labelled (place : Nat) (cs : List Char) : List Token :=
  (readMark place cs).1 ++
    tokensFrom (place + (readMark place cs).2) (cs.drop (readMark place cs).2)

theorem tokensFrom_escaped (place : Nat) (cs tail : List Char) :
    tokensFrom place (escaped cs ++ tail) =
      cs.map .char ++ tokensFrom (place + 2 * cs.length) tail := by
  induction cs generalizing place with
  | nil => rfl
  | cons c cs ih =>
    have hfirst : escaped (c :: cs) ++ tail = '\\' :: c :: (escaped cs ++ tail) := rfl
    rw [hfirst, tokensFrom.eq_def]
    simp only [Char.reduceBEq, Bool.or_self, Bool.false_eq_true, if_false, if_true]
    rw [ih, List.map_cons, List.cons_append, List.length_cons]
    congr 3
    omega

/-- Characters with a meaning of their own in sources. -/
theorem ne_of_isBlank {c : Char} (h : Text.isBlank c = true) :
    c ≠ ']' ∧ c ≠ ')' ∧ c ≠ '|' ∧ c ≠ '[' ∧ c ≠ '(' ∧ c ≠ '%' ∧ c ≠ '<' ∧ c ≠ '\\' := by
  refine ⟨?_, ?_, ?_, ?_, ?_, ?_, ?_, ?_⟩ <;> (rintro rfl; exact absurd h (by decide))

theorem tokensFrom_blanks (place : Nat) {blanks : List Char}
    (h : ∀ c ∈ blanks, Text.isBlank c = true) (tail : List Char) :
    tokensFrom place (blanks ++ tail) =
      List.replicate blanks.length .blank ++ tokensFrom (place + blanks.length) tail := by
  induction blanks generalizing place with
  | nil => rfl
  | cons c blanks ih =>
    obtain ⟨hc, hmore⟩ := List.forall_mem_cons.1 h
    obtain ⟨h1, h2, h3, h4, h5, h6, h7, h8⟩ := ne_of_isBlank hc
    rw [List.cons_append, tokensFrom.eq_def]
    simp only [beq_iff_eq, Bool.or_eq_true, h1, h2, h3, h4, h5, h6, h7, h8, hc, or_self, if_false,
      if_true]
    rw [ih _ hmore, List.length_cons, List.replicate_succ, List.cons_append, Nat.add_assoc,
      Nat.add_comm 1]

theorem tokensFrom_close {c : Char} (hc : c = ')' ∨ c = ']') (place : Nat) (tail : List Char) :
    tokensFrom place (c :: tail) = .delimiter c place :: tokensFrom (place + 1) tail := by
  rw [tokensFrom.eq_def]
  rcases hc with rfl | rfl <;> simp

theorem tokensFrom_bar (place : Nat) (tail : List Char) :
    tokensFrom place ('|' :: tail) = .delimiter '|' place :: labelled (place + 1) tail := by
  rw [tokensFrom.eq_def]
  simp [labelled]

theorem tokensFrom_opening {c : Char} (hc : c = '(' ∨ c = '[') (place : Nat) (tail : List Char) :
    tokensFrom place (c :: tail) = .opening c :: labelled (place + 1) tail := by
  rw [tokensFrom.eq_def]
  rcases hc with rfl | rfl <;> simp [labelled]

theorem tokensFrom_slot {body : List Char} (h : '%' ∉ body) (place : Nat) (tail : List Char) :
    tokensFrom place ('%' :: body ++ ['%'] ++ tail) =
      .slot body (place + body.length + 2) :: tokensFrom (place + body.length + 2) tail := by
  have htake : (body ++ '%' :: tail).takeWhile (· != '%') = body := by
    rw [List.takeWhile_append_of_pos fun c hc => by simpa using ne_of_mem_of_not_mem hc h]
    simp
  have hshape : '%' :: body ++ ['%'] ++ tail = '%' :: (body ++ '%' :: tail) := by simp
  rw [hshape, tokensFrom.eq_def]
  simp [htake]

theorem regexBody?_append {body : List Char} (h : isRegexBody body = true) (tail : List Char) :
    regexBody? (body ++ '>' :: tail) = some body := by
  fun_induction isRegexBody body with
  | case1 => rfl
  | case2 => cases h
  | case3 => cases h
  | case4 c rest ih => simp [regexBody?, ih h]
  | case5 c rest hclose hlast hescape ih =>
    have hne : c ≠ '\\' := by
      rintro rfl
      cases rest with
      | nil => exact hlast rfl rfl
      | cons d rest => exact hescape d rest rfl rfl
    simp [regexBody?, hne, ih h]

theorem tokensFrom_regex {body : List Char} (h : isRegexBody body = true) (place : Nat)
    (tail : List Char) :
    tokensFrom place ('<' :: body ++ ['>'] ++ tail) =
      .regex body (place + body.length + 2) :: tokensFrom (place + body.length + 2) tail := by
  have hshape : '<' :: body ++ ['>'] ++ tail = '<' :: (body ++ '>' :: tail) := by simp
  rw [hshape, tokensFrom.eq_def]
  simp [regexBody?_append h]

/-! ### Marks -/

/-- A text that does not begin like a number. -/
def Unmarked (cs : List Char) : Prop :=
  ∀ c ∈ cs.head?, c ≠ '-' ∧ c.isDigit = false

theorem readMark_of_unmarked {cs : List Char} (h : Unmarked cs) (place : Nat) :
    readMark place cs = ([], 0) := by
  cases cs with
  | nil => rfl
  | cons c cs =>
    obtain ⟨hsign, hdigit⟩ := h c rfl
    simp [readMark, hsign, hdigit]

theorem takeWhile_isDigit_append {digits : List Char} (hdigits : ∀ d ∈ digits, d.isDigit = true)
    (rest : List Char) : (digits ++ '¦' :: rest).takeWhile Char.isDigit = digits := by
  rw [List.takeWhile_append_of_pos hdigits, List.takeWhile_cons_of_neg (by decide),
    List.append_nil]

theorem not_lt_toInt (mark : Int32) :
    ¬ (mark.toInt < -2147483648 ∨ 2147483647 < mark.toInt) := by
  have hlow := mark.le_toInt
  have hhigh := mark.toInt_lt
  omega

theorem readMark_plain {mark : Int32} {digits : List Char} (hne : digits ≠ [])
    (hdigits : ∀ d ∈ digits, d.isDigit = true) (hvalue : digitsValue digits = mark.toInt)
    (place : Nat) (rest : List Char) :
    readMark place (digits ++ '¦' :: rest) = ([.mark mark], digits.length + 1) := by
  obtain ⟨d, more, rfl⟩ := List.exists_cons_of_ne_nil hne
  have hsign : d ≠ '-' := by
    rintro rfl
    exact absurd (hdigits _ List.mem_cons_self) (by decide)
  have htake := takeWhile_isDigit_append hdigits rest
  rw [List.cons_append] at htake ⊢
  simp [readMark, hsign, htake, hvalue, not_lt_toInt]

theorem readMark_negative {mark : Int32} {digits : List Char} (hne : digits ≠ [])
    (hdigits : ∀ d ∈ digits, d.isDigit = true) (hvalue : -digitsValue digits = mark.toInt)
    (place : Nat) (rest : List Char) :
    readMark place ('-' :: (digits ++ '¦' :: rest)) = ([.mark mark], digits.length + 2) := by
  have hempty : digits.isEmpty = false := by simpa using hne
  have hdrop : ('-' :: (digits ++ '¦' :: rest)).drop (1 + digits.length) = '¦' :: rest := by
    rw [Nat.add_comm, List.drop_succ_cons, List.drop_left]
  simp only [readMark, List.drop_one, List.tail_cons, takeWhile_isDigit_append hdigits, hdrop]
  simp [hempty, hvalue, not_lt_toInt]
  omega

/-- The label of an alternative gives its mark, and nothing if it is left out. -/
theorem labelled_of_spells {mark : Int32} {label rest : List Char} (h : SpellsMark mark label)
    (hrest : Unmarked rest) (place : Nat) : ∃ tokens place',
    labelled place (label ++ rest) = tokens ++ tokensFrom place' rest ∧
      (tokens = [.mark mark] ∨ tokens = [] ∧ mark = 0) := by
  cases h with
  | omitted =>
    refine ⟨[], place, ?_, .inr ⟨rfl, rfl⟩⟩
    simp [labelled, readMark_of_unmarked hrest]
  | plain hne hdigits hvalue =>
    rename_i digits
    refine ⟨_, place + (digits.length + 1), ?_, .inl rfl⟩
    rw [List.append_assoc, List.singleton_append, labelled,
      readMark_plain hne hdigits hvalue]
    simp
  | negative hne hdigits hvalue =>
    rename_i digits
    refine ⟨_, place + (digits.length + 2), ?_, .inl rfl⟩
    rw [List.append_assoc, List.singleton_append, List.cons_append, labelled,
      readMark_negative hne hdigits hvalue]
    simp

theorem unmarked_cons {c : Char} (hsign : c ≠ '-') (hdigit : c.isDigit = false)
    (rest : List Char) : Unmarked (c :: rest) := by
  intro d hd
  cases hd
  exact ⟨hsign, hdigit⟩

section Unmarked

variable {types : TypeTable} {p : Pattern} {rest : List Char}

/-- No part begins like a number. -/
theorem Spells.unmarked {e : Element} {text : List Char} (h : Spells types p e text)
    (hrest : Unmarked rest) : Unmarked (text ++ rest) := by
  cases h with
  | literal =>
    rename_i cs
    cases cs with
    | nil => exact hrest
    | cons c cs => exact unmarked_cons (by decide) (by decide) _
  | space hne hblank =>
    obtain ⟨c, blanks, rfl⟩ := List.exists_cons_of_ne_nil hne
    have hc := hblank c List.mem_cons_self
    refine unmarked_cons ?_ ?_ _
    · rintro rfl
      exact absurd hc (by decide)
    · rw [Bool.eq_false_iff]
      intro hdigit
      have hcode : c.val.toNat = c.toNat := rfl
      simp [Char.isDigit, UInt32.le_iff_toNat_le] at hdigit
      simp only [Text.isBlank, Bool.or_eq_true, Bool.and_eq_true, decide_eq_true_eq,
        beq_iff_eq] at hc
      omega
  | choice _ => exact unmarked_cons (by decide) (by decide) _
  | option _ => exact unmarked_cons (by decide) (by decide) _
  | slot _ _ => exact unmarked_cons (by decide) (by decide) _
  | regex _ _ _ => exact unmarked_cons (by decide) (by decide) _

theorem SpellsAll.unmarked {elements : List Element} {text : List Char}
    (h : SpellsAll types p elements text) (hrest : Unmarked rest) : Unmarked (text ++ rest) := by
  induction elements generalizing text with
  | nil =>
    cases h
    exact hrest
  | cons e elements ih =>
    cases h with
    | cons h hmore =>
      rw [List.append_assoc]
      exact h.unmarked (ih hmore)

end Unmarked

end Pattern

end TriggerScript
