import TriggerScript.Proofs.Vocabulary.Patterns
import TriggerScript.Proofs.Vocabulary.Template
import TriggerScript.Proofs.Text.Parts

/-!
# Names and literals of the built-in types

* `forall_isLower_of_lookup?` : the names of types are made of letters.
* `readLiteral?_builtIn` : which literals the types have.
* `acceptance?_text`, `acceptance?_number` : which slots take texts and numbers.
-/

namespace TriggerScript.Vocabulary

open Text

variable {text : String} {cs : List Char} {c : Char}

/-! ### Names -/

/-- The names of types are made of letters, in any letter case and with blanks around them. -/
theorem forall_isLower_of_lookup? {info : TypeInfo} {plural : Bool}
    (h : builtInTypes.lookup? text = some (info, plural)) :
    ∀ c ∈ lower (trim text.toList), c.isLower = true := by
  have hnames : ∀ info ∈ builtInTypes.infos,
      (lowerString info.singular).toList.all Char.isLower = true ∧
        (lowerString info.plural).toList.all Char.isLower = true := by
    decide +kernel
  have hword : (lowerString (trimString text)).toList = lower (trim text.toList) := by
    rw [lowerString, trimString, String.toList_ofList, String.toList_ofList]
  obtain ⟨found, hfound, h⟩ := List.exists_of_findSome?_eq_some h
  obtain ⟨hsingular, hplural⟩ := hnames found hfound
  obtain ⟨_, hanswer, -⟩ := Option.map_eq_some_iff.1 h
  rw [TypeInfo.answersTo?] at hanswer
  rw [← hword]
  split at hanswer
  · next heq => exact beq_iff_eq.1 heq ▸ List.all_eq_true.1 hsingular
  · split at hanswer
    · next heq => exact beq_iff_eq.1 heq ▸ List.all_eq_true.1 hplural
    · cases hanswer

/-- The names of types are not blank. -/
theorem exists_not_isBlank_of_lookup? {info : TypeInfo} {plural : Bool}
    (h : builtInTypes.lookup? text = some (info, plural)) :
    ∃ c ∈ text.toList, isBlank c = false := by
  cases htrim : trim text.toList with
  | nil =>
    have hnone : builtInTypes.byName? (String.ofList (lower [])) = none := by decide +kernel
    rw [TypeTable.lookup?, lowerString, trimString, String.toList_ofList, htrim, hnone] at h
    cases h
  | cons c rest =>
    exact ⟨c, mem_of_mem_trim (htrim ▸ List.mem_cons_self),
      (trimmed_trim text.toList).first c (by rw [htrim]; rfl)⟩

/-- The words for truth values are made of letters. -/
theorem forall_isLower_of_readBoolean? {v : Value} (h : readBoolean? text = some v) :
    ∀ c ∈ lower (trim text.toList), c.isLower = true := by
  have hwords : ∀ word ∈ ["true", "yes", "on", "false", "no", "off"],
      word.toList.all Char.isLower = true := by
    decide
  have hword : (lowerString (trimString text)).toList = lower (trim text.toList) := by
    rw [lowerString, trimString, String.toList_ofList, String.toList_ofList]
  rw [← hword]
  rw [readBoolean?] at h
  generalize lowerString (trimString text) = word at h
  refine List.all_eq_true.1 (hwords word ?_)
  split at h
  · next hyes =>
    exact List.mem_of_mem_take (i := 3) (List.contains_iff_mem.1 hyes)
  · split at h
    · next hno => exact List.mem_of_mem_drop (i := 3) (List.contains_iff_mem.1 hno)
    · cases h

/-- A text in which letters only are found, once it is trimmed and lowered, has no other characters
that have no case. -/
theorem not_mem_of_forall_isLower (h : ∀ c ∈ lower (trim cs), c.isLower = true)
    (hsmall : c.toNat < 128) (hlower : c.toLower = c) (hblank : isBlank c = false)
    (hc : c.isLower = false) : c ∉ cs := by
  intro hmem
  have := h c (mem_lowerAfter_of_settled (mem_trim_of_not_isBlank hmem hblank)
    (settled_of_basic hsmall hlower))
  rw [hc] at this
  cases this

/-- Braces and percent signs are neither trimmed nor lowered. -/
theorem marks_of_lower (h : marks (lower (trim cs)) = []) : marks cs = [] := by
  refine marks_eq_nil fun c hc => ?_
  rw [Bool.eq_false_iff]
  intro hmark
  have hbasic : c.toNat < 128 ∧ c.toLower = c ∧ isBlank c = false := by
    simp only [isMark, Bool.or_eq_true, beq_iff_eq] at hmark
    rcases hmark with (rfl | rfl) | rfl <;> decide
  have hmem : c ∈ marks (lower (trim cs)) := List.mem_filter.2
    ⟨mem_lowerAfter_of_settled (mem_trim_of_not_isBlank hc hbasic.2.2)
      (settled_of_basic hbasic.1 hbasic.2.1), hmark⟩
  rw [h] at hmem
  cases hmem

theorem marks_of_isLower (h : ∀ c ∈ cs, c.isLower = true) : marks cs = [] := by
  refine marks_eq_nil fun c hc => ?_
  rw [Bool.eq_false_iff]
  intro hmark
  have hletter := h c hc
  simp only [isMark, Bool.or_eq_true, beq_iff_eq] at hmark
  rcases hmark with (rfl | rfl) | rfl <;> cases hletter

theorem marks_of_forall_isLower (h : ∀ c ∈ lower (trim cs), c.isLower = true) : marks cs = [] :=
  marks_of_lower (marks_of_isLower h)

/-! ### Literals -/

theorem read?_builtIn (text : String) :
    objects.read? text = none ∧ booleans.read? text = readBoolean? text ∧
      numbers.read? text = readNumber? text ∧ texts.read? text = none := by
  simp [objects, booleans, numbers, texts, TypeInfo.named, TypeInfo.read?]

theorem mem_of_get? {code : String} {info : TypeInfo} (hget : builtInTypes.get? code = some info) :
    info ∈ builtInTypes.infos ∧ info.code = code :=
  ⟨List.mem_of_find?_eq_some hget, by simpa using List.find?_some hget⟩

/-- The code names of types are their names in the singular. -/
theorem lookup?_of_get? {code : String} {info : TypeInfo} (hget : builtInTypes.get? code = some info) :
    (builtInTypes.lookup? code).map (·.1.code) = some code ∧ code.toList ≠ [] ∧
      ∀ c ∈ code.toList, c.isLower = true := by
  have hcodes : ∀ info ∈ builtInTypes.infos,
      (builtInTypes.lookup? info.code).map (·.1.code) = some info.code ∧
        info.code.toList.isEmpty = false ∧ info.code.toList.all Char.isLower = true := by
    decide +kernel
  obtain ⟨hmem, rfl⟩ := mem_of_get? hget
  obtain ⟨hlookup, hne, hletters⟩ := hcodes info hmem
  exact ⟨hlookup, List.isEmpty_eq_false_iff.1 hne, List.all_eq_true.1 hletters⟩

/-- No type but the most general one has literals of others. -/
theorem readLiteral?_of_get? {code : String} {info : TypeInfo}
    (hget : builtInTypes.get? code = some info) (hcode : code ≠ objectType) (text : String) :
    builtInTypes.readLiteral? code text = info.read? text := by
  have hothers : ∀ info ∈ builtInTypes.infos, info.code ≠ objectType →
      ∀ sub ∈ builtInTypes.infos,
        (sub.code != info.code && builtInTypes.isAssignable sub.code info.code) = false := by
    decide +kernel
  obtain ⟨hmem, rfl⟩ := mem_of_get? hget
  rw [TypeTable.readLiteral?, if_neg (by simpa using hcode), hget, Option.bind_some,
    List.findSome?_eq_none_iff.2, Option.or_none]
  intro sub hsub
  rw [hothers info hmem hcode sub hsub]
  rfl

/-- The literals of each type; the most general type has them all. -/
theorem readLiteral?_builtIn (code text : String) : builtInTypes.readLiteral? code text =
    if code = objectType then (readBoolean? text).or (readNumber? text)
    else if code = booleanType then readBoolean? text
    else if code = numberType then readNumber? text
    else none := by
  have hfirst (infos : List TypeInfo) (f : TypeInfo → Option Value) (info : TypeInfo) :
      (info :: infos).findSome? f = (f info).or (infos.findSome? f) := by
    rw [List.findSome?_cons]
    cases f info <;> rfl
  obtain ⟨hobjects, hbooleans, hnumbers, htexts⟩ := read?_builtIn text
  by_cases hobject : code = objectType
  · subst hobject
    rw [if_pos rfl, TypeTable.readLiteral?, if_pos (by decide), builtInTypes]
    simp only [hfirst, hobjects, hbooleans, hnumbers, htexts, List.findSome?_nil, Option.or_none,
      Option.none_or]
  rw [if_neg hobject]
  cases hget : builtInTypes.get? code with
  | none =>
    have hne : code ≠ booleanType ∧ code ≠ numberType := by
      constructor <;> rintro rfl <;> cases hget
    rw [if_neg hne.1, if_neg hne.2, TypeTable.readLiteral?, if_neg (by simpa using hobject), hget]
    rfl
  | some info =>
    rw [readLiteral?_of_get? hget hobject]
    obtain ⟨hmem, rfl⟩ := mem_of_get? hget
    simp only [builtInTypes, List.mem_cons, List.not_mem_nil, or_false] at hmem
    rcases hmem with rfl | rfl | rfl | rfl
    · exact absurd rfl hobject
    · rw [hbooleans, if_pos (show booleans.code = booleanType from rfl)]
    · rw [hnumbers, if_neg (by decide), if_pos (show numbers.code = numberType from rfl)]
    · rw [htexts, if_neg (by decide), if_neg (by decide)]

/-! ### Slots -/

/-- Only objects take values of other types. -/
theorem isAssignable_builtIn_iff {sub sup : String} :
    builtInTypes.isAssignable sub sup = true ↔ sup = objectType ∨ sub = sup := by
  have hknown : ∀ info ∈ builtInTypes.infos, ∀ above ∈ builtInTypes.supertypes info.code,
      above = objectType ∨ above = info.code := by
    decide +kernel
  rw [TypeTable.isAssignable, Bool.or_eq_true, beq_iff_eq, List.contains_iff_mem]
  constructor
  · rintro (h | h)
    · exact .inl h
    cases hget : builtInTypes.get? sub with
    | none =>
      rw [TypeTable.supertypes, TypeTable.climb, hget] at h
      exact .inr (by simpa [eq_comm] using h)
    | some info =>
      obtain ⟨hmem, rfl⟩ := mem_of_get? hget
      exact (hknown info hmem sup h).imp_right Eq.symm
  · rintro (h | rfl)
    · exact .inl h
    · rw [TypeTable.supertypes, TypeTable.climb]
      exact .inr List.mem_cons_self

/-- Numbers and truth values can be converted to texts, and nothing else. -/
theorem isSome_find?_builtIn_iff {source target : String} :
    (builtInConversions.find? builtInTypes source target).isSome = true ↔
      (source = numberType ∨ source = booleanType) ∧ (target = textType ∨ target = objectType) := by
  rw [Conversions.find?, Option.isSome_or, Bool.or_eq_true, List.find?_isSome, List.find?_isSome]
  simp only [builtInConversions, List.mem_cons, List.not_mem_nil, or_false, exists_eq_or_imp,
    exists_eq_left, Conversion.connects, Bool.and_eq_true, beq_iff_eq, isAssignable_builtIn_iff]
  have hne : numberType ≠ objectType ∧ booleanType ≠ objectType := by decide
  simp only [hne, false_or]
  constructor
  · rintro ((⟨rfl, rfl⟩ | ⟨rfl, rfl⟩) | (⟨rfl, h⟩ | ⟨rfl, h⟩)) <;> simp_all [eq_comm]
    all_goals tauto
  · rintro ⟨rfl | rfl, rfl | rfl⟩ <;> simp

/-- The built-in types and conversions. -/
structure KnowsTypes (system : TypeSystem) : Prop where
  types : system.types = builtInTypes
  conversions : system.conversions = builtInConversions

namespace KnowsTypes

variable {system : TypeSystem} {required : List String} {produced : String} {a : Acceptance}

/-- What is taken as it is, and what has to be converted. -/
theorem acceptance?_cases (h : KnowsTypes system)
    (haccepts : system.acceptance? produced required = some a) :
    a = .direct ∧ (produced ∈ required ∨ objectType ∈ required) ∨
      produced ≠ objectType ∧ a = .convert textType ∧
        (produced = numberType ∨ produced = booleanType) ∧
        textType ∈ required ∧ produced ∉ required ∧ objectType ∉ required ∨
      produced = objectType ∧ ∃ target ∈ required, a = .convert target := by
  unfold TypeSystem.acceptance? at haccepts
  rw [h.types, h.conversions] at haccepts
  split at haccepts
  · next hdirect =>
    obtain ⟨type, htype, hassignable⟩ := List.any_eq_true.1 hdirect
    refine .inl ⟨(Option.some.inj haccepts).symm, ?_⟩
    rcases isAssignable_builtIn_iff.1 hassignable with rfl | rfl
    · exact .inr htype
    · exact .inl htype
  · next hnot =>
    have hproduced : produced ∉ required := fun hmem =>
      hnot (List.any_eq_true.2 ⟨_, hmem, isAssignable_builtIn_iff.2 (.inr rfl)⟩)
    have hobject : objectType ∉ required := fun hmem =>
      hnot (List.any_eq_true.2 ⟨_, hmem, isAssignable_builtIn_iff.2 (.inl rfl)⟩)
    split at haccepts
    · next target htarget =>
      have hmem := List.mem_of_find?_eq_some htarget
      have hfind := List.find?_some htarget
      obtain ⟨hsource, rfl | rfl⟩ := isSome_find?_builtIn_iff.1 hfind
      · refine .inr (.inl ⟨?_, (Option.some.inj haccepts).symm, hsource, hmem, hproduced, hobject⟩)
        rcases hsource with rfl | rfl <;> decide
      · exact absurd hmem hobject
    · obtain ⟨target, htarget, rfl⟩ := Option.map_eq_some_iff.1 haccepts
      have hmem := List.mem_of_find?_eq_some htarget
      have hassignable := List.find?_some htarget
      rcases isAssignable_builtIn_iff.1 hassignable with rfl | rfl
      · exact .inr (.inr ⟨rfl, target, hmem, rfl⟩)
      · exact absurd hmem hproduced

/-- Texts are only taken as they are. -/
theorem eq_direct_of_text (h : KnowsTypes system)
    (haccepts : system.acceptance? textType required = some a) : a = .direct := by
  rcases h.acceptance?_cases haccepts with ⟨rfl, -⟩ | ⟨-, -, h, -⟩ | ⟨h, -⟩
  · rfl
  · exact absurd h (by decide)
  · exact absurd h (by decide)

/-- Numbers are taken as they are or converted to texts, where texts are taken. -/
theorem cases_of_number (h : KnowsTypes system)
    (haccepts : system.acceptance? numberType required = some a) :
    a = .direct ∨ a = .convert textType ∧ textType ∈ required := by
  rcases h.acceptance?_cases haccepts with ⟨rfl, -⟩ | ⟨-, rfl, -, hmem, -⟩ | ⟨h, -⟩
  · exact .inl rfl
  · exact .inr ⟨rfl, hmem⟩
  · exact absurd h (by decide)

theorem convert_number (h : KnowsTypes system) (x : Number) :
    system.convert (.number x) textType = some (.text (Decimal.numberText x)) := by
  rw [TypeSystem.convert, h.types, h.conversions]
  rfl

end KnowsTypes

end TriggerScript.Vocabulary
