import TriggerScript.Pattern.Matching
import Mathlib.Data.List.Basic
import Mathlib.Data.List.Forall2
import Mathlib.Data.List.TakeWhile

/-!
# What the parts of a pattern take

A cursor moves over a text. Each kind of part takes texts that can be told without a cursor.

* `Cursor.advance` : the place behind a text.
* `scan`, `Admissible` : the texts that a slot may take.
* `afterLiteral?_eq_some_iff`, `afterSpace?_eq_some_iff` : what literals and blanks take.
* `slotEnds_eq_map` : the places where a slot may end, by the texts up to there.
-/

namespace TriggerScript

/-- The number of bytes of a text. -/
def byteSize : List Char → Nat
  | [] => 0
  | c :: rest => c.utf8Size + byteSize rest

theorem byteSize_append (xs ys : List Char) : byteSize (xs ++ ys) = byteSize xs + byteSize ys := by
  induction xs with
  | nil => rw [List.nil_append, byteSize, Nat.zero_add]
  | cons x xs ih => rw [List.cons_append, byteSize, byteSize, ih, Nat.add_assoc]

namespace Cursor

/-- The place behind a text that stands here. -/
def advance (cur : Cursor) (text : List Char) : Cursor :=
  ⟨cur.offset + byteSize text, text.getLast?.or cur.before, cur.rest.drop text.length⟩

@[simp] theorem advance_nil (cur : Cursor) : cur.advance [] = cur := rfl

theorem advance_append (cur : Cursor) (xs ys : List Char) :
    cur.advance (xs ++ ys) = (cur.advance xs).advance ys := by
  simp [advance, byteSize_append, Nat.add_assoc, List.getLast?_append, Option.or_assoc,
    List.drop_drop]

/-- The character at a cursor is the one it moves over. -/
theorem advance_singleton {cur : Cursor} {c : Char} {rest : List Char} (h : cur.rest = c :: rest) :
    cur.advance [c] = ⟨cur.offset + c.utf8Size, some c, rest⟩ := by
  simp [advance, byteSize, h]

theorem advance_cons {cur : Cursor} {c : Char} {rest : List Char} (h : cur.rest = c :: rest)
    (text : List Char) :
    cur.advance (c :: text) = advance ⟨cur.offset + c.utf8Size, some c, rest⟩ text := by
  rw [← advance_singleton h, ← advance_append]
  rfl

theorem rest_advance {cur : Cursor} {text after : List Char} (h : cur.rest = text ++ after) :
    (cur.advance text).rest = after := by
  simp [advance, h]

theorem textTo_advance {cur : Cursor} {text after : List Char} (h : cur.rest = text ++ after) :
    cur.textTo (cur.advance text) = text := by
  simp [textTo, advance, h]

theorem skip_length {cur : Cursor} {text after : List Char} (h : cur.rest = text ++ after) :
    cur.skip text.length = cur.advance text := by
  induction text generalizing cur with
  | nil => rfl
  | cons c text ih =>
    rw [advance_cons h, List.length_cons, skip, h]
    exact ih rfl

/-! ### Literals and blanks -/

/-- A literal takes a text that is equal to it up to letter case. -/
theorem afterLiteral?_eq_some_iff {cur stop : Cursor} {cs : List Char} :
    cur.afterLiteral? cs = some stop ↔ ∃ text after, cur.rest = text ++ after ∧
      List.Forall₂ (fun c expected => Text.sameLetter c expected = true) text cs ∧
      stop = cur.advance text := by
  induction cs generalizing cur with
  | nil =>
    simp only [afterLiteral?, Option.some.injEq, List.forall₂_nil_right_iff]
    constructor
    · rintro rfl
      exact ⟨[], cur.rest, rfl, rfl, rfl⟩
    · rintro ⟨_, after, -, rfl, rfl⟩
      rfl
  | cons expected more ih =>
    cases hrest : cur.rest with
    | nil =>
      simp only [afterLiteral?, hrest, reduceCtorEq, false_iff]
      rintro ⟨text, after, happ, hsame, -⟩
      obtain ⟨c, text, -, -, rfl⟩ := List.forall₂_cons_right_iff.1 hsame
      simp at happ
    | cons c rest =>
      simp only [afterLiteral?, hrest]
      constructor
      · intro h
        split at h
        · next hc =>
          obtain ⟨text, after, happ, hsame, rfl⟩ := ih.1 h
          exact ⟨c :: text, after, congrArg (c :: ·) happ, .cons hc hsame,
            (advance_cons hrest text).symm⟩
        · cases h
      · rintro ⟨text, after, happ, hsame, rfl⟩
        obtain ⟨c', text, hc, hmore, rfl⟩ := List.forall₂_cons_right_iff.1 hsame
        obtain ⟨rfl, rfl⟩ := List.cons.inj happ
        rw [if_pos hc]
        exact ih.2 ⟨text, after, rfl, hmore, advance_cons hrest text⟩

end Cursor

/-- Blanks in a pattern take all blanks that stand there, and they take nothing only at the start,
at the end and behind a blank. -/
def TakesBlanks (before : Option Char) (text after : List Char) : Prop :=
  (∀ c ∈ text, Text.isBlank c = true) ∧ (∀ c ∈ after.head?, Text.isBlank c = false) ∧
    (text = [] → after = [] ∨ ∀ c ∈ before, Text.isBlank c = true)

theorem takeWhile_isBlank_eq {text after : List Char} (htext : ∀ c ∈ text, Text.isBlank c = true)
    (hafter : ∀ c ∈ after.head?, Text.isBlank c = false) :
    (text ++ after).takeWhile Text.isBlank = text := by
  rw [List.takeWhile_append_of_pos htext]
  cases after with
  | nil => simp
  | cons c rest => simp [hafter c rfl]

namespace Cursor

theorem afterSpace?_eq_some_iff {cur stop : Cursor} :
    cur.afterSpace? = some stop ↔ ∃ text after, cur.rest = text ++ after ∧
      TakesBlanks cur.before text after ∧ stop = cur.advance text := by
  have hsplit : cur.rest =
      cur.rest.takeWhile Text.isBlank ++ cur.rest.dropWhile Text.isBlank :=
    List.takeWhile_append_dropWhile.symm
  have hblank : ∀ c ∈ cur.rest.takeWhile Text.isBlank, Text.isBlank c = true :=
    fun c hc => List.mem_takeWhile_imp hc
  have hnext : ∀ c ∈ (cur.rest.dropWhile Text.isBlank).head?, Text.isBlank c = false := by
    intro c hc
    have := List.head?_dropWhile_not Text.isBlank cur.rest
    rw [hc] at this
    simpa using this
  constructor
  · intro h
    unfold afterSpace? at h
    split at h
    · next hnil =>
      split at h
      · next hallowed =>
        obtain rfl := Option.some.inj h
        rw [hnil, List.nil_append] at hsplit
        refine ⟨[], cur.rest, rfl, ⟨nofun, hsplit ▸ hnext, fun _ => ?_⟩, rfl⟩
        rw [Bool.or_eq_true, List.isEmpty_iff] at hallowed
        exact hallowed.imp_right fun h c hc => by simpa [Option.mem_def.1 hc] using h
      · cases h
    · next hne =>
      obtain rfl := Option.some.inj h
      exact ⟨_, _, hsplit, ⟨hblank, hnext, fun hnil => absurd hnil hne⟩, skip_length hsplit⟩
  · rintro ⟨text, after, happ, ⟨htext, hafter, hempty⟩, rfl⟩
    have htake : cur.rest.takeWhile Text.isBlank = text := by
      rw [happ, takeWhile_isBlank_eq htext hafter]
    unfold afterSpace?
    rw [htake]
    cases text with
    | nil =>
      have hallowed : cur.rest.isEmpty || cur.before.all Text.isBlank := by
        rw [Bool.or_eq_true, List.isEmpty_iff]
        rw [List.nil_append] at happ
        rw [happ]
        refine (hempty rfl).imp_right fun h => ?_
        cases hbefore : cur.before with
        | none => rfl
        | some c => exact h c hbefore
      simp [hallowed]
    | cons c text => exact congrArg some (skip_length happ)

end Cursor

/-! ### Slots -/

/-- The depth of brackets and whether a quote is open behind a character; none behind a bracket
that closes more than is open. -/
def scanChar (state : Nat × Bool) (c : Char) : Option (Nat × Bool) :=
  if state.2 then some (state.1, c != '"')
  else if c == '"' then some (state.1, true)
  else if c == '(' || c == '{' then some (state.1 + 1, false)
  else if c == ')' || c == '}' then
    match state.1 with
    | 0 => none
    | depth + 1 => some (depth, false)
  else some (state.1, false)

/-- The depth of brackets and whether a quote is open behind a text. -/
def scan (state : Nat × Bool) : List Char → Option (Nat × Bool)
  | [] => some state
  | c :: rest => (scanChar state c).bind fun state => scan state rest

/-- What a slot may take from where it starts to a place: brackets and quotes are closed there, and
the last character is no blank. -/
def Closed (state : Nat × Bool) (text : List Char) : Prop :=
  scan state text = some (0, false) ∧ ∃ c ∈ text.getLast?, Text.isBlank c = false

/-- What a slot may take: no blank stands at either end, and quotes and brackets are closed. -/
def Admissible (text : List Char) : Prop :=
  (∀ c ∈ text.head?, Text.isBlank c = false) ∧ Closed (0, false) text

/-- The beginnings of a text up to where a slot may end, shortest first. -/
def closedTexts (state : Nat × Bool) : List Char → List (List Char)
  | [] => []
  | c :: rest =>
    match scanChar state c with
    | none => []
    | some state =>
      (if !state.2 && state.1 == 0 && !Text.isBlank c then [[c]] else []) ++
        (closedTexts state rest).map (c :: ·)

theorem not_closed_nil {state : Nat × Bool} : ¬ Closed state [] := by
  rintro ⟨-, c, hc, -⟩
  simp at hc

theorem closed_cons_iff {state : Nat × Bool} {c : Char} {text : List Char} :
    Closed state (c :: text) ↔ ∃ state', scanChar state c = some state' ∧
      (text = [] ∧ state' = (0, false) ∧ Text.isBlank c = false ∨ Closed state' text) := by
  simp only [Closed, scan, Option.bind_eq_some_iff]
  cases text with
  | nil => simp [scan, and_comm, and_assoc]
  | cons c' text =>
    simp only [List.getLast?_cons_cons, reduceCtorEq, false_and, false_or]
    exact ⟨fun ⟨⟨state', h, hs⟩, hc⟩ => ⟨state', h, hs, hc⟩,
      fun ⟨state', h, hs, hc⟩ => ⟨⟨state', h, hs⟩, hc⟩⟩

theorem mem_closedTexts_iff {state : Nat × Bool} {rest text : List Char} :
    text ∈ closedTexts state rest ↔ text <+: rest ∧ Closed state text := by
  induction rest generalizing state text with
  | nil =>
    simp only [closedTexts, List.not_mem_nil, List.prefix_nil, false_iff, not_and]
    rintro rfl
    exact not_closed_nil
  | cons c rest ih =>
    rw [closedTexts]
    cases text with
    | nil =>
      simp only [not_closed_nil, and_false, iff_false]
      split
      · exact List.not_mem_nil
      · split <;> simp
    | cons c' text =>
      rw [List.cons_prefix_cons, closed_cons_iff]
      cases hscan : scanChar state c with
      | none =>
        simp only [List.not_mem_nil, false_iff]
        rintro ⟨⟨rfl, -⟩, state', hscan', -⟩
        rw [hscan] at hscan'
        cases hscan'
      | some found =>
        have hhere : c' :: text ∈
            (if !found.2 && found.1 == 0 && !Text.isBlank c then [[c]] else []) ↔
              c = c' ∧ text = [] ∧ found = (0, false) ∧ Text.isBlank c = false := by
          obtain ⟨depth, quoted⟩ := found
          split
          · next h =>
            simp only [Bool.and_eq_true, Bool.not_eq_true', beq_iff_eq] at h
            obtain ⟨⟨rfl, rfl⟩, hblank⟩ := h
            rw [List.mem_singleton, List.cons.injEq]
            exact ⟨fun h => ⟨h.1.symm, h.2, rfl, hblank⟩, fun h => ⟨h.1.symm, h.2.1⟩⟩
          · next h =>
            simp only [List.not_mem_nil, Prod.mk.injEq, false_iff]
            rintro ⟨rfl, rfl, ⟨rfl, rfl⟩, hblank⟩
            simp [hblank] at h
        have hlater : c' :: text ∈ (closedTexts found rest).map (c :: ·) ↔
            c = c' ∧ text <+: rest ∧ Closed found text := by
          simp only [List.mem_map, List.cons.injEq]
          constructor
          · rintro ⟨later, hmem, rfl, rfl⟩
            exact ⟨rfl, ih.1 hmem⟩
          · rintro ⟨rfl, h⟩
            exact ⟨text, ih.2 h, rfl, rfl⟩
        simp only [List.mem_append, hhere, hlater]
        constructor
        · rintro (⟨rfl, rfl, h⟩ | ⟨rfl, hinitial, h⟩)
          · exact ⟨⟨rfl, List.nil_prefix⟩, found, hscan, .inl ⟨rfl, h⟩⟩
          · exact ⟨⟨rfl, hinitial⟩, found, hscan, .inr h⟩
        · rintro ⟨⟨rfl, hinitial⟩, state', hscan', h⟩
          obtain rfl : found = state' := Option.some.inj (hscan.symm.trans hscan')
          exact h.imp (fun h => ⟨rfl, h⟩) fun h => ⟨rfl, hinitial, h⟩

theorem pairwise_closedTexts (state : Nat × Bool) (rest : List Char) :
    (closedTexts state rest).Pairwise (·.length < ·.length) := by
  induction rest generalizing state with
  | nil => exact .nil
  | cons c rest ih =>
    rw [closedTexts]
    split
    · exact .nil
    · next found hscan =>
      have hlater : ((closedTexts found rest).map (c :: ·)).Pairwise (·.length < ·.length) :=
        List.pairwise_map.2 ((ih found).imp fun h => Nat.succ_lt_succ h)
      refine List.pairwise_append.2 ⟨?_, hlater, fun text htext later hmem => ?_⟩
      · split
        · exact List.pairwise_singleton _ _
        · exact .nil
      · obtain ⟨text', htext', rfl⟩ := List.mem_map.1 hmem
        have hne : text' ≠ [] := by
          rintro rfl
          exact not_closed_nil (mem_closedTexts_iff.1 htext').2
        split at htext
        · obtain rfl := List.mem_singleton.1 htext
          exact Nat.succ_lt_succ (List.length_pos_of_ne_nil hne)
        · cases htext

namespace Cursor

theorem endsWithin_cons (depth : Nat) (quoted : Bool) (offset : Nat) (c : Char)
    (rest : List Char) :
    endsWithin depth quoted offset (c :: rest) =
      match scanChar (depth, quoted) c with
      | none => []
      | some state =>
        (if !state.2 && state.1 == 0 && !Text.isBlank c then
          [⟨offset + c.utf8Size, some c, rest⟩] else []) ++
          endsWithin state.1 state.2 (offset + c.utf8Size) rest := by
  have hhere : ∀ (p : Bool) (here : Cursor) (further : List Cursor),
      (if p then here :: further else further) = (if p then [here] else []) ++ further := by
    intro p here further
    cases p <;> rfl
  cases quoted with
  | true => exact hhere _ _ _
  | false =>
    by_cases hquote : (c == '"') = true
    · simp only [endsWithin, scanChar, hquote, Bool.false_eq_true, if_false, if_true]
      exact hhere _ _ _
    by_cases hopen : (c == '(' || c == '{') = true
    · simp only [endsWithin, scanChar, hquote, hopen, Bool.false_eq_true, if_false, if_true]
      exact hhere _ _ _
    by_cases hclose : (c == ')' || c == '}') = true
    · simp only [endsWithin, scanChar, hquote, hopen, hclose, Bool.false_eq_true, if_false, if_true]
      cases depth with
      | zero => rfl
      | succ depth => exact hhere _ _ _
    · simp only [endsWithin, scanChar, hquote, hopen, hclose, Bool.false_eq_true, if_false]
      exact hhere _ _ _

theorem endsWithin_eq_map (cur : Cursor) (state : Nat × Bool) (rest : List Char)
    (h : cur.rest = rest) :
    endsWithin state.1 state.2 cur.offset rest =
      (closedTexts state rest).map cur.advance := by
  induction rest generalizing cur state with
  | nil => rfl
  | cons c rest ih =>
    rw [endsWithin_cons, closedTexts]
    cases scanChar state c with
    | none => rfl
    | some state' =>
      have hnext := ih ⟨cur.offset + c.utf8Size, some c, rest⟩ state' rfl
      simp only at hnext
      simp only [hnext, List.map_append, List.map_map]
      congr 1
      · split
        · rw [List.map_singleton, advance_singleton h]
        · rfl
      · exact List.map_congr_left fun text _ => (advance_cons h text).symm

/-- The texts that a slot may take here, shortest first. -/
def slotTexts (cur : Cursor) : List (List Char) :=
  if cur.rest.head?.any Text.isBlank then [] else closedTexts (0, false) cur.rest

/-- A slot may end behind the texts that it may take. -/
theorem slotEnds_eq_map (cur : Cursor) : cur.slotEnds = cur.slotTexts.map cur.advance := by
  unfold slotEnds slotTexts
  cases h : cur.rest with
  | nil => rfl
  | cons c rest =>
    have hends := endsWithin_eq_map cur (0, false) (c :: rest) h
    cases hblank : Text.isBlank c with
    | true => simp [hblank]
    | false => simpa [hblank] using hends

theorem mem_slotTexts_iff {cur : Cursor} {text : List Char} :
    text ∈ cur.slotTexts ↔ text <+: cur.rest ∧ Admissible text := by
  unfold slotTexts Admissible
  cases text with
  | nil =>
    simp only [not_closed_nil, and_false, iff_false]
    split
    · exact List.not_mem_nil
    · exact fun h => not_closed_nil (mem_closedTexts_iff.1 h).2
  | cons c text =>
    have hhead : c :: text <+: cur.rest → cur.rest.head? = some c := by
      rintro ⟨after, hafter⟩
      rw [← hafter]
      rfl
    have hfirst : (∀ c' ∈ (c :: text).head?, Text.isBlank c' = false) ↔ Text.isBlank c = false := by
      simp
    rw [hfirst]
    constructor
    · intro h
      split at h
      · cases h
      · next hblank =>
        obtain ⟨hinitial, hclosed⟩ := mem_closedTexts_iff.1 h
        rw [hhead hinitial] at hblank
        exact ⟨hinitial, by simpa using hblank, hclosed⟩
    · rintro ⟨hinitial, hblank, hclosed⟩
      rw [hhead hinitial, Option.any_some, hblank]
      exact mem_closedTexts_iff.2 ⟨hinitial, hclosed⟩

theorem pairwise_slotTexts (cur : Cursor) : cur.slotTexts.Pairwise (·.length < ·.length) := by
  unfold slotTexts
  split
  · exact .nil
  · exact pairwise_closedTexts (0, false) cur.rest

end Cursor

/-! ### Regular expressions -/

section Regexes

variable {re : Regex} {text rest : List Char}

/-- A regular expression takes the beginnings that it accepts, but never nothing. -/
theorem mem_map_take_ends_iff :
    text ∈ (re.ends rest).map (rest.take ·) ↔
      text <+: rest ∧ text ≠ [] ∧ re.accepts text = true := by
  constructor
  · intro h
    obtain ⟨n, hn, rfl⟩ := List.mem_map.1 h
    have hpos : 0 < n := Regex.lt_of_mem_endsFrom hn
    obtain ⟨n, rfl⟩ := Nat.exists_eq_add_one_of_ne_zero hpos.ne'
    obtain ⟨hlt, haccepts⟩ := Regex.mem_ends_iff.1 hn
    refine ⟨List.take_prefix _ _, fun hnil => ?_, haccepts⟩
    have hlength := congrArg List.length hnil
    rw [List.length_take, List.length_nil] at hlength
    omega
  · rintro ⟨⟨after, rfl⟩, hne, haccepts⟩
    obtain ⟨n, hn⟩ := Nat.exists_eq_add_one_of_ne_zero (List.length_pos_of_ne_nil hne).ne'
    have htake : (text ++ after).take (n + 1) = text := by rw [← hn, List.take_left]
    refine List.mem_map.2 ⟨n + 1, Regex.mem_ends_iff.2 ⟨?_, ?_⟩, htake⟩
    · rw [List.length_append]
      omega
    · rw [htake]
      exact haccepts

theorem pairwise_endsFrom (s : Regex.Search) (count : Nat) (rest : List Char) :
    (re.endsFrom s count rest).Pairwise (· < ·) := by
  induction rest generalizing s count with
  | nil => exact .nil
  | cons c rest ih =>
    simp only [Regex.endsFrom]
    split
    · exact List.pairwise_cons.2 ⟨fun n hn => Regex.lt_of_mem_endsFrom hn, ih _ _⟩
    · exact ih _ _

theorem le_length_of_mem_ends {n : Nat} (h : n ∈ re.ends rest) : n ≤ rest.length := by
  cases n with
  | zero => exact Nat.zero_le _
  | succ n => exact (Regex.mem_ends_iff.1 h).1

theorem pairwise_map_take_ends (re : Regex) (rest : List Char) :
    ((re.ends rest).map (rest.take ·)).Pairwise (·.length < ·.length) := by
  refine List.pairwise_map.2 (List.Pairwise.imp_of_mem ?_ (pairwise_endsFrom .start 0 rest))
  intro m n _ hn hlt
  rw [List.length_take, List.length_take, min_eq_left (le_length_of_mem_ends hn)]
  exact (min_le_left _ _).trans_lt hlt

end Regexes

end TriggerScript
