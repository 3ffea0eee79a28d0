import Mathlib
import TriggerScript.Proofs.Pattern.Splits
import TriggerScript.Proofs.Text.Casing

/-!
# Matching in any letter case

Texts that differ only in the case of the letters from `A` to `Z` are matched in the same ways. All
that the matcher asks of a character has the same answer for a capital letter and its small one, so
matching a text and matching it in small letters go hand in hand.

* `Split.outline` : the mark of a split and the bytes that each slot takes.
* `Cursor.lowered` : the same place in the text in small letters.
* `afterLiteral?_lowered`, `afterSpace?_lowered`, `slotEnds_lowered` : each choice of the matcher.
* `runElements_lowered` : the matcher on the text in small letters.
* `outlines_in_any_case` : the splits that are offered.
-/

namespace TriggerScript

/-! ### Characters in small letters -/

namespace Text

/-- What is the same for the letters from `A` to `Z` and their small ones depends on the character
in small letters only. -/
theorem apply_toLower {α : Type} {f : Char → α}
    (h : ∀ n < 128, f (Char.ofNat n).toLower = f (Char.ofNat n)) (c : Char) :
    f c.toLower = f c := by
  by_cases hc : c.toNat < 128
  · have hbasic := h c.toNat hc
    rwa [Char.ofNat_toNat] at hbasic
  · have hsame : c.toLower = c := by
      rw [Char.toLower, dif_neg]
      rintro ⟨-, hle⟩
      have hcode : c.toNat ≤ 'Z'.toNat := UInt32.le_iff_toNat_le.mp hle
      exact hc (hcode.trans_lt (by decide))
    rw [hsame]

theorem utf8Size_toLower (c : Char) : c.toLower.utf8Size = c.utf8Size :=
  apply_toLower (f := Char.utf8Size) (by decide +kernel) c

theorem isBlank_toLower (c : Char) : isBlank c.toLower = isBlank c :=
  apply_toLower (by decide +kernel) c

theorem lowerChar_toLower (c : Char) : lowerChar c.toLower = lowerChar c :=
  apply_toLower (by decide +kernel) c

theorem sameLetter_eq (a b : Char) : sameLetter a b = (lowerChar a == lowerChar b) := by
  by_cases h : a = b
  · subst h
    simp [sameLetter]
  · simp [sameLetter, h]

/-- A letter matches in both cases what it matches in one. -/
theorem sameLetter_toLower (c expected : Char) :
    sameLetter c.toLower expected = sameLetter c expected := by
  rw [sameLetter_eq, sameLetter_eq, lowerChar_toLower]

end Text

/-- Quotes and brackets have no case. -/
theorem scanChar_toLower (state : Nat × Bool) (c : Char) :
    scanChar state c.toLower = scanChar state c := by
  have hquote : (c.toLower == '"') = (c == '"') :=
    Text.apply_toLower (f := (· == '"')) (by decide +kernel) c
  have hopen : (c.toLower == '(' || c.toLower == '{') = (c == '(' || c == '{') :=
    Text.apply_toLower (f := fun c => c == '(' || c == '{') (by decide +kernel) c
  have hclose : (c.toLower == ')' || c.toLower == '}') = (c == ')' || c == '}') :=
    Text.apply_toLower (f := fun c => c == ')' || c == '}') (by decide +kernel) c
  have hother : (c.toLower != '"') = (c != '"') := by rw [bne, bne, hquote]
  simp only [scanChar, hquote, hopen, hclose, hother]

theorem byteSize_map_toLower (text : List Char) :
    byteSize (text.map Char.toLower) = byteSize text := by
  induction text with
  | nil => rfl
  | cons c text ih => rw [List.map_cons, byteSize, byteSize, ih, Text.utf8Size_toLower]

/-! ### Places in the text in small letters -/

namespace Cursor

/-- The same place in the text in small letters. -/
def lowered (cur : Cursor) : Cursor :=
  ⟨cur.offset, cur.before.map Char.toLower, cur.rest.map Char.toLower⟩

@[simp] theorem offset_lowered (cur : Cursor) : cur.lowered.offset = cur.offset := rfl

@[simp] theorem rest_lowered (cur : Cursor) : cur.lowered.rest = cur.rest.map Char.toLower := rfl

/-- Going on by one character. -/
theorem lowered_next (offset : Nat) (c : Char) (rest : List Char) :
    lowered ⟨offset + c.utf8Size, some c, rest⟩ =
      ⟨offset + c.toLower.utf8Size, some c.toLower, rest.map Char.toLower⟩ := by
  rw [Text.utf8Size_toLower]
  rfl

theorem advance_lowered (cur : Cursor) (text : List Char) :
    cur.lowered.advance (text.map Char.toLower) = (cur.advance text).lowered := by
  have hbefore : (text.getLast?.map Char.toLower).or (cur.before.map Char.toLower) =
      (text.getLast?.or cur.before).map Char.toLower := by
    cases text.getLast? <;> rfl
  simp [advance, lowered, byteSize_map_toLower, List.getLast?_map, hbefore]

/-- A literal ends at the same place. -/
theorem afterLiteral?_lowered (cs : List Char) (cur : Cursor) :
    cur.lowered.afterLiteral? cs = (cur.afterLiteral? cs).map lowered := by
  induction cs generalizing cur with
  | nil => rfl
  | cons expected more ih =>
    cases hrest : cur.rest with
    | nil => simp [afterLiteral?, hrest]
    | cons c rest =>
      simp only [afterLiteral?, rest_lowered, hrest, List.map_cons, Text.sameLetter_toLower]
      by_cases hc : Text.sameLetter c expected = true
      · rw [if_pos hc, if_pos hc, ← ih, lowered_next, offset_lowered]
      · rw [if_neg hc, if_neg hc]
        rfl

theorem skip_lowered (n : Nat) (cur : Cursor) : cur.lowered.skip n = (cur.skip n).lowered := by
  induction n generalizing cur with
  | zero => rfl
  | succ n ih =>
    cases hrest : cur.rest with
    | nil => simp [skip, hrest]
    | cons c rest =>
      simp only [skip, rest_lowered, hrest, List.map_cons]
      rw [← ih, lowered_next, offset_lowered]

/-- Blanks end at the same place. -/
theorem afterSpace?_lowered (cur : Cursor) :
    cur.lowered.afterSpace? = cur.afterSpace?.map lowered := by
  have hblank : Text.isBlank ∘ Char.toLower = Text.isBlank := funext Text.isBlank_toLower
  have htake : (cur.rest.map Char.toLower).takeWhile Text.isBlank =
      (cur.rest.takeWhile Text.isBlank).map Char.toLower := by
    rw [List.takeWhile_map, hblank]
  have hbefore : cur.lowered.before.all Text.isBlank = cur.before.all Text.isBlank := by
    simp [lowered, Option.all_map, Text.isBlank_toLower]
  unfold afterSpace?
  rw [rest_lowered, htake, hbefore, List.isEmpty_map]
  cases cur.rest.takeWhile Text.isBlank with
  | nil =>
    simp only [List.map_nil]
    split <;> rfl
  | cons c blanks =>
    simp only [List.map_cons, List.length_cons, List.length_map, skip_lowered, Option.map_some]

theorem closedTexts_map_toLower (state : Nat × Bool) (text : List Char) :
    closedTexts state (text.map Char.toLower) =
      (closedTexts state text).map (List.map Char.toLower) := by
  induction text generalizing state with
  | nil => rfl
  | cons c text ih =>
    rw [List.map_cons, closedTexts, closedTexts, scanChar_toLower, Text.isBlank_toLower]
    cases scanChar state c with
    | none => rfl
    | some state' =>
      simp only [ih, List.map_append, List.map_map]
      congr 1
      split <;> rfl

theorem slotTexts_lowered (cur : Cursor) :
    cur.lowered.slotTexts = cur.slotTexts.map (List.map Char.toLower) := by
  have hblank : (cur.rest.map Char.toLower).head?.any Text.isBlank =
      cur.rest.head?.any Text.isBlank := by
    simp [Option.any_map, Text.isBlank_toLower]
  unfold slotTexts
  rw [rest_lowered, hblank, closedTexts_map_toLower]
  split <;> rfl

/-- A slot may end at the same places. -/
theorem slotEnds_lowered (cur : Cursor) : cur.lowered.slotEnds = cur.slotEnds.map lowered := by
  rw [slotEnds_eq_map, slotEnds_eq_map, slotTexts_lowered, List.map_map, List.map_map]
  refine List.map_congr_left fun text _ => ?_
  exact advance_lowered cur text

end Cursor

/-- The mark of a split, and from which byte to which each slot takes the text. -/
def Split.outline (split : Split) : Int32 × List (Option (Nat × Nat)) :=
  (split.mark, split.spans.map fun span => span.map fun span => (span.start, span.stop))

namespace Pattern

/-! ### The matcher on the text in small letters -/

section Run

variable {p : Pattern} {σ : Type} {next next' : Continue σ}

/-- What comes next goes on in the same way, at the same place of the text in small letters, as long
as the same has been taken so far. -/
def Alike (next next' : Continue σ) : Prop :=
  ∀ cur split split' s, Split.outline split = Split.outline split' →
    next' (Cursor.lowered cur) split' s = next cur split s

theorem outline_set {split split' : Split} (h : split.outline = split'.outline) (i : Nat)
    {span span' : Span} (hstart : span.start = span'.start) (hstop : span.stop = span'.stop) :
    Split.outline { split with spans := split.spans.set i (some span) } =
      Split.outline { split' with spans := split'.spans.set i (some span') } := by
  obtain ⟨hmark, hspans⟩ := Prod.mk.inj h
  simp [Split.outline, List.map_set, hmark, hspans, hstart, hstop]

theorem outline_mark {split split' : Split} (h : split.outline = split'.outline) (mark : Int32) :
    Split.outline { split with mark := split.mark ||| mark } =
      Split.outline { split' with mark := split'.mark ||| mark } := by
  obtain ⟨hmark, hspans⟩ := Prod.mk.inj h
  simp [Split.outline, hmark, hspans]

theorem run_slot_lowered (hnext : Alike next next') (i : Nat) (cur : Cursor) {split split' : Split}
    (hsplit : split.outline = split'.outline) (s : σ) :
    (Element.slot i).run p cur.lowered split' next' s = (Element.slot i).run p cur split next s := by
  have hends : (if isGreedy p i then cur.lowered.slotEnds.reverse else cur.lowered.slotEnds) =
      (if isGreedy p i then cur.slotEnds.reverse else cur.slotEnds).map Cursor.lowered := by
    rw [Cursor.slotEnds_lowered]
    split
    · rw [List.map_reverse]
    · rfl
  rw [Element.run, Element.run]
  change tryEach _ (if isGreedy p i then cur.lowered.slotEnds.reverse else cur.lowered.slotEnds) s =
    tryEach _ (if isGreedy p i then cur.slotEnds.reverse else cur.slotEnds) s
  rw [hends, tryEach_map]
  refine tryEach_congr (fun stop _ s => ?_) s
  exact hnext stop _ _ s (outline_set hsplit i rfl rfl)

mutual

/-- **A part without regular expressions is matched in the same ways in small letters.** -/
theorem run_lowered (hplain : p.regexes = []) (element : Element) {next next' : Continue σ}
    (hnext : Alike next next') (cur : Cursor) {split split' : Split}
    (hsplit : split.outline = split'.outline) (s : σ) :
    element.run p cur.lowered split' next' s = element.run p cur split next s := by
  match element with
  | .literal cs =>
    rw [Element.run, Element.run, Cursor.afterLiteral?_lowered]
    cases cur.afterLiteral? cs with
    | none => rfl
    | some stop => exact hnext stop split split' s hsplit
  | .space =>
    rw [Element.run, Element.run, Cursor.afterSpace?_lowered]
    cases cur.afterSpace? with
    | none => rfl
    | some stop => exact hnext stop split split' s hsplit
  | .slot i => exact run_slot_lowered hnext i cur hsplit s
  | .regex i => simp [Element.run, hplain]
  | .group alternatives optional =>
    rw [Element.run, Element.run,
      runAlternatives_lowered hplain alternatives hnext cur hsplit s]
    -- Either an alternative was taken, or the group is left out here as there.
    rcases runAlternatives p alternatives cur split next s with ⟨_ | _, s'⟩
    · cases optional with
      | true => exact hnext cur split split' s' hsplit
      | false => rfl
    · rfl

theorem runElements_lowered (hplain : p.regexes = []) (elements : List Element)
    {next next' : Continue σ} (hnext : Alike next next') (cur : Cursor) {split split' : Split}
    (hsplit : split.outline = split'.outline) (s : σ) :
    runElements p elements cur.lowered split' next' s = runElements p elements cur split next s := by
  match elements with
  | [] =>
    rw [runElements, runElements]
    exact hnext cur split split' s hsplit
  | element :: rest =>
    rw [runElements, runElements]
    refine run_lowered hplain element ?_ cur hsplit s
    intro cur split split' s hsplit
    exact runElements_lowered hplain rest hnext cur hsplit s

theorem runAlternatives_lowered (hplain : p.regexes = []) (alternatives : List Alternative)
    {next next' : Continue σ} (hnext : Alike next next') (cur : Cursor) {split split' : Split}
    (hsplit : split.outline = split'.outline) (s : σ) :
    runAlternatives p alternatives cur.lowered split' next' s =
      runAlternatives p alternatives cur split next s := by
  match alternatives with
  | [] => rw [runAlternatives, runAlternatives]
  | .mk mark elements :: rest =>
    rw [runAlternatives, runAlternatives,
      runElements_lowered hplain elements hnext cur (outline_mark hsplit mark) s]
    rcases runElements p elements cur _ next s with ⟨_ | _, s'⟩
    · exact runAlternatives_lowered hplain rest hnext cur hsplit s'
    · rfl

end

end Run

/-- A sink that looks at outlines only is offered the same for the text in small letters. -/
theorem offer_lowered {p : Pattern} (hplain : p.regexes = []) {σ : Type} (text : List Char)
    (sink : Int32 × List (Option (Nat × Nat)) → σ → Bool × σ) (s : σ) :
    p.offer (text.map Char.toLower) (fun split => sink split.outline) s =
      p.offer text (fun split => sink split.outline) s := by
  refine runElements_lowered hplain p.elements ?_ (.start text) rfl s
  intro cur split split' s hsplit
  simp only [Cursor.rest_lowered, List.isEmpty_map, hsplit]

/-- **Matching ignores the case of `A` to `Z`.** A pattern without regular expressions offers the
same splits, with the same marks and the same bytes for each slot, for two texts that differ only in
the case of these letters, whatever the sink makes of them. -/
theorem outlines_in_any_case {p : Pattern} (hplain : p.regexes = []) {text text' : List Char}
    (h : Text.sameAscii text text' = true) :
    (p.splits text).map Split.outline = (p.splits text').map Split.outline ∧
    ∀ {σ : Type} (sink : Int32 × List (Option (Nat × Nat)) → σ → Bool × σ) (s : σ),
      p.offer text (fun split => sink split.outline) s =
        p.offer text' (fun split => sink split.outline) s := by
  have hsame : text.map Char.toLower = text'.map Char.toLower := by
    simpa [Text.sameAscii] using h
  have hoffer {σ : Type} (sink : Int32 × List (Option (Nat × Nat)) → σ → Bool × σ) (s : σ) :
      p.offer text (fun split => sink split.outline) s =
        p.offer text' (fun split => sink split.outline) s := by
    rw [← offer_lowered hplain text, hsame, offer_lowered hplain text']
  refine ⟨?_, hoffer⟩
  -- A sink that takes no split sees all outlines.
  have hseen (t : List Char) : p.offer t (fun split seen => (false, split.outline :: seen)) [] =
      (false, ((p.splits t).map Split.outline).reverse) := by
    rw [offer_eq_tryEach,
      ← tryEach_map (fun outline seen => (false, outline :: seen)) Split.outline, tryEach_reject,
      List.append_nil]
  have hall := hoffer (fun outline seen => (false, outline :: seen)) []
  rw [hseen, hseen] at hall
  exact List.reverse_injective (Prod.mk.inj hall).2

/-- It is sent to someone, or `a To b` is sent. -/
theorem outlines_in_any_case_sendPattern :
    compile textTable "send %text%[2¦ to %text%]" = .ok sendPattern ∧ sendPattern.regexes = [] ∧
    Text.sameAscii "SEND a To b".toList "send a to b".toList = true ∧
    (sendPattern.splits "SEND a To b".toList).map Split.outline =
      [(2, [some (5, 6), some (10, 11)]), (0, [some (5, 11), none])] := by
  have hp : compile textTable "send %text%[2¦ to %text%]" = .ok sendPattern := by cbv
  have hsame : Text.sameAscii "SEND a To b".toList "send a to b".toList = true := by decide
  have hsmall : (sendPattern.splits "send a to b".toList).map Split.outline =
      [(2, [some (5, 6), some (10, 11)]), (0, [some (5, 11), none])] := by cbv
  exact ⟨hp, rfl, hsame, (outlines_in_any_case rfl hsame).1.trans hsmall⟩

end Pattern

end TriggerScript
