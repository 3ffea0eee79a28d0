import TriggerScript.Proofs.Pattern.Ways

/-!
# The matcher tries the ways one after the other

The matcher goes through a pattern with a continuation and writes down what it takes on the way.
What it hands on for a way is told by this way alone.

* `tryEach_append`, `tryEach_flatMap`, `tryEach_filter` : trying candidates made from others.
* `Way.record` : what a way writes down.
* `run_eq_tryEach`, `runElements_eq_tryEach` : the matcher tries all ways in order.
-/

namespace TriggerScript.Pattern

/-! ### Trying -/

section TryEach

variable {α β σ : Type}

theorem tryEach_singleton (f : α → σ → Bool × σ) (a : α) (s : σ) : tryEach f [a] s = f a s := by
  rw [tryEach]
  rcases f a s with ⟨_ | _, s'⟩ <;> rfl

theorem tryEach_append (f : α → σ → Bool × σ) (xs ys : List α) (s : σ) :
    tryEach f (xs ++ ys) s =
      match tryEach f xs s with
      | (true, s) => (true, s)
      | (false, s) => tryEach f ys s := by
  induction xs generalizing s with
  | nil => rfl
  | cons x xs ih =>
    rw [List.cons_append, tryEach, tryEach]
    rcases f x s with ⟨_ | _, s'⟩
    · exact ih s'
    · rfl

theorem tryEach_map (f : β → σ → Bool × σ) (g : α → β) (xs : List α) (s : σ) :
    tryEach f (xs.map g) s = tryEach (fun a s => f (g a) s) xs s := by
  induction xs generalizing s with
  | nil => rfl
  | cons x xs ih =>
    rw [List.map_cons, tryEach, tryEach]
    rcases f (g x) s with ⟨_ | _, s'⟩
    · exact ih s'
    · rfl

theorem tryEach_flatMap (f : β → σ → Bool × σ) (g : α → List β) (xs : List α) (s : σ) :
    tryEach f (xs.flatMap g) s = tryEach (fun a s => tryEach f (g a) s) xs s := by
  induction xs generalizing s with
  | nil => rfl
  | cons x xs ih =>
    rw [List.flatMap_cons, tryEach_append, tryEach]
    rcases tryEach f (g x) s with ⟨_ | _, s'⟩
    · exact ih s'
    · rfl

theorem tryEach_filter (f : α → σ → Bool × σ) (keep : α → Bool) (xs : List α) (s : σ) :
    tryEach f (xs.filter keep) s =
      tryEach (fun a s => if keep a then f a s else (false, s)) xs s := by
  induction xs generalizing s with
  | nil => rfl
  | cons x xs ih =>
    rw [List.filter_cons, tryEach]
    cases hkeep : keep x with
    | false => exact ih s
    | true =>
      rw [if_pos rfl, tryEach, if_pos rfl]
      rcases f x s with ⟨_ | _, s'⟩
      · exact ih s'
      · rfl

theorem tryEach_congr {f g : α → σ → Bool × σ} {xs : List α} (h : ∀ a ∈ xs, ∀ s, f a s = g a s)
    (s : σ) : tryEach f xs s = tryEach g xs s := by
  induction xs generalizing s with
  | nil => rfl
  | cons x xs ih =>
    rw [List.forall_mem_cons] at h
    rw [tryEach, tryEach, h.1 s]
    rcases g x s with ⟨_ | _, s'⟩
    · exact ih h.2 s'
    · rfl

/-- Candidates that are all turned down. -/
theorem tryEach_reject (xs seen : List α) :
    tryEach (fun a seen => (false, a :: seen)) xs seen = (false, xs.reverse ++ seen) := by
  induction xs generalizing seen with
  | nil => rfl
  | cons x xs ih =>
    rw [List.reverse_cons, List.append_assoc, List.singleton_append]
    exact ih (x :: seen)

/-- The first candidate is taken. -/
theorem tryEach_take (xs : List α) :
    (tryEach (fun a (_ : Option α) => (true, some a)) xs none).2 = xs.head? := by
  cases xs <;> rfl

/-- Candidates that are taken by a property. -/
theorem tryEach_pure (accept : α → Bool) (xs seen : List α) :
    tryEach (fun a seen => (accept a, seen ++ [a])) xs seen =
      (xs.any accept,
        seen ++ (xs.takeWhile (fun a => !accept a) ++ (xs.find? accept).toList)) := by
  induction xs generalizing seen with
  | nil => simp [tryEach]
  | cons x xs ih =>
    rw [tryEach, List.any_cons, List.takeWhile_cons, List.find?_cons]
    cases haccept : accept x with
    | true => rfl
    | false =>
      simp only [ih, Bool.false_or, Bool.not_false, if_true, List.append_assoc, List.cons_append,
        List.nil_append]

end TryEach

/-! ### What a way writes down -/

mutual

/-- What a way that begins at an offset writes into a state. -/
def Way.record (offset : Nat) (split : Split) : Way → Split
  | .literal _ => split
  | .space _ => split
  | .taken _ mark ways => recordAll offset { split with mark := split.mark ||| mark } ways
  | .skipped => split
  | .slot i text =>
    { split with spans := split.spans.set i (some ⟨offset, offset + byteSize text, text⟩) }
  | .regex i text => { split with regexes := split.regexes.set i (some text) }

/-- What ways one after the other write into a state. -/
def recordAll (offset : Nat) (split : Split) : List Way → Split
  | [] => split
  | way :: rest => recordAll (offset + byteSize way.text) (way.record offset split) rest

end

attribute [grind =] Way.record recordAll

section Run

variable {p : Pattern} {cur : Cursor} {split : Split} {σ : Type}

theorem spanTo_advance {text after : List Char} (h : cur.rest = text ++ after) :
    cur.spanTo (cur.advance text) = ⟨cur.offset, cur.offset + byteSize text, text⟩ := by
  rw [Cursor.spanTo, Cursor.textTo_advance h]
  rfl

/-- Parts that take one text at most and write nothing down. -/
theorem tryEach_map_textTo {stop? : Option Cursor} (hstop : ∀ stop, stop? = some stop →
      ∃ text after, cur.rest = text ++ after ∧ stop = cur.advance text)
    (make : List Char → Way) (htext : ∀ text, (make text).text = text)
    (hrecord : ∀ text, (make text).record cur.offset split = split) (next : Continue σ) (s : σ) :
    tryEach (fun way s => next (cur.advance way.text) (way.record cur.offset split) s)
        (stop?.toList.map fun stop => make (cur.textTo stop)) s =
      stop?.elim (false, s) fun stop => next stop split s := by
  cases stop? with
  | none => rfl
  | some stop =>
    obtain ⟨text, after, hrest, rfl⟩ := hstop stop rfl
    simp only [Option.toList_some, List.map_cons, List.map_nil, tryEach_singleton, htext, hrecord,
      Cursor.textTo_advance hrest, Option.elim_some]

theorem run_literal (cs : List Char) (cur : Cursor) (split : Split) (next : Continue σ) (s : σ) :
    (Element.literal cs).run p cur split next s =
      tryEach (fun way s => next (cur.advance way.text) (way.record cur.offset split) s)
        (elementWays p cur (.literal cs)) s := by
  have hstop : ∀ stop, cur.afterLiteral? cs = some stop →
      ∃ text after, cur.rest = text ++ after ∧ stop = cur.advance text := by
    intro stop h
    obtain ⟨text, after, hrest, -, hadvance⟩ := Cursor.afterLiteral?_eq_some_iff.1 h
    exact ⟨text, after, hrest, hadvance⟩
  rw [Element.run, elementWays,
    tryEach_map_textTo hstop .literal (fun _ => rfl) (fun _ => rfl) next s]
  cases cur.afterLiteral? cs <;> rfl

theorem run_space (cur : Cursor) (split : Split) (next : Continue σ) (s : σ) :
    Element.space.run p cur split next s =
      tryEach (fun way s => next (cur.advance way.text) (way.record cur.offset split) s)
        (elementWays p cur .space) s := by
  have hstop : ∀ stop, cur.afterSpace? = some stop →
      ∃ text after, cur.rest = text ++ after ∧ stop = cur.advance text := by
    intro stop h
    obtain ⟨text, after, hrest, -, hadvance⟩ := Cursor.afterSpace?_eq_some_iff.1 h
    exact ⟨text, after, hrest, hadvance⟩
  rw [Element.run, elementWays,
    tryEach_map_textTo hstop .space (fun _ => rfl) (fun _ => rfl) next s]
  cases cur.afterSpace? <;> rfl

theorem run_slot (i : Nat) (cur : Cursor) (split : Split) (next : Continue σ) (s : σ) :
    (Element.slot i).run p cur split next s =
      tryEach (fun way s => next (cur.advance way.text) (way.record cur.offset split) s)
        (elementWays p cur (.slot i)) s := by
  have hends : (if isGreedy p i then cur.slotEnds.reverse else cur.slotEnds) =
      (if isGreedy p i then cur.slotTexts.reverse else cur.slotTexts).map cur.advance := by
    rw [Cursor.slotEnds_eq_map]
    split
    · rw [List.map_reverse]
    · rfl
  rw [Element.run, elementWays, tryEach_map]
  change tryEach _ (if isGreedy p i then cur.slotEnds.reverse else cur.slotEnds) s = _
  rw [hends, tryEach_map]
  refine tryEach_congr (fun text htext s => ?_) s
  have hmem : text ∈ cur.slotTexts := by
    split at htext
    · exact List.mem_reverse.1 htext
    · exact htext
  obtain ⟨⟨after, hrest⟩, -⟩ := Cursor.mem_slotTexts_iff.1 hmem
  simp only [Way.text, Way.record, spanTo_advance hrest.symm]

theorem run_regex (i : Nat) (cur : Cursor) (split : Split) (next : Continue σ) (s : σ) :
    (Element.regex i).run p cur split next s =
      tryEach (fun way s => next (cur.advance way.text) (way.record cur.offset split) s)
        (elementWays p cur (.regex i)) s := by
  rw [Element.run, elementWays]
  cases p.regexes[i]? with
  | none => rfl
  | some re =>
    simp only [Option.toList_some, List.flatMap_singleton, tryEach_map]
    refine tryEach_congr (fun n hn s => ?_) s
    have hrest : cur.rest = cur.rest.take n ++ cur.rest.drop n := (List.take_append_drop _ _).symm
    have hskip := Cursor.skip_length hrest
    rw [List.length_take, min_eq_left (le_length_of_mem_ends hn)] at hskip
    simp only [hskip, Cursor.textTo_advance hrest, Way.text, Way.record]

mutual

/-- **The matcher tries the ways to match a part one after the other.** -/
theorem run_eq_tryEach (element : Element) (cur : Cursor) (split : Split) (next : Continue σ)
    (s : σ) :
    element.run p cur split next s =
      tryEach (fun way s => next (cur.advance way.text) (way.record cur.offset split) s)
        (elementWays p cur element) s := by
  match element with
  | .literal cs => exact run_literal cs cur split next s
  | .space => exact run_space cur split next s
  | .slot i => exact run_slot i cur split next s
  | .regex i => exact run_regex i cur split next s
  | .group alternatives optional =>
    rw [Element.run, elementWays, tryEach_append, runAlternatives_eq_tryEach 0 alternatives]
    rcases tryEach _ (alternativesWays p cur 0 alternatives) s with ⟨_ | _, s'⟩
    · cases optional with
      | true => simp only [if_true, tryEach_singleton, Way.text, Way.record, Cursor.advance_nil]
      | false => rfl
    · rfl

theorem runElements_eq_tryEach (elements : List Element) (cur : Cursor) (split : Split)
    (next : Continue σ) (s : σ) :
    runElements p elements cur split next s =
      tryEach (fun ways s => next (cur.advance (waysText ways)) (recordAll cur.offset split ways) s)
        (elementsWays p cur elements) s := by
  match elements with
  | [] => rw [runElements, elementsWays, tryEach_singleton, waysText, recordAll, Cursor.advance_nil]
  | element :: rest =>
    rw [runElements, elementsWays, tryEach_flatMap, run_eq_tryEach element]
    -- What comes next is run for each way of the first part, from behind its text.
    refine tryEach_congr (fun way _ s => ?_) s
    rw [runElements_eq_tryEach rest, tryEach_map]
    refine tryEach_congr (fun ways _ s => ?_) s
    rw [waysText, Cursor.advance_append]
    rfl

theorem runAlternatives_eq_tryEach (n : Nat) (alternatives : List Alternative) (cur : Cursor)
    (split : Split) (next : Continue σ) (s : σ) :
    runAlternatives p alternatives cur split next s =
      tryEach (fun way s => next (cur.advance way.text) (way.record cur.offset split) s)
        (alternativesWays p cur n alternatives) s := by
  match alternatives with
  | [] => rfl
  | .mk mark elements :: rest =>
    rw [runAlternatives, alternativesWays, tryEach_append, tryEach_map,
      runElements_eq_tryEach elements]
    simp only [Way.text, Way.record]
    rcases tryEach _ (elementsWays p cur elements) s with ⟨_ | _, s'⟩
    · exact runAlternatives_eq_tryEach (n + 1) rest cur split next s'
    · rfl

end

end Run

end TriggerScript.Pattern
