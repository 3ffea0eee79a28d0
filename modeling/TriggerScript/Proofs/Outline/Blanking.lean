import TriggerScript.Proofs.Outline.Accounts

/-!
# Sources without the lines that were left out

A line that is left out can only end the heading above it, which then has no lines of its own. The
next line that fits would have ended it as well, so a source without these lines has the same nodes.

* `blankLines`, `blanked` : a source with nothing on some of its lines.
* `spelled_blankLines` : its lines.
* `Reader.unblamed`, `Reader.Spared` : a reader without errors, and one that never came to the lines
  that were left out.
* `Spared.readLine_fitting`, `Spared.readLine_left` : lines that fit are read alike, and the others
  make no difference.
* `readOutline_accounts_for_lines` : what becomes of the lines of a source.
-/

namespace TriggerScript

open Text Parsing

namespace Outline

/-! ### Blank lines -/

/-- A text with nothing on the lines with some numbers, where the first line has the given number.
The line ends stay. -/
def blankLines (numbers : List Nat) : Nat → List Char → List Char
  | _, [] => []
  | line, c :: rest =>
    if c = '\n' then c :: blankLines numbers (line + 1) rest
    else if line ∈ numbers then blankLines numbers line rest
    else c :: blankLines numbers line rest

/-- A source with nothing on the lines with some numbers. -/
def blanked (numbers : List Nat) (source : String) : String :=
  String.ofList (blankLines numbers 1 source.toList)

/-- Lines, of which those with some numbers are empty. -/
def silenced (numbers : List Nat) : Nat → List (List Char) → List (List Char)
  | _, [] => []
  | line, raw :: rest => (if line ∈ numbers then [] else raw) :: silenced numbers (line + 1) rest

theorem mem_silenced {numbers : List Nat} {line : Nat} {raws : List (List Char)} {raw : List Char}
    (h : raw ∈ silenced numbers line raws) : raw = [] ∨ raw ∈ raws := by
  induction raws generalizing line with
  | nil => cases h
  | cons first rest ih =>
    rcases List.mem_cons.1 h with rfl | h
    · split
      · exact .inl rfl
      · exact .inr List.mem_cons_self
    · exact (ih h).imp_right (List.mem_cons_of_mem first)

theorem not_mem_of_mem_linesAfter {start cs raw : List Char} (hstart : '\n' ∉ start)
    (h : raw ∈ linesAfter start cs) : '\n' ∉ raw := by
  fun_induction linesAfter start cs with
  | case1 start hempty => cases h
  | case2 start hne =>
    obtain rfl := List.mem_singleton.1 h
    simpa using hstart
  | case3 start rest ih =>
    rcases List.mem_cons.1 h with rfl | h
    · split
      · simpa using fun hmem => hstart (List.mem_cons_of_mem _ hmem)
      · simpa using hstart
    · exact ih (List.not_mem_nil) h
  | case4 start c rest hc ih =>
    refine ih ?_ h
    rw [List.mem_cons, not_or]
    exact ⟨fun heq => hc heq.symm, hstart⟩

/-- A text that is read from within a line spells its lines, also with some of them blank. -/
theorem spelled_blankLines (numbers : List Nat) (line : Nat) (start cs : List Char) :
    Spelled (silenced numbers line (linesAfter start cs))
      ((if line ∈ numbers then [] else start.reverse) ++ blankLines numbers line cs) := by
  fun_induction linesAfter start cs generalizing line with
  | case1 start hempty =>
    obtain rfl := List.isEmpty_iff.1 hempty
    simpa [silenced, blankLines] using Spelled.nil
  | case2 start hne =>
    rw [blankLines, List.append_nil]
    exact .last _
  | case3 start rest ih =>
    have hrest := ih (line + 1)
    rw [List.reverse_nil, ite_self, List.nil_append] at hrest
    rw [blankLines, if_pos rfl, silenced]
    split
    · exact .feed [] hrest
    · split
      · rw [List.reverse_cons, List.append_assoc]
        exact .returnFeed _ hrest
      · exact .feed _ hrest
  | case4 start c rest hc ih =>
    have hrest := ih line
    rw [blankLines, if_neg hc]
    split
    · next hmem => rwa [if_pos hmem] at hrest
    · next hmem =>
      rw [if_neg hmem, List.reverse_cons, List.append_assoc] at hrest
      exact hrest

theorem spelled_blanked (numbers : List Nat) (source : String) :
    Spelled (silenced numbers 1 (Text.lines source.toList)) (blanked numbers source).toList := by
  have hspelled := spelled_blankLines numbers 1 [] source.toList
  rwa [List.reverse_nil, ite_self, List.nil_append, ← String.toList_ofList (l := blankLines _ _ _)]
    at hspelled

end Outline

namespace Reader

open Outline

variable {r r' : Reader} {line : Nat} {indent raw : List Char}

/-! ### Without errors -/

/-- A reader that has left nothing out. -/
def unblamed (r : Reader) : Reader := { r with errors := [] }

theorem unblamed_put (r : Reader) (node : Node) : r.unblamed.put node = (r.put node).unblamed := by
  cases hlevels : r.levels <;> simp [put, unblamed, hlevels]

theorem unblamed_closePending (r : Reader) :
    r.unblamed.closePending = r.closePending.unblamed := by
  cases hpending : r.pending with
  | none => simp [closePending, unblamed, hpending]
  | some heading =>
    have hput := unblamed_put { r with pending := none } (.heading heading.1 heading.2 [])
    simpa [closePending, unblamed, hpending] using hput

theorem settle_of_pending {key : String} (h : r.pending = some (line, key)) (indent : List Char) :
    r.settle indent =
      if r.indent.isPrefixOf indent && r.indent.length < indent.length then
        { r with pending := none, levels := ⟨indent, line, key, []⟩ :: r.levels }
      else r.closePending := by
  simp only [settle, h]

theorem unblamed_settle (r : Reader) (indent : List Char) :
    r.unblamed.settle indent = (r.settle indent).unblamed := by
  cases hpending : r.pending with
  | none => simp [settle, unblamed, hpending]
  | some heading =>
    have hsame : r.unblamed.pending = some heading := hpending
    rw [settle_of_pending hsame, settle_of_pending hpending, unblamed_closePending,
      show r.unblamed.indent = r.indent from rfl]
    split <;> rfl

theorem unblamed_closeOne (r : Reader) : r.unblamed.closeOne = r.closeOne.unblamed := by
  cases hlevels : r.levels with
  | nil => simp [closeOne, unblamed, hlevels]
  | cons level outer =>
    have hput := unblamed_put { r with levels := outer } level.toNode
    simpa [closeOne, unblamed, hlevels] using hput

theorem unblamed_closeMany (n : Nat) (r : Reader) :
    closeMany n r.unblamed = (closeMany n r).unblamed := by
  induction n generalizing r with
  | zero => rfl
  | succ n ih => rw [closeMany, unblamed_closeOne, ih, closeMany]

theorem unblamed_add (r : Reader) (line : Nat) (content : List Char) :
    r.unblamed.add line content = (r.add line content).unblamed := by
  unfold add
  split
  · rfl
  · exact r.unblamed_put _

theorem arrive_unblamed (r : Reader) (indent : List Char) :
    r.unblamed.arrive indent = (r.arrive indent).map unblamed := by
  have hlevels : (r.settle indent).unblamed.levels = (r.settle indent).levels := rfl
  rw [arrive, arrive, unblamed_settle, hlevels, Option.map_map]
  exact Option.map_congr fun depth _ => unblamed_closeMany depth _

theorem finish_unblamed (r : Reader) : r.unblamed.finish = (r.finish.1, []) := by
  simp only [finish, unblamed_closePending]
  rw [show r.closePending.unblamed.levels = r.closePending.levels from rfl, unblamed_closeMany]
  rfl

/-! ### The heading just read -/

theorem awaiting_of_pending {key : String} (h : r.pending = some (line, key)) :
    { r with pending := none }.awaiting line key = r := by
  rw [awaiting, ← h]

/-- A heading just read ends with the next line that stands where a heading is open. -/
theorem sameAs_closePending (hnested : Nested r.levels) : r.SameAs r.closePending := by
  cases hpending : r.pending with
  | none =>
    rw [closePending, hpending]
    exact .refl r
  | some heading =>
    obtain ⟨line, key⟩ := heading
    constructor
    · intro indent hstation
      have hmap : r.closePending.levels.map Level.indent = r.levels.map Level.indent := by
        rw [closePending, hpending]
        exact map_indent_put _ _
      have hsettle : r.settle indent = r.closePending := by
        have hstay : ({ r with pending := none }.awaiting line key).settle indent =
            { r with pending := none }.put (.heading line key []) :=
          settle_awaiting_station rfl hnested (station_of_map_indent hmap hstation)
        rw [awaiting_of_pending hpending] at hstay
        rw [hstay, closePending, hpending]
      have hclosed : r.closePending.settle indent = r.closePending := by
        rw [settle, r.pending_closePending]
      rw [arrive, arrive, hsettle, hclosed]
    · have hclosed : r.closePending.closePending = r.closePending := by
        rw [closePending.eq_1 r.closePending, r.pending_closePending]
      simp only [finish, hclosed]

/-- A line that fits nowhere ends the heading just read. -/
theorem settle_of_arrive_eq_none (h : r.arrive indent = none) :
    r.settle indent = r.closePending := by
  rw [arrive_eq_none_iff] at h
  unfold settle at h ⊢
  split
  · next hpending => rw [closePending, hpending]
  · next line key hpending =>
    rw [hpending] at h
    split
    · next hdeeper => simp [hdeeper, depthOf?] at h
    · rfl

/-- A line that fits somewhere, if no heading was just read, stands where a heading is open. -/
theorem station_of_arrive (hpending : r.pending = none) (h : r.arrive indent = some r') :
    Station indent r.levels := by
  obtain ⟨depth, hdepth, -⟩ := Option.map_eq_some_iff.1 h
  have hsettle : r.settle indent = r := by rw [settle, hpending]
  rw [hsettle] at hdepth
  generalize r.levels = levels at hdepth
  induction levels generalizing depth with
  | nil =>
    rw [depthOf?] at hdepth
    split at hdepth
    · next hempty => exact .inl (List.isEmpty_iff.1 hempty)
    · cases hdepth
  | cons level outer ih =>
    rw [depthOf?] at hdepth
    split at hdepth
    · next heq => exact .inr ⟨level, List.mem_cons_self, beq_iff_eq.1 heq⟩
    · obtain ⟨n, hn, -⟩ := Option.map_eq_some_iff.1 hdepth
      exact (ih n hn).cons level

/-! ### Lines that were left out -/

/-- A reader `r'` is like `r`, but never came to the lines that `r` left out. -/
def Spared (r r' : Reader) : Prop :=
  r' = r.unblamed ∨ r.pending = none ∧ r'.SameAs r.unblamed

namespace Spared

theorem finish (h : r.Spared r') : r'.finish = (r.finish.1, []) := by
  rw [← finish_unblamed]
  rcases h with rfl | ⟨-, hsame⟩
  · rfl
  · exact hsame.finish

/-- A line that fits is read alike. -/
theorem readLine_fitting (h : r.Spared r') {arrived : Reader}
    (harrive : r.arrive (indentOf raw) = some arrived) (line : Nat) :
    r'.readLine line raw = (r.readLine line raw).unblamed ∨ contentOf raw = [] := by
  by_cases hblank : contentOf raw = []
  · exact .inr hblank
  have hunblamed : r.unblamed.arrive (indentOf raw) = some arrived.unblamed := by
    rw [arrive_unblamed, harrive, Option.map_some]
  have hsame : r'.arrive (indentOf raw) = some arrived.unblamed := by
    rcases h with rfl | ⟨hpending, hsame⟩
    · exact hunblamed
    · rw [hsame.arrive _ (station_of_arrive (r := r) hpending harrive), hunblamed]
  refine .inl ?_
  rw [readLine_eq, readLine_eq, if_neg hblank, if_neg hblank, harrive, hsame]
  exact arrived.unblamed_add line _

/-- A line that fits nowhere makes no difference. -/
theorem readLine_left (h : r.Spared r') (hnested : Nested r.levels)
    (harrive : r.arrive (indentOf raw) = none) (hne : contentOf raw ≠ []) (line : Nat) :
    (r.readLine line raw).Spared r' := by
  have hread : (r.readLine line raw).unblamed = r.closePending.unblamed := by
    rw [readLine_eq, if_neg hne, harrive, settle_of_arrive_eq_none harrive]
    rfl
  have hpending : (r.readLine line raw).pending = none := by
    rw [readLine_eq, if_neg hne, harrive]
    exact r.pending_settle _
  refine .inr ⟨hpending, ?_⟩
  rw [hread, ← unblamed_closePending]
  rcases h with rfl | ⟨hnone, hsame⟩
  · exact sameAs_closePending hnested
  · have hclosed : r.unblamed.closePending = r.unblamed := by
      rw [closePending, show r.unblamed.pending = none from hnone]
    rwa [hclosed]

end Spared

/-- **A reader that is spared the lines left out ends like one that came to them.** -/
theorem spared_readLines {lines : List (List Char × Nat)} {raws : List (List Char)}
    {numbers : List Nat} (h : r.Spared r') (hgrounded : r.Grounded lines)
    (hlines : ∀ entry ∈ raws.zipIdx line, entry ∈ lines) (hpast : ∀ n ∈ r.leftOut, n < line)
    (hnumbers : ∀ n, line ≤ n → (n ∈ numbers ↔ n ∈ (r.readLines line raws).leftOut)) :
    (r.readLines line raws).Spared (r'.readLines line (silenced numbers line raws)) := by
  induction raws generalizing r r' line with
  | nil => exact h
  | cons raw rest ih =>
    rw [List.zipIdx_cons] at hlines
    obtain ⟨hraw, hrest⟩ := List.forall_mem_cons.1 hlines
    obtain ⟨kept, left, hparted, -, hleft⟩ :=
      (r.readLine line raw).exists_parted_readLines (line + 1) rest
    have hlater : ∀ n ∈ left, line < n :=
      fun n hn => le_of_mem_counted (hparted.sublist_left.subset hn)
    rw [readLines, hleft] at hnumbers
    -- Whether the first line is one of those left out is told by the reader itself.
    have hfirst : line ∈ numbers ↔ line ∈ (r.readLine line raw).leftOut := by
      rw [hnumbers line (Nat.le_refl line), List.mem_append]
      exact or_iff_left fun hmem => Nat.lt_irrefl line (hlater line hmem)
    have hrec (hspared : (r.readLine line raw).Spared
        (r'.readLine line (if line ∈ numbers then [] else raw)))
        (hpast : ∀ n ∈ (r.readLine line raw).leftOut, n < line + 1) :
        (r.readLines line (raw :: rest)).Spared
          (r'.readLines line (silenced numbers line (raw :: rest))) := by
      refine ih hspared (hgrounded.readLine hraw) hrest hpast fun n hn => ?_
      rw [hnumbers n (by omega), hleft]
    have hnil (r : Reader) : r.readLine line [] = r := by
      rw [readLine_eq, if_pos (by simp [contentOf, stripComment, uncomment])]
    have hnot : line ∉ r.leftOut := fun hmem => Nat.lt_irrefl line (hpast line hmem)
    by_cases hblank : contentOf raw = []
    · have hsame : r.readLine line raw = r := by rw [readLine_eq, if_pos hblank]
      have hsame' : r'.readLine line raw = r' := by rw [readLine_eq, if_pos hblank]
      rw [hsame] at hfirst hrec
      rw [if_neg (hfirst.not.2 hnot), hsame'] at hrec
      exact hrec h fun n hn => Nat.lt_succ_of_lt (hpast n hn)
    · cases harrive : r.arrive (indentOf raw) with
      | some arrived =>
        have hkept : (r.readLine line raw).leftOut = r.leftOut := by
          rw [readLine_eq, if_neg hblank, harrive]
          simp only [leftOut, errors_add, (Reader.arrived harrive).errors]
        have hread := (h.readLine_fitting harrive line).resolve_right hblank
        rw [hkept] at hfirst hrec
        rw [if_neg (hfirst.not.2 hnot)] at hrec
        exact hrec (.inl hread) fun n hn => Nat.lt_succ_of_lt (hpast n hn)
      | none =>
        have hadded : (r.readLine line raw).leftOut = r.leftOut ++ [line] := by
          rw [readLine_eq, if_neg hblank, harrive]
          simp [leftOut]
        rw [hadded] at hfirst hrec
        rw [if_pos (hfirst.2 (by simp)), hnil] at hrec
        refine hrec (h.readLine_left hgrounded.levels.nested harrive hblank line) fun n hn => ?_
        rcases List.mem_append.1 hn with hn | hn
        · exact Nat.lt_succ_of_lt (hpast n hn)
        · exact Nat.lt_succ_of_le (Nat.le_of_eq (List.mem_singleton.1 hn))

end Reader

open Outline

/-- **What becomes of the lines of a source.** The lines that are not blank are those of the nodes,
in order, and those that are left out. Each node has the text of its line for a key, and the nodes
below a heading share one indentation, deeper than its own. Without the lines that are left out the
source has the same nodes, and nothing is left out. -/
theorem readOutline_accounts_for_lines (source : String) :
    let lines := Text.lines source.toList
    let nodes := (readOutline source).1
    let left := (readOutline source).2.map OutlineError.line
    (linesOf nodes ++ left).Perm (counted 1 lines) ∧ (linesOf nodes).Pairwise (· < ·) ∧
      left.Pairwise (· < ·) ∧ (∀ node ∈ nodes, Laid (lines.zipIdx 1) [] node) ∧
      readOutline (blanked left source) = (nodes, []) := by
  intro lines nodes left
  have hparted : Parted (counted 1 lines) (linesOf nodes) left := parted_readOutline source
  have hordered := pairwise_counted 1 lines
  have hgrounded := Reader.grounded_empty (lines.zipIdx 1)
  refine ⟨hparted.perm, hordered.sublist hparted.sublist_kept,
    hordered.sublist hparted.sublist_left, ?_, ?_⟩
  · exact (hgrounded.readLines fun entry hentry => hentry).finish
  · have hunbroken : ∀ raw ∈ silenced left 1 lines, '\n' ∉ raw := by
      intro raw hraw
      rcases mem_silenced hraw with rfl | hraw
      · exact List.not_mem_nil
      · exact not_mem_of_mem_linesAfter List.not_mem_nil hraw
    have hread := Reader.readLines_lines .empty 1 (spelled_blanked left source) hunbroken
    have hspared : Reader.empty.Spared .empty := .inl rfl
    have hnumbers (n : Nat) (_ : 1 ≤ n) :
        n ∈ left ↔ n ∈ (Reader.empty.readLines 1 lines).leftOut := by
      rw [← Reader.leftOut_finish]
      rfl
    have hend := Reader.spared_readLines hspared hgrounded (fun entry hentry => hentry)
      (by simp [Reader.leftOut, Reader.empty]) hnumbers
    rw [readOutline, hread]
    exact hend.finish

/-- A trigger with a line indented like nothing above it, which ends an empty section. -/
def strayLine : String :=
  "on load:\n    if x is 1:\n  stray # lost\n    stop\n"

/-- The nodes of this trigger. -/
def strayLineNodes : List Node :=
  [.heading 1 "on load" [.heading 2 "if x is 1" [], .entry 4 "stop"]]

theorem readOutline_accounts_for_lines_strayLine :
    (readOutline strayLine).1 = strayLineNodes ∧
      (readOutline strayLine).2.map OutlineError.line = [3] ∧
      linesOf strayLineNodes ++ [3] = [1, 2, 4, 3] ∧
      ([1, 2, 4, 3] : List Nat).Perm (counted 1 (Text.lines strayLine.toList)) ∧
      Laid ((Text.lines strayLine.toList).zipIdx 1) []
        (.heading 1 "on load" [.heading 2 "if x is 1" [], .entry 4 "stop"]) ∧
      readOutline "on load:\n    if x is 1:\n\n    stop\n" = (strayLineNodes, []) := by
  have hnodes : (readOutline strayLine).1 = strayLineNodes := by rfl
  have hleft : (readOutline strayLine).2.map OutlineError.line = [3] := by rfl
  obtain ⟨hperm, -, -, hlaid, hblanked⟩ := readOutline_accounts_for_lines strayLine
  simp only [hnodes, hleft] at hperm hlaid hblanked
  have hsource : blanked [3] strayLine = "on load:\n    if x is 1:\n\n    stop\n" := by rfl
  rw [hsource] at hblanked
  exact ⟨hnodes, hleft, rfl, hperm, hlaid _ List.mem_cons_self, hblanked⟩

end TriggerScript
