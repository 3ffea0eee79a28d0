import TriggerScript.Proofs.Outline.RoundTrip
import TriggerScript.Proofs.Parsing.Shares

/-!
# What becomes of each line

A line of a source either becomes a node or is left out. The reader keeps both in order, since an
open heading already holds its place before the nodes below it.

* `indentOf`, `contentOf`, `counted` : the parts of a line, and the lines that are not blank.
* `Laid` : a node stands in a source, with the nodes below it indented deeper and all alike.
* `Parted` : some numbers dealt out to two sides.
* `Reader.numbers` : the lines that a reader has made into nodes so far.
* `readLine_eq` : the three things that can become of a line.
* `Grounded.readLine`, `exists_parted_readLines` : what a line keeps, and the account of them all.
* `parted_readOutline` : the account of a whole source.
-/

namespace TriggerScript

open Text Parsing

namespace Outline

/-! ### Lines -/

/-- The indentation of a line. -/
def indentOf (raw : List Char) : List Char :=
  (stripComment raw).takeWhile isBlank

/-- What is left of a line without its comment and the blanks around it. -/
def contentOf (raw : List Char) : List Char :=
  trim (stripComment raw)

/-- The numbers of the lines that are not blank once comments are removed. -/
def counted (line : Nat) (raws : List (List Char)) : List Nat :=
  ((raws.zipIdx line).filter fun (raw, _) => !(contentOf raw).isEmpty).map Prod.snd

/-- A node stands in a source at an indentation: its key is the text of its line. The nodes below a
heading share one indentation, which is that of the heading and more. -/
inductive Laid (lines : List (List Char × Nat)) : List Char → Node → Prop where
  | entry {raw indent : List Char} {line : Nat} (hline : (raw, line) ∈ lines)
    (hindent : indentOf raw = indent) (hcolon : (contentOf raw).getLast? ≠ some ':') :
    Laid lines indent (.entry line (String.ofList (contentOf raw)))
  | heading {raw indent text below : List Char} {line : Nat} {children : List Node}
    (hline : (raw, line) ∈ lines) (hindent : indentOf raw = indent)
    (hcolon : contentOf raw = text ++ [':']) (hdeeper : indent <+: below) (hmore : indent ≠ below)
    (hchildren : ∀ child ∈ children, Laid lines below child) :
    Laid lines indent (.heading line (String.ofList (trimEnd text)) children)

/-- A line of a source is that of a heading. -/
def HeadedAt (lines : List (List Char × Nat)) (indent : List Char) (line : Nat) (key : String) :
    Prop :=
  ∃ raw text, (raw, line) ∈ lines ∧ indentOf raw = indent ∧ contentOf raw = text ++ [':'] ∧
    key = String.ofList (trimEnd text)

theorem HeadedAt.laid {lines : List (List Char × Nat)} {indent unit : List Char} {line : Nat}
    {key : String} {children : List Node} (h : HeadedAt lines indent line key) (hunit : unit ≠ [])
    (hchildren : ∀ child ∈ children, Laid lines (indent ++ unit) child) :
    Laid lines indent (.heading line key children) := by
  obtain ⟨raw, text, hline, hindent, hcolon, rfl⟩ := h
  exact .heading hline hindent hcolon (List.prefix_append _ _) (by simpa using hunit) hchildren

theorem counted_cons_blank {raw : List Char} (h : contentOf raw = []) (line : Nat)
    (rest : List (List Char)) : counted line (raw :: rest) = counted (line + 1) rest := by
  simp [counted, h]

theorem counted_cons {raw : List Char} (h : contentOf raw ≠ []) (line : Nat)
    (rest : List (List Char)) : counted line (raw :: rest) = line :: counted (line + 1) rest := by
  simp [counted, h]

theorem le_of_mem_counted {line n : Nat} {raws : List (List Char)} (h : n ∈ counted line raws) :
    line ≤ n := by
  obtain ⟨entry, hentry, rfl⟩ := List.mem_map.1 h
  exact (List.mem_zipIdx (List.mem_filter.1 hentry).1).1

/-- The counted lines are in order. -/
theorem pairwise_counted (line : Nat) (raws : List (List Char)) :
    (counted line raws).Pairwise (· < ·) := by
  induction raws generalizing line with
  | nil => exact .nil
  | cons raw rest ih =>
    by_cases hblank : contentOf raw = []
    · rw [counted_cons_blank hblank]
      exact ih (line + 1)
    · rw [counted_cons hblank]
      exact .cons (fun n hn => le_of_mem_counted hn) (ih (line + 1))

/-! ### Two sides -/

/-- Numbers dealt out to two sides, in order. -/
inductive Parted : List Nat → List Nat → List Nat → Prop where
  | nil : Parted [] [] []
  | kept (n : Nat) {all kept left : List Nat} (h : Parted all kept left) :
    Parted (n :: all) (n :: kept) left
  | left (n : Nat) {all kept left : List Nat} (h : Parted all kept left) :
    Parted (n :: all) kept (n :: left)

namespace Parted

variable {all kept left : List Nat}

theorem sublist_kept (h : Parted all kept left) : kept.Sublist all := by
  induction h with
  | nil => exact .slnil
  | kept n _ ih => exact ih.cons_cons n
  | left n _ ih => exact ih.cons n

theorem sublist_left (h : Parted all kept left) : left.Sublist all := by
  induction h with
  | nil => exact .slnil
  | kept n _ ih => exact ih.cons n
  | left n _ ih => exact ih.cons_cons n

/-- Nothing is lost and nothing comes twice. -/
theorem perm (h : Parted all kept left) : (kept ++ left).Perm all := by
  induction h with
  | nil => exact .nil
  | kept n _ ih => exact ih.cons n
  | left n _ ih => exact List.perm_middle.trans (ih.cons n)

end Parted

end Outline

namespace Reader

open Outline

variable {r r' : Reader} {line : Nat} {indent : List Char}

/-! ### One line -/

theorem arrive_eq_none_iff :
    r.arrive indent = none ↔ depthOf? indent (r.settle indent).levels = none :=
  Option.map_eq_none_iff

/-- **What becomes of a line:** nothing if it is blank, an error if its indentation fits nowhere,
and else it is added where it stands. -/
theorem readLine_eq (r : Reader) (line : Nat) (raw : List Char) :
    r.readLine line raw =
      if contentOf raw = [] then r
      else match r.arrive (indentOf raw) with
        | some r' => r'.add line (contentOf raw)
        | none =>
          let settled := r.settle (indentOf raw)
          { settled with errors := ⟨line, "indentation error: expected " ++
            describeIndent settled.indent ++ ", found " ++ describeIndent (indentOf raw)⟩ ::
              settled.errors } := by
  by_cases hblank : contentOf raw = []
  · simp [readLine, hblank, show trim (stripComment raw) = [] from hblank]
  · have hcontent : (trim (stripComment raw)).isEmpty = false := by simpa [contentOf] using hblank
    simp only [readLine, hcontent, hblank, Bool.false_eq_true, if_false, arrive, indentOf]
    generalize depthOf? _ (r.settle _).levels = found
    cases found with
    | none => rfl
    | some depth => rfl

/-! ### The lines that became nodes -/

/-- The lines of open headings and of the nodes that they hold, outermost heading first. -/
def levelNumbers : List Level → List Nat
  | [] => []
  | level :: outer => levelNumbers outer ++ level.line :: linesOf level.nodes.reverse

/-- The lines that have become nodes so far, in order. -/
def numbers (r : Reader) : List Nat :=
  linesOf r.top.reverse ++ levelNumbers r.levels ++ (r.pending.map Prod.fst).toList

theorem linesOf_append (nodes more : List Node) :
    linesOf (nodes ++ more) = linesOf nodes ++ linesOf more := by
  induction nodes with
  | nil => rfl
  | cons node rest ih => rw [List.cons_append, linesOf, linesOf, ih, List.append_assoc]

theorem numbers_put (hpending : r.pending = none) (node : Node) :
    (r.put node).numbers = r.numbers ++ linesOfNode node := by
  cases hlevels : r.levels <;>
    simp [put, numbers, hlevels, hpending, levelNumbers, linesOf_append, linesOf]

theorem numbers_closePending (r : Reader) : r.closePending.numbers = r.numbers := by
  cases hpending : r.pending with
  | none => simp [closePending, hpending]
  | some heading =>
    obtain ⟨line, key⟩ := heading
    rw [closePending, hpending]
    simp only
    rw [numbers_put rfl]
    simp [numbers, hpending, linesOfNode, linesOf]

theorem numbers_settle (r : Reader) (indent : List Char) :
    (r.settle indent).numbers = r.numbers := by
  unfold settle
  split
  · rfl
  · next line key hpending =>
    split
    · simp [numbers, hpending, levelNumbers, linesOf]
    · exact r.numbers_closePending

theorem pending_closePending (r : Reader) : r.closePending.pending = none := by
  unfold closePending
  split
  · exact pending_put _ _
  · assumption

theorem pending_settle (r : Reader) (indent : List Char) : (r.settle indent).pending = none := by
  unfold settle
  split
  · assumption
  · split
    · rfl
    · exact r.pending_closePending

theorem numbers_closeOne (hpending : r.pending = none) : r.closeOne.numbers = r.numbers := by
  cases hlevels : r.levels with
  | nil => simp [closeOne, hlevels]
  | cons level outer =>
    have hrest : { r with levels := outer }.pending = none := hpending
    rw [closeOne, hlevels]
    simp only
    rw [numbers_put hrest]
    simp [numbers, hlevels, hpending, levelNumbers, Level.toNode, linesOfNode]

theorem pending_closeOne (r : Reader) : r.closeOne.pending = r.pending := by
  unfold closeOne
  split
  · exact pending_put _ _
  · rfl

theorem numbers_closeMany (n : Nat) (hpending : r.pending = none) :
    (closeMany n r).numbers = r.numbers ∧ (closeMany n r).pending = none := by
  induction n generalizing r with
  | zero => exact ⟨rfl, hpending⟩
  | succ n ih =>
    have hclosed := ih (r.pending_closeOne.trans hpending)
    rw [numbers_closeOne hpending] at hclosed
    exact hclosed

theorem numbers_add (hpending : r.pending = none) (line : Nat) (content : List Char) :
    (r.add line content).numbers = r.numbers ++ [line] := by
  unfold add
  split
  · simp [numbers, hpending]
  · rw [numbers_put hpending, linesOfNode]

/-! ### Errors -/

@[simp] theorem errors_put (r : Reader) (node : Node) : (r.put node).errors = r.errors := by
  unfold put
  split <;> rfl

@[simp] theorem errors_closePending (r : Reader) : r.closePending.errors = r.errors := by
  unfold closePending
  split
  · exact errors_put _ _
  · rfl

@[simp] theorem errors_settle (r : Reader) (indent : List Char) :
    (r.settle indent).errors = r.errors := by
  unfold settle
  split
  · rfl
  · split
    · rfl
    · exact r.errors_closePending

@[simp] theorem errors_closeOne (r : Reader) : r.closeOne.errors = r.errors := by
  unfold closeOne
  split
  · exact errors_put _ _
  · rfl

@[simp] theorem errors_closeMany (n : Nat) (r : Reader) : (closeMany n r).errors = r.errors := by
  induction n generalizing r with
  | zero => rfl
  | succ n ih => rw [closeMany, ih, errors_closeOne]

@[simp] theorem errors_add (r : Reader) (line : Nat) (content : List Char) :
    (r.add line content).errors = r.errors := by
  unfold add
  split
  · rfl
  · exact errors_put _ _

/-! ### Where nodes stand -/

/-- Open headings with their nodes stand in a source, each deeper than the one around it. -/
inductive LevelsLaid (lines : List (List Char × Nat)) : List Level → Prop where
  | nil : LevelsLaid lines []
  | cons {level : Level} {outer : List Level} {unit : List Char}
    (hheaded : HeadedAt lines (innermost outer) level.line level.key)
    (hindent : level.indent = innermost outer ++ unit) (hunit : unit ≠ [])
    (hnodes : ∀ node ∈ level.nodes, Laid lines level.indent node) (h : LevelsLaid lines outer) :
    LevelsLaid lines (level :: outer)

theorem LevelsLaid.nested {lines : List (List Char × Nat)} {levels : List Level}
    (h : LevelsLaid lines levels) : Nested levels := by
  induction h with
  | nil => exact .nil
  | cons _ hindent hunit _ _ ih => exact .cons hindent hunit ih

/-- All that a reader holds stands in a source. -/
structure Grounded (lines : List (List Char × Nat)) (r : Reader) : Prop where
  top : ∀ node ∈ r.top, Laid lines [] node
  levels : LevelsLaid lines r.levels
  pending : ∀ line key, r.pending = some (line, key) →
    HeadedAt lines (innermost r.levels) line key

theorem grounded_empty (lines : List (List Char × Nat)) : empty.Grounded lines :=
  ⟨List.forall_mem_nil _, .nil, nofun⟩

namespace Grounded

variable {lines : List (List Char × Nat)}

theorem put (h : r.Grounded lines) {node : Node} (hnode : Laid lines (innermost r.levels) node) :
    (r.put node).Grounded lines := by
  cases hlevels : r.levels with
  | nil =>
    rw [hlevels] at hnode
    have htop : ∀ n ∈ node :: r.top, Laid lines [] n := List.forall_mem_cons.2 ⟨hnode, h.top⟩
    have hput : r.put node = { r with top := node :: r.top } := by simp [Reader.put, hlevels]
    rw [hput]
    exact ⟨htop, h.levels, h.pending⟩
  | cons level outer =>
    rw [hlevels] at hnode
    have hput : r.put node =
        { r with levels := { level with nodes := node :: level.nodes } :: outer } := by
      simp [Reader.put, hlevels]
    have hlaid := h.levels
    rw [hlevels] at hlaid
    have hpending := h.pending
    rw [hlevels] at hpending
    cases hlaid with
    | cons hheaded hindent hunit hnodes houter =>
      rw [hput]
      exact ⟨h.top, .cons hheaded hindent hunit (List.forall_mem_cons.2 ⟨hnode, hnodes⟩) houter,
        hpending⟩

theorem closePending (h : r.Grounded lines) : r.closePending.Grounded lines := by
  cases hpending : r.pending with
  | none => simpa [Reader.closePending, hpending] using h
  | some heading =>
    obtain ⟨line, key⟩ := heading
    have hnone : { r with pending := none }.Grounded lines := by
      refine ⟨h.top, h.levels, ?_⟩
      intro line key hsome
      cases hsome
    have hheaded := h.pending line key hpending
    have hnode : Laid lines (innermost r.levels) (.heading line key []) :=
      hheaded.laid (List.cons_ne_nil ' ' []) (List.forall_mem_nil _)
    simpa [Reader.closePending, hpending] using hnone.put hnode

theorem settle (h : r.Grounded lines) (indent : List Char) : (r.settle indent).Grounded lines := by
  unfold Reader.settle
  split
  · exact h
  · next line key hpending =>
    split
    · next hdeeper =>
      rw [Bool.and_eq_true, List.isPrefixOf_iff_prefix, decide_eq_true_eq,
        indent_eq_innermost] at hdeeper
      obtain ⟨⟨unit, rfl⟩, hlonger⟩ := hdeeper
      have hunit : unit ≠ [] := by
        rintro rfl
        simp at hlonger
      exact ⟨h.top, .cons (h.pending line key hpending) rfl hunit (List.forall_mem_nil _) h.levels,
        nofun⟩
    · exact h.closePending

theorem closeOne (h : r.Grounded lines) (hpending : r.pending = none) :
    r.closeOne.Grounded lines := by
  cases hlevels : r.levels with
  | nil => simpa [Reader.closeOne, hlevels] using h
  | cons level outer =>
    have hlaid := h.levels
    rw [hlevels] at hlaid
    cases hlaid with
    | cons hheaded hindent hunit hnodes houter =>
      have hrest : { r with levels := outer }.Grounded lines :=
        ⟨h.top, houter, fun line key hsome => nomatch hpending.symm.trans hsome⟩
      have hnode : Laid lines (innermost outer) level.toNode :=
        hheaded.laid hunit fun child hchild => hindent ▸ hnodes child (List.mem_reverse.1 hchild)
      simpa [Reader.closeOne, hlevels] using hrest.put hnode

theorem closeMany (h : r.Grounded lines) (hpending : r.pending = none) (n : Nat) :
    (closeMany n r).Grounded lines := by
  induction n generalizing r with
  | zero => exact h
  | succ n ih => exact ih (h.closeOne hpending) (r.pending_closeOne.trans hpending)

end Grounded

theorem map_indent_closeOne (r : Reader) :
    r.closeOne.levels.map Level.indent = (r.levels.map Level.indent).tail := by
  cases hlevels : r.levels with
  | nil => simp [closeOne, hlevels]
  | cons level outer =>
    rw [closeOne, hlevels]
    exact map_indent_put _ _

/-- A line goes where the headings around it have its indentation. -/
theorem innermost_closeMany {depth : Nat} (h : depthOf? indent r.levels = some depth) :
    innermost (closeMany depth r).levels = indent := by
  induction depth generalizing r with
  | zero =>
    cases hlevels : r.levels with
    | nil =>
      rw [hlevels, depthOf?] at h
      split at h
      · next hempty => simpa [closeMany, hlevels, innermost] using hempty.symm
      · cases h
    | cons level outer =>
      rw [hlevels, depthOf?] at h
      split at h
      · next heq => simpa [closeMany, hlevels, innermost] using heq
      · obtain ⟨_, _, hzero⟩ := Option.map_eq_some_iff.1 h
        cases hzero
  | succ depth ih =>
    refine ih ?_
    cases hlevels : r.levels with
    | nil =>
      rw [hlevels, depthOf?] at h
      split at h <;> cases h
    | cons level outer =>
      rw [hlevels, depthOf?] at h
      split at h
      · cases h
      · obtain ⟨n, hn, hsucc⟩ := Option.map_eq_some_iff.1 h
        obtain rfl : n = depth := Nat.succ.inj hsucc
        have hmap := r.map_indent_closeOne
        rw [hlevels, List.map_cons, List.tail_cons] at hmap
        rwa [depthOf?_eq_of_map_indent indent hmap]

/-- What a reader is like once a line has arrived. -/
structure Arrived (r r' : Reader) (indent : List Char) : Prop where
  pending : r'.pending = none
  innermost : innermost r'.levels = indent
  numbers : r'.numbers = r.numbers
  errors : r'.errors = r.errors

theorem arrived (h : r.arrive indent = some r') : r.Arrived r' indent := by
  obtain ⟨depth, hdepth, rfl⟩ := Option.map_eq_some_iff.1 h
  obtain ⟨hnumbers, hpending⟩ := numbers_closeMany depth (r.pending_settle indent)
  exact ⟨hpending, innermost_closeMany hdepth, hnumbers.trans (r.numbers_settle indent), by simp⟩

namespace Grounded

variable {lines : List (List Char × Nat)}

theorem arrive (h : r.Grounded lines) (harrive : r.arrive indent = some r') :
    r'.Grounded lines := by
  obtain ⟨depth, -, rfl⟩ := Option.map_eq_some_iff.1 harrive
  exact (h.settle indent).closeMany (r.pending_settle indent) depth

/-- A line is added where lines with its indentation stand. -/
theorem add {raw : List Char} (h : r.Grounded lines) (hline : (raw, line) ∈ lines)
    (hindent : innermost r.levels = indentOf raw) :
    (r.add line (contentOf raw)).Grounded lines := by
  by_cases hcolon : (contentOf raw).getLast? = some ':'
  · obtain ⟨text, htext⟩ := List.getLast?_eq_some_iff.1 hcolon
    have hadd : r.add line (contentOf raw) =
        { r with pending := some (line, String.ofList (trimEnd text)) } := by
      simp only [Reader.add, htext, before?_concat]
    rw [hadd]
    refine ⟨h.top, h.levels, ?_⟩
    rintro _ _ ⟨⟩
    exact ⟨raw, text, hline, hindent.symm, htext, rfl⟩
  · rw [add_entry hcolon]
    exact h.put (.entry hline hindent.symm hcolon)

theorem withErrors (h : r.Grounded lines) (errors : List OutlineError) :
    { r with errors }.Grounded lines :=
  ⟨h.top, h.levels, h.pending⟩

/-- **What a reader holds stands in the source, and a line keeps that.** -/
theorem readLine {raw : List Char} (h : r.Grounded lines) (hline : (raw, line) ∈ lines) :
    (r.readLine line raw).Grounded lines := by
  rw [readLine_eq]
  split
  · exact h
  · split
    · next r' harrive =>
      exact (h.arrive harrive).add hline (arrived harrive).innermost
    · exact (h.settle _).withErrors _

theorem readLines {raws : List (List Char)} (h : r.Grounded lines)
    (hlines : ∀ entry ∈ raws.zipIdx line, entry ∈ lines) :
    (r.readLines line raws).Grounded lines := by
  induction raws generalizing r line with
  | nil => exact h
  | cons raw rest ih =>
    rw [List.zipIdx_cons] at hlines
    obtain ⟨hraw, hrest⟩ := List.forall_mem_cons.1 hlines
    exact ih (h.readLine hraw) hrest

end Grounded

/-! ### The account -/

/-- The lines that were left out so far, in order. -/
def leftOut (r : Reader) : List Nat :=
  (r.errors.reverse).map OutlineError.line

/-- A line that is not blank becomes a node or is left out. -/
theorem account_readLine (r : Reader) (line : Nat) {raw : List Char} (hne : contentOf raw ≠ []) :
    (r.readLine line raw).numbers = r.numbers ++ [line] ∧
        (r.readLine line raw).leftOut = r.leftOut ∨
      (r.readLine line raw).numbers = r.numbers ∧
        (r.readLine line raw).leftOut = r.leftOut ++ [line] := by
  rw [readLine_eq, if_neg hne]
  cases harrive : r.arrive (indentOf raw) with
  | some r' =>
    obtain ⟨hpending, -, hnumbers, herrors⟩ := arrived harrive
    refine .inl ⟨?_, ?_⟩
    · rw [numbers_add hpending, hnumbers]
    · simp only [leftOut, errors_add, herrors]
  | none =>
    refine .inr ⟨r.numbers_settle (indentOf raw), ?_⟩
    simp [leftOut]

/-- **The account of all lines:** those that are not blank are dealt out to the nodes and to the
errors. -/
theorem exists_parted_readLines (r : Reader) (line : Nat) (raws : List (List Char)) :
    ∃ kept left, Parted (counted line raws) kept left ∧
      (r.readLines line raws).numbers = r.numbers ++ kept ∧
      (r.readLines line raws).leftOut = r.leftOut ++ left := by
  induction raws generalizing r line with
  | nil => exact ⟨[], [], .nil, by simp [readLines]⟩
  | cons raw rest ih =>
    obtain ⟨kept, left, hparted, hnumbers, hleft⟩ := ih (r.readLine line raw) (line + 1)
    by_cases hblank : contentOf raw = []
    · rw [counted_cons_blank hblank]
      rw [readLine_eq, if_pos hblank] at hnumbers hleft
      refine ⟨kept, left, hparted, ?_, ?_⟩
      · rwa [readLines, readLine_eq, if_pos hblank]
      · rwa [readLines, readLine_eq, if_pos hblank]
    · rw [counted_cons hblank, readLines, hnumbers, hleft]
      rcases r.account_readLine line hblank with ⟨hnode, herror⟩ | ⟨hnode, herror⟩
      · exact ⟨_, _, hparted.kept line, by simp [hnode], by simp [herror]⟩
      · exact ⟨_, _, hparted.left line, by simp [hnode], by simp [herror]⟩

theorem levels_closeMany (r : Reader) : (closeMany r.levels.length r).levels = [] := by
  generalize hn : r.levels.length = n
  induction n generalizing r with
  | zero => exact List.eq_nil_of_length_eq_zero hn
  | succ n ih =>
    have hlength := congrArg List.length r.map_indent_closeOne
    rw [List.length_tail, List.length_map, List.length_map, hn] at hlength
    exact ih r.closeOne hlength

/-- At the end the nodes at the top hold all lines that became nodes. -/
theorem linesOf_finish (r : Reader) : linesOf r.finish.1 = r.numbers := by
  obtain ⟨hnumbers, hpending⟩ :=
    numbers_closeMany r.closePending.levels.length r.pending_closePending
  rw [numbers_closePending] at hnumbers
  rw [← hnumbers, numbers, hpending, levels_closeMany]
  simp [finish, levelNumbers]

theorem leftOut_finish (r : Reader) : r.finish.2.map OutlineError.line = r.leftOut := by
  simp [finish, leftOut]

theorem Grounded.finish {lines : List (List Char × Nat)} (h : r.Grounded lines) :
    ∀ node ∈ r.finish.1, Laid lines [] node := by
  intro node hnode
  have hclosed := h.closePending.closeMany r.pending_closePending r.closePending.levels.length
  exact hclosed.top node (List.mem_reverse.1 hnode)

end Reader

open Outline

/-- The lines of a source that are not blank, dealt out to nodes and errors. -/
theorem parted_readOutline (source : String) :
    Parted (counted 1 (Text.lines source.toList)) (linesOf (readOutline source).1)
      ((readOutline source).2.map OutlineError.line) := by
  obtain ⟨kept, left, hparted, hnumbers, hleft⟩ :=
    Reader.empty.exists_parted_readLines 1 (Text.lines source.toList)
  have hkept : linesOf (readOutline source).1 = kept := (Reader.linesOf_finish _).trans hnumbers
  have hout : (readOutline source).2.map OutlineError.line = left :=
    (Reader.leftOut_finish _).trans hleft
  rwa [hkept, hout]

end TriggerScript
