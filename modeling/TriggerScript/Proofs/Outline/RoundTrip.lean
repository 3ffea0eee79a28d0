import TriggerScript.Proofs.Outline.Written

/-!
# Reading what was written

A heading that ends is put away only when a line comes that does not stand below it. So the reader
is compared with one that has already put it away: both do the same with every line that can come
next, and at the end.

* `Reader.arrive`, `Reader.add` : what a line does by its indentation, and by its text.
* `Nested` : the indentations of the open headings, each longer than those around it.
* `Reader.SameAs` : the same with every line that can come.
* `sameAs_written` : after lines that were written, the reader has the nodes that they hold.
* `readOutline_of_written` : reading gives the outline that was written.
-/

namespace TriggerScript

open Outline Text

namespace Reader

/-! ### One line -/

/-- Goes where lines with an indentation stand, if there are such. -/
def arrive (r : Reader) (indent : List Char) : Option Reader :=
  (depthOf? indent (r.settle indent).levels).map fun depth => closeMany depth (r.settle indent)

/-- Adds a line by its text. -/
def add (r : Reader) (line : Nat) (content : List Char) : Reader :=
  match Text.before? [':'] content with
  | some key => { r with pending := some (line, String.ofList (Text.trimEnd key)) }
  | none => r.put (.entry line (String.ofList content))

variable {r r' : Reader} {line : Nat}

theorem readLine_eq_add {indent content raw : List Char}
    (hstrip : stripComment raw = indent ++ content) (hindent : ∀ c ∈ indent, isBlank c)
    (hne : content ≠ []) (hfirst : ∀ c ∈ content.head?, isBlank c = false)
    (hlast : ∀ c ∈ content.getLast?, isBlank c = false) (harrive : r.arrive indent = some r') :
    r.readLine line raw = r'.add line content := by
  obtain ⟨depth, hdepth, rfl⟩ := Option.map_eq_some_iff.1 harrive
  have hempty : content.isEmpty = false := by simpa using hne
  cases hkey : Text.before? [':'] content <;>
    simp [readLine, hstrip, trim_append_of_blank hindent hfirst hlast, hempty,
      takeWhile_isBlank_append hindent hfirst, hdepth, add, hkey]

theorem readLine_idle {raw : List Char} (h : Idle raw) : r.readLine line raw = r := by
  simp [readLine, stripComment_idle h]

/-- A line counts by what its comment leaves of it. -/
theorem readLine_congr {raw raw' : List Char} (h : stripComment raw = stripComment raw') :
    r.readLine line raw = r.readLine line raw' := by
  simp only [readLine, h]

theorem before?_concat (c : Char) (cs : List Char) : before? [c] (cs ++ [c]) = some cs := by
  simp [before?, after?]

theorem before?_eq_none {c : Char} {cs : List Char} (h : cs.getLast? ≠ some c) :
    before? [c] cs = none := by
  have hhead : cs.reverse.head? ≠ some c := by rwa [List.head?_reverse]
  cases hcs : cs.reverse with
  | nil => simp [before?, after?, hcs]
  | cons d rest =>
    have hne : (c == d) = false := beq_eq_false_iff_ne.2 fun h => hhead (by simp [hcs, h])
    simp [before?, after?, hcs, List.isPrefixOf, hne]

theorem add_heading {key : List Char} (hkey : PlainKey key) :
    r.add line (key ++ [':']) = { r with pending := some (line, String.ofList key) } := by
  simp only [add, before?_concat, trimEnd_of_last hkey.last]

theorem add_entry {key : List Char} (hcolon : key.getLast? ≠ some ':') :
    r.add line key = r.put (.entry line (String.ofList key)) := by
  simp only [add, before?_eq_none hcolon]

/-! ### Open headings -/

/-- The indentation of the innermost of some open headings. -/
def innermost : List Level → List Char
  | [] => []
  | level :: _ => level.indent

/-- Each open heading, innermost first, has the indentation of the one around it and some more. -/
inductive Nested : List Level → Prop where
  | nil : Nested []
  | cons {level : Level} {outer : List Level} {unit : List Char}
    (hindent : level.indent = innermost outer ++ unit) (hunit : unit ≠ []) (h : Nested outer) :
    Nested (level :: outer)

/-- An indentation that lines can have where some headings are open. -/
def Station (indent : List Char) (levels : List Level) : Prop :=
  indent = [] ∨ ∃ level ∈ levels, level.indent = indent

theorem station_innermost (levels : List Level) : Station (innermost levels) levels := by
  cases levels with
  | nil => exact .inl rfl
  | cons level outer => exact .inr ⟨level, List.mem_cons_self, rfl⟩

theorem Station.cons {indent : List Char} {levels : List Level} (h : Station indent levels)
    (level : Level) : Station indent (level :: levels) :=
  h.imp_right fun ⟨l, hl, heq⟩ => ⟨l, List.mem_cons_of_mem _ hl, heq⟩

theorem Station.length_le {indent : List Char} {levels : List Level} (hnested : Nested levels)
    (h : Station indent levels) : indent.length ≤ (innermost levels).length := by
  induction hnested with
  | nil =>
    obtain rfl | ⟨_, hl, _⟩ := h
    · exact Nat.le_refl _
    · cases hl
  | @cons level outer unit hindent hunit hnested ih =>
    have hlength : (innermost outer).length ≤ level.indent.length := by simp [hindent]
    obtain rfl | ⟨l, hl, rfl⟩ := h
    · exact Nat.zero_le _
    · obtain rfl | hl := List.mem_cons.1 hl
      · exact Nat.le_refl _
      · exact Nat.le_trans (ih (.inr ⟨l, hl, rfl⟩)) hlength

theorem depthOf?_innermost (levels : List Level) : depthOf? (innermost levels) levels = some 0 := by
  cases levels <;> simp [depthOf?, innermost]

/-- A line that fits outside the innermost heading ends it. -/
theorem depthOf?_cons {indent : List Char} {level : Level} {outer : List Level}
    (hnested : Nested (level :: outer)) (h : Station indent outer) :
    depthOf? indent (level :: outer) = (depthOf? indent outer).map (· + 1) := by
  cases hnested with
  | @cons _ _ unit hindent hunit hnested =>
    have hlength : indent.length < level.indent.length := by
      have hle := h.length_le hnested
      have hpos := List.length_pos_iff.2 hunit
      rw [hindent, List.length_append]
      omega
    have hne : (level.indent == indent) = false :=
      beq_eq_false_iff_ne.2 fun heq => absurd (congrArg List.length heq) (Nat.ne_of_gt hlength)
    simp [depthOf?, hne]

/-! ### Adding nodes -/

@[simp] theorem pending_put (r : Reader) (node : Node) : (r.put node).pending = r.pending := by
  unfold put
  split <;> rfl

/-- A node changes no indentation. -/
theorem map_indent_put (r : Reader) (node : Node) :
    (r.put node).levels.map Level.indent = r.levels.map Level.indent := by
  unfold put
  split
  · next h => simp [h]
  · rfl

theorem length_levels_put (r : Reader) (node : Node) :
    (r.put node).levels.length = r.levels.length := by
  simpa using congrArg List.length (r.map_indent_put node)

theorem depthOf?_eq_of_map_indent {levels levels' : List Level} (indent : List Char)
    (h : levels.map Level.indent = levels'.map Level.indent) :
    depthOf? indent levels = depthOf? indent levels' := by
  induction levels generalizing levels' with
  | nil =>
    obtain rfl : levels' = [] := by simpa using h.symm
    rfl
  | cons level outer ih =>
    cases levels' with
    | nil => simp at h
    | cons level' outer' =>
      obtain ⟨hlevel, houter⟩ := List.cons.inj h
      simp [depthOf?, hlevel, ih houter]

theorem innermost_eq_of_map_indent {levels levels' : List Level}
    (h : levels.map Level.indent = levels'.map Level.indent) :
    innermost levels = innermost levels' := by
  cases levels with
  | nil =>
    obtain rfl : levels' = [] := by simpa using h.symm
    rfl
  | cons level outer =>
    cases levels' with
    | nil => simp at h
    | cons level' outer' => exact (List.cons.inj h).1

theorem nested_of_map_indent {levels levels' : List Level} (hnested : Nested levels')
    (h : levels.map Level.indent = levels'.map Level.indent) : Nested levels := by
  induction hnested generalizing levels with
  | nil =>
    obtain rfl : levels = [] := by simpa using h
    exact .nil
  | @cons level' outer' unit hindent hunit hnested ih =>
    cases levels with
    | nil => simp at h
    | cons level outer =>
      obtain ⟨hlevel, houter⟩ := List.cons.inj h
      exact .cons (by rw [hlevel, hindent, innermost_eq_of_map_indent houter]) hunit (ih houter)

theorem station_of_map_indent {indent : List Char} {levels levels' : List Level}
    (h : levels.map Level.indent = levels'.map Level.indent) (hs : Station indent levels) :
    Station indent levels' := by
  refine hs.imp_right fun ⟨l, hl, heq⟩ => ?_
  have hmem : indent ∈ levels'.map Level.indent := h ▸ heq ▸ List.mem_map_of_mem hl
  obtain ⟨l', hl', heq'⟩ := List.mem_map.1 hmem
  exact ⟨l', hl', heq'⟩

/-- Adds some nodes. -/
def putAll (r : Reader) (nodes : List Node) : Reader :=
  nodes.foldl put r

@[simp] theorem putAll_nil (r : Reader) : r.putAll [] = r := rfl

@[simp] theorem putAll_cons (r : Reader) (node : Node) (nodes : List Node) :
    r.putAll (node :: nodes) = (r.put node).putAll nodes := rfl

/-- A reader in which one more heading is open. -/
def opened (r : Reader) (level : Level) : Reader := { r with levels := level :: r.levels }

theorem putAll_opened (r : Reader) (level : Level) (nodes : List Node) :
    (r.opened level).putAll nodes =
      r.opened { level with nodes := nodes.reverse ++ level.nodes } := by
  induction nodes generalizing level with
  | nil => rfl
  | cons node nodes ih =>
    have hput : (r.opened level).put node = r.opened { level with nodes := node :: level.nodes } :=
      rfl
    rw [putAll_cons, hput, ih]
    simp

/-! ### The same with every line -/

/-- Two readers do the same with every line that can come where the headings of the second are
open, and at the end. -/
structure SameAs (r r' : Reader) : Prop where
  arrive : ∀ indent, Station indent r'.levels → r.arrive indent = r'.arrive indent
  finish : r.finish = r'.finish

theorem SameAs.refl (r : Reader) : r.SameAs r := ⟨fun _ _ => rfl, rfl⟩

/-- A line where the innermost heading stands ends nothing. -/
theorem arrive_innermost (hpending : r.pending = none) :
    r.arrive (innermost r.levels) = some r := by
  rw [arrive, settle, hpending]
  simp [depthOf?_innermost, closeMany]

/-- An open heading is the same as one that has been put away, for lines outside it. -/
theorem arrive_opened {level : Level} {indent : List Char} (hpending : r.pending = none)
    (hnested : Nested (level :: r.levels)) (h : Station indent r.levels) :
    (r.opened level).arrive indent = (r.put level.toNode).arrive indent := by
  have hopened : (r.opened level).settle indent = r.opened level := by
    simp [settle, opened, hpending]
  have hput : (r.put level.toNode).settle indent = r.put level.toNode := by
    simp [settle, hpending]
  have hdepth : depthOf? indent (r.put level.toNode).levels = depthOf? indent r.levels :=
    depthOf?_eq_of_map_indent indent (r.map_indent_put _)
  have hone : (r.opened level).closeOne = r.put level.toNode := rfl
  rw [arrive, arrive, hopened, hput, hdepth]
  simp only [opened, depthOf?_cons hnested h, Option.map_map]
  rfl

theorem finish_opened (level : Level) (hpending : r.pending = none) :
    (r.opened level).finish = (r.put level.toNode).finish := by
  have hopened : (r.opened level).closePending = r.opened level := by
    simp [closePending, opened, hpending]
  have hput : (r.put level.toNode).closePending = r.put level.toNode := by
    simp [closePending, hpending]
  simp only [finish, hopened, hput, length_levels_put]
  rfl

theorem indent_eq_innermost (r : Reader) : r.indent = innermost r.levels := by
  unfold indent innermost
  split <;> simp [*]

/-- A reader that has just read a heading. -/
def awaiting (r : Reader) (line : Nat) (key : String) : Reader :=
  { r with pending := some (line, key) }

section Awaiting

variable {key : String} {indent unit : List Char}

theorem closePending_awaiting (hpending : r.pending = none) :
    (r.awaiting line key).closePending = r.put (.heading line key []) := by
  cases r
  cases hpending
  rfl

theorem settle_awaiting_deeper (hpending : r.pending = none) (hunit : unit ≠ []) :
    (r.awaiting line key).settle (innermost r.levels ++ unit) =
      r.opened ⟨innermost r.levels ++ unit, line, key, []⟩ := by
  have hindent : (r.awaiting line key).indent = innermost r.levels := r.indent_eq_innermost
  have hpart : (innermost r.levels).isPrefixOf (innermost r.levels ++ unit) = true :=
    List.isPrefixOf_iff_prefix.2 (List.prefix_append _ _)
  have hlonger : (innermost r.levels).length < (innermost r.levels ++ unit).length := by
    have hpos := List.length_pos_iff.2 hunit
    rw [List.length_append]
    omega
  simp only [settle, hindent, hpart, hlonger]
  cases r
  cases hpending
  rfl

theorem settle_awaiting_station (hpending : r.pending = none) (hnested : Nested r.levels)
    (h : Station indent r.levels) :
    (r.awaiting line key).settle indent = r.put (.heading line key []) := by
  have hindent : (r.awaiting line key).indent = innermost r.levels := r.indent_eq_innermost
  have hshort : ¬(innermost r.levels).length < indent.length := Nat.not_lt.2 (h.length_le hnested)
  simp only [settle, hindent, hshort, decide_false, Bool.and_false]
  exact closePending_awaiting hpending

/-- A heading just read is the same as an open one without nodes, whatever its lines will be
indented by. -/
theorem sameAs_awaiting (line : Nat) (key : String) (hpending : r.pending = none)
    (hnested : Nested r.levels)
    (hunit : unit ≠ []) :
    (r.awaiting line key).SameAs (r.opened ⟨innermost r.levels ++ unit, line, key, []⟩) := by
  have hopened : Nested (⟨innermost r.levels ++ unit, line, key, []⟩ :: r.levels) :=
    .cons rfl hunit hnested
  have hsame {indent : List Char} (h : Station indent r.levels) :
      (r.awaiting line key).arrive indent =
        (r.opened ⟨innermost r.levels ++ unit, line, key, []⟩).arrive indent := by
    rw [arrive_opened hpending hopened h, arrive, arrive,
      settle_awaiting_station hpending hnested h]
    simp [settle, hpending, Level.toNode]
  constructor
  · intro indent hindent
    obtain hnil | ⟨level, hlevel, rfl⟩ := hindent
    · exact hsame (.inl hnil)
    · obtain rfl | hlevel := List.mem_cons.1 hlevel
      · rw [arrive, settle_awaiting_deeper hpending hunit]
        simp [arrive, settle, opened, hpending]
      · exact hsame (.inr ⟨level, hlevel, rfl⟩)
  · rw [finish_opened _ hpending]
    simp only [finish, closePending_awaiting hpending]
    simp [closePending, hpending, Level.toNode]

end Awaiting

/-! ### Written lines -/

theorem SameAs.trans_opened {level : Level} (hpending : r.pending = none)
    (hnested : Nested (level :: r.levels)) {r' : Reader} (h : r'.SameAs (r.opened level)) :
    r'.SameAs (r.put level.toNode) where
  arrive indent hindent := by
    have hindent : Station indent r.levels := station_of_map_indent (r.map_indent_put _) hindent
    rw [h.arrive indent (hindent.cons level), arrive_opened hpending hnested hindent]
  finish := h.finish.trans (finish_opened level hpending)

theorem readLines_append (r : Reader) (line : Nat) (lines more : List (List Char)) :
    r.readLines line (lines ++ more) =
      (r.readLines line lines).readLines (line + lines.length) more := by
  induction lines generalizing r line with
  | nil => rfl
  | cons raw lines ih =>
    rw [List.cons_append, readLines, ih, readLines, List.length_cons, Nat.add_assoc,
      Nat.add_comm 1]

/-- A line that stands where the innermost heading has its nodes. -/
theorem readLine_written (line : Nat) {indent key mark remark : List Char} (hkey : PlainKey key)
    (hmark : mark = [] ∨ mark = [':']) (hremark : Remark remark) (hblanks : Blanks indent)
    (hpending : r.pending = none) (hindent : innermost r.levels = indent) (hsame : r'.SameAs r) :
    r'.readLine line (indent ++ doubled key ++ mark ++ remark) = r.add line (key ++ mark) := by
  obtain ⟨c, rest, rfl⟩ := List.exists_cons_of_ne_nil hkey.nonempty
  have hfirst : ∀ d ∈ (c :: rest ++ mark).head?, isBlank d = false := hkey.first
  have hlast : ∀ d ∈ (c :: rest ++ mark).getLast?, isBlank d = false := by
    obtain rfl | rfl := hmark
    · simpa using hkey.last
    · rw [List.getLast?_concat]
      rintro d ⟨rfl⟩
      rfl
  have hunmarked : '#' ∉ mark := by obtain rfl | rfl := hmark <;> simp
  have harrive : r'.arrive indent = some r := by
    subst hindent
    rw [hsame.arrive _ (station_innermost _), arrive_innermost hpending]
  exact readLine_eq_add (stripComment_written hblanks hunmarked hlast hkey.nonempty hremark)
    (isBlank_of_blanks hblanks) (by simp) hfirst hlast harrive

/-- **After lines that were written, the reader has the nodes that they hold.** -/
theorem sameAs_written {indent : List Char} {nodes : List Node} {lines : List (List Char)}
    (h : Written indent line nodes lines) (hblanks : Blanks indent) (hpending : r.pending = none)
    (hnested : Nested r.levels) (hindent : innermost r.levels = indent) (hsame : r'.SameAs r) :
    (r'.readLines line lines).SameAs (r.putAll nodes) := by
  induction h generalizing r r' with
  | nil => exact hsame
  | idle hraw rest ih =>
    rw [readLines, readLine_idle hraw]
    exact ih hblanks hpending hnested hindent hsame
  | @entry indent key remark line nodes lines hkey hcolon hremark rest ih =>
    have hline := readLine_written line hkey (.inl rfl) hremark hblanks hpending hindent
      hsame
    rw [List.append_nil, List.append_nil, add_entry hcolon] at hline
    have hlevels := r.map_indent_put (.entry line (String.ofList key))
    rw [readLines, hline]
    exact ih hblanks ((r.pending_put _).trans hpending) (nested_of_map_indent hnested hlevels)
      ((innermost_eq_of_map_indent hlevels).trans hindent) (.refl _)
  | @heading indent unit key remark line children nodes inner lines hkey hremark hunit hdeeper
      below rest ihbelow ihrest =>
    have hline := readLine_written line hkey (.inr rfl) hremark hblanks hpending hindent
      hsame
    rw [add_heading hkey] at hline
    subst hindent
    have hlevel {nodes : List Node} : Nested
        (⟨innermost r.levels ++ unit, line, String.ofList key, nodes⟩ :: r.levels) :=
      .cons rfl hdeeper hnested
    have hunder : Blanks (innermost r.levels ++ unit) :=
      fun c hc => (List.mem_append.1 hc).elim (hblanks c) (hunit c)
    -- The lines below are read as if the heading were open already, and then it is put away.
    have hbelow := ihbelow (r := r.opened _) hunder hpending hlevel rfl
      (sameAs_awaiting line (String.ofList key) hpending hnested hdeeper)
    rw [putAll_opened, List.append_nil] at hbelow
    have hclosed := hbelow.trans_opened hpending hlevel
    rw [Level.toNode, List.reverse_reverse] at hclosed
    have hlevels := r.map_indent_put (.heading line (String.ofList key) children)
    have hrest := ihrest hblanks ((r.pending_put _).trans hpending)
      (nested_of_map_indent hnested hlevels) (innermost_eq_of_map_indent hlevels) hclosed
    rwa [readLines, hline, readLines_append]

/-! ### Texts -/

theorem linesAfter_append {cs : List Char} (h : '\n' ∉ cs) (start rest : List Char) :
    linesAfter start (cs ++ rest) = linesAfter (cs.reverse ++ start) rest := by
  induction cs generalizing start with
  | nil => rfl
  | cons c cs ih =>
    obtain ⟨hc, hcs⟩ := not_or.1 (mt List.mem_cons.2 h)
    rw [List.cons_append, linesAfter.eq_4 _ _ _ (Ne.symm hc), ih hcs]
    simp

/-- A line up to its line feed; a carriage return before that makes no difference. -/
theorem exists_lines_feed {raw : List Char} (h : '\n' ∉ raw) (text : List Char) :
    ∃ raw', Text.lines (raw ++ '\n' :: text) = raw' :: Text.lines text ∧
      stripComment raw' = stripComment raw := by
  rw [Text.lines, linesAfter_append h, List.append_nil]
  by_cases hreturn : ∃ shorter, raw.reverse = '\r' :: shorter
  · obtain ⟨shorter, hshorter⟩ := hreturn
    have hraw : raw = shorter.reverse ++ ['\r'] := by simpa using congrArg List.reverse hshorter
    refine ⟨shorter.reverse, by rw [hshorter, linesAfter.eq_2, Text.lines], ?_⟩
    rw [hraw, stripComment_concat (by decide)]
  · refine ⟨raw, ?_, rfl⟩
    rw [linesAfter.eq_3 _ _ fun shorter heq => hreturn ⟨shorter, heq⟩, List.reverse_reverse,
      Text.lines]

/-- Which end a line has makes no difference. -/
theorem readLines_lines (r : Reader) (line : Nat) {lines : List (List Char)} {text : List Char}
    (h : Spelled lines text) (hunbroken : ∀ raw ∈ lines, '\n' ∉ raw) :
    r.readLines line (Text.lines text) = r.readLines line lines := by
  induction h generalizing r line with
  | nil => rfl
  | last raw =>
    have hraw := linesAfter_append (hunbroken raw List.mem_cons_self) [] []
    rw [List.append_nil, List.append_nil] at hraw
    rw [Text.lines, hraw, linesAfter, List.reverse_reverse, List.isEmpty_reverse]
    split
    · next hempty =>
      obtain rfl := List.isEmpty_iff.1 hempty
      rfl
    · rfl
  | @feed raw lines text rest ih =>
    obtain ⟨hraw, hlines⟩ := List.forall_mem_cons.1 hunbroken
    obtain ⟨raw', hcut, hstrip⟩ := exists_lines_feed hraw text
    rw [hcut, readLines, readLines, readLine_congr hstrip, ih _ _ hlines]
  | @returnFeed raw lines text rest ih =>
    obtain ⟨hraw, hlines⟩ := List.forall_mem_cons.1 hunbroken
    have hreturn : '\n' ∉ raw ++ ['\r'] := by simpa using hraw
    obtain ⟨raw', hcut, hstrip⟩ := exists_lines_feed hreturn text
    rw [List.append_assoc, List.singleton_append] at hcut
    rw [stripComment_concat (by decide)] at hstrip
    rw [hcut, readLines, readLines, readLine_congr hstrip, ih _ _ hlines]

theorem finish_putAll_empty (nodes : List Node) : (empty.putAll nodes).finish = (nodes, []) := by
  have hputAll (top : List Node) :
      putAll ⟨[], top, none, []⟩ nodes = ⟨[], nodes.reverse ++ top, none, []⟩ := by
    induction nodes generalizing top with
    | nil => rfl
    | cons node nodes ih =>
      have hput : put ⟨[], top, none, []⟩ node = ⟨[], node :: top, none, []⟩ := rfl
      rw [putAll_cons, hput, ih]
      simp
  rw [empty, hputAll]
  simp [finish, closePending, closeMany]

end Reader

/-- **Reading undoes writing.** Nodes are written with any units of indentation, comments, idle
lines and line ends. -/
theorem readOutline_of_written {nodes : List Node} {lines : List (List Char)} {source : String}
    (hwritten : Written [] 1 nodes lines) (hspelled : Spelled lines source.toList) :
    readOutline source = (nodes, []) := by
  have hblanks : Blanks [] := fun _ hc => nomatch hc
  have hread := Reader.readLines_lines .empty 1 hspelled (unbroken_of_written hwritten hblanks)
  have hsame := Reader.sameAs_written hwritten hblanks rfl .nil rfl (.refl .empty)
  rw [readOutline, hread, hsame.finish, Reader.finish_putAll_empty]

/-- Two triggers with different units of indentation, comments, a doubled mark, a blank line and
several line ends. -/
def twoTriggers : String :=
  "# first\non load: # loud\n\tif x is 1:\r\n\t  say ##1 # note\n\n\tstop\non join:"

/-- The nodes of these triggers; the second one is empty. -/
def twoTriggersNodes : List Node :=
  [.heading 2 "on load" [.heading 3 "if x is 1" [.entry 4 "say #1"], .entry 6 "stop"],
    .heading 7 "on join" []]

/-- The lines of these triggers. -/
def twoTriggersLines : List (List Char) :=
  ["# first", "on load: # loud", "\tif x is 1:", "\t  say ##1 # note", "", "\tstop",
    "on join:"].map String.toList

theorem written_twoTriggers : Written [] 1 twoTriggersNodes twoTriggersLines := by
  have hload : PlainKey "on load".toList := by decide
  have hif : PlainKey "if x is 1".toList := by decide
  have hsay : PlainKey "say #1".toList := by decide
  have hstop : PlainKey "stop".toList := by decide
  have hjoin : PlainKey "on join".toList := by decide
  have hfirst : Comment "# first".toList := .mk " first".toList (by decide) (by decide)
  have hloud : Comment "# loud".toList := .mk " loud".toList (by decide) (by decide)
  have hnote : Comment "# note".toList := .mk " note".toList (by decide) (by decide)
  have hblank : ∀ c ∈ ([] : List Char), isBlank c := fun _ hc => nomatch hc
  have htab : Blanks ['\t'] := by decide
  have hspaces : Blanks [' ', ' '] := by decide
  have hinner : Written ['\t', ' ', ' '] 4 [.entry 4 "say #1"] ["\t  say ##1 # note".toList, []] :=
    .entry hsay (by decide) (.comment hnote) (.idle (.blank hblank (by decide)) .nil)
  have hstops : Written ['\t'] 6 [.entry 6 "stop"] ["\tstop".toList] :=
    .entry hstop (by decide) .none .nil
  have hbody : Written ['\t'] 3 [.heading 3 "if x is 1" [.entry 4 "say #1"], .entry 6 "stop"]
      ("\tif x is 1:".toList :: (["\t  say ##1 # note".toList, []] ++ ["\tstop".toList])) :=
    .heading hif .none hspaces (by decide) hinner hstops
  have hjoins : Written [] 7 [.heading 7 "on join" []] ("on join:".toList :: ([] ++ [])) :=
    .heading hjoin .none htab (by decide) .nil .nil
  have hboth := @Written.heading [] ['\t'] _ _ 2 _ _ _ _ hload (.comment hloud) htab (by decide)
    hbody hjoins
  exact .idle (.comment [] hblank (by decide) hfirst) hboth

theorem spelled_twoTriggers : Spelled twoTriggersLines twoTriggers.toList :=
  .feed _ (.feed _ (.returnFeed _ (.feed _ (.feed _ (.feed _ (.last _))))))

theorem readOutline_twoTriggers :
    Written [] 1 twoTriggersNodes twoTriggersLines ∧
      Spelled twoTriggersLines twoTriggers.toList ∧
      readOutline twoTriggers = (twoTriggersNodes, []) :=
  ⟨written_twoTriggers, spelled_twoTriggers,
    readOutline_of_written written_twoTriggers spelled_twoTriggers⟩

end TriggerScript
