import TriggerScript.Proofs.Engine.Offers
import TriggerScript.Vocabulary.Types

/-!
# Lines that count

Each line right below `options:` or `variables:` is either applied or reported. Lines below such a
line are never read. Below `options:` the line above them is refused for having them, so they are
reported with it. Below `variables:` the line above them is applied all the same, and then nothing
is said about them.

* `UsesUnknown`, `reported_substituteNodes_iff` : which lines use options that are not defined.
* `readOptions_spec`, `readSections_spec` : what the lines of `options:` sections do.
* `Counts` : a line is applied, or it is reported itself or with a line around it.
* `counts_options`, `counts_below_iff` : which lines of one section count.
* `section_lines_count` : which lines of all sections of a source count.
* `nested_default_does_not_count` : a line that does not.
-/

namespace TriggerScript

open Parsing Outline

/-! ### Uses of options -/

section Uses

variable {table : OptionTable} {script : String} {nodes : List Node} {node : Node} {n : Nat}

theorem substituteNodes_eq (table : OptionTable) (script : String) (nodes : List Node) :
    (substituteNodes table script nodes).1 = nodes.map (fun node =>
        (substituteNode table script node).1) ∧
      (substituteNodes table script nodes).2 = nodes.flatMap fun node =>
        (substituteNode table script node).2 := by
  induction nodes with
  | nil => exact ⟨rfl, rfl⟩
  | cons node rest ih => exact ⟨by simp [substituteNodes, ih.1], by simp [substituteNodes, ih.2]⟩

theorem line_substituteNode (node : Node) :
    (substituteNode table script node).1.line = node.line := by
  cases node with
  | entry line key => rfl
  | heading line key children => rfl

theorem map_line_substituteNodes (nodes : List Node) :
    (substituteNodes table script nodes).1.map Node.line = nodes.map Node.line := by
  rw [(substituteNodes_eq table script nodes).1, List.map_map]
  exact List.map_congr_left fun node _ => line_substituteNode node

theorem children_substituteNode (node : Node) :
    (substituteNode table script node).1.children =
      (substituteNodes table script node.children).1 := by
  cases node with
  | entry line key => rfl
  | heading line key children => rfl

mutual

/-- Lines keep their numbers. -/
theorem linesOfNode_substituteNode (table : OptionTable) (script : String) (node : Node) :
    linesOfNode (substituteNode table script node).1 = linesOfNode node := by
  match node with
  | .entry line key => rfl
  | .heading line key children =>
    simp only [substituteNode, linesOfNode, linesOf_substituteNodes table script children]

theorem linesOf_substituteNodes (table : OptionTable) (script : String) (nodes : List Node) :
    linesOf (substituteNodes table script nodes).1 = linesOf nodes := by
  match nodes with
  | [] => rfl
  | node :: rest =>
    simp only [substituteNodes, linesOf, linesOfNode_substituteNode table script node,
      linesOf_substituteNodes table script rest]

end

/-- A line uses an option that is not defined. -/
def UsesUnknown (table : OptionTable) (node : Node) : Prop :=
  (substituteChars table node.key.toList).2 ≠ []

instance (table : OptionTable) (node : Node) : Decidable (UsesUnknown table node) :=
  inferInstanceAs (Decidable (_ ≠ []))

/-- A line is reported for its uses of options exactly if one of them is not defined. -/
theorem reported_substitute_iff :
    Reported script (substitute table ⟨script, node.line⟩ node.key).2 n ↔
      node.line = n ∧ UsesUnknown table node := by
  unfold Reported UsesUnknown substitute
  constructor
  · rintro ⟨e, he, -, hlocation⟩
    obtain ⟨name, hname, rfl⟩ := List.mem_map.1 he
    obtain ⟨-, rfl⟩ := Location.mk.inj (Option.some.inj hlocation)
    exact ⟨rfl, List.ne_nil_of_mem hname⟩
  · rintro ⟨rfl, hunknown⟩
    obtain ⟨name, hname⟩ := List.exists_mem_of_ne_nil _ hunknown
    exact ⟨_, List.mem_map_of_mem hname, rfl, rfl⟩

theorem entries_substituteNode (node : Node) :
    (substituteNode table script node).2 =
      (substitute table ⟨script, node.line⟩ node.key).2 ++
        (substituteNodes table script node.children).2 := by
  cases node with
  | entry line key => exact (List.append_nil _).symm
  | heading line key children => rfl

mutual

theorem of_reported_substituteNode (table : OptionTable) (script : String) (node : Node)
    (h : Reported script (substituteNode table script node).2 n) :
    node.line = n ∧ UsesUnknown table node ∨
      ∃ x, Within node.children x ∧ x.line = n ∧ UsesUnknown table x := by
  rw [entries_substituteNode] at h
  refine (reported_append.1 h).imp reported_substitute_iff.1 fun h => ?_
  match node with
  | .entry line key => exact absurd h not_reported_nil
  | .heading line key children => exact exists_of_reported_substituteNodes table script children h

/-- What is reported when options are replaced is about uses of options that are not defined. -/
theorem exists_of_reported_substituteNodes (table : OptionTable) (script : String)
    (nodes : List Node) (h : Reported script (substituteNodes table script nodes).2 n) :
    ∃ x, Within nodes x ∧ x.line = n ∧ UsesUnknown table x := by
  match nodes with
  | [] => exact absurd h not_reported_nil
  | node :: rest =>
    rcases reported_append.1 h with h | h
    · rcases of_reported_substituteNode table script node h with ⟨hline, huse⟩ | ⟨x, hx, hcount⟩
      · exact ⟨node, .here List.mem_cons_self, hline, huse⟩
      · exact ⟨x, .inside List.mem_cons_self hx, hcount⟩
    · obtain ⟨x, hx, hcount⟩ := exists_of_reported_substituteNodes table script rest h
      exact ⟨x, hx.mono (List.subset_cons_self _ _), hcount⟩

end

theorem Outline.Within.reported (h : Within nodes node) (huse : UsesUnknown table node) :
    Reported script (substituteNodes table script nodes).2 node.line := by
  induction h with
  | here h =>
    rw [(substituteNodes_eq table script _).2]
    refine Reported.flatMap ?_ h
    rw [entries_substituteNode]
    exact reported_append.2 (.inl (reported_substitute_iff.2 ⟨rfl, huse⟩))
  | inside h _ ih =>
    rw [(substituteNodes_eq table script _).2]
    refine Reported.flatMap ?_ h
    rw [entries_substituteNode]
    exact reported_append.2 (.inr (ih huse))

/-- **Replacing options reports the lines that use an option that is not defined,** and no other
lines. -/
theorem reported_substituteNodes_iff :
    Reported script (substituteNodes table script nodes).2 n ↔
      ∃ x, Within nodes x ∧ x.line = n ∧ UsesUnknown table x := by
  constructor
  · exact exists_of_reported_substituteNodes table script nodes
  · rintro ⟨x, hx, rfl, huse⟩
    exact hx.reported huse

end Uses

/-! ### Lines of `options:` sections -/

/-- A line states an option, and the table has a text for it. -/
def Defines (table : OptionTable) (node : Node) : Prop :=
  ∃ option, optionOf? node = some option ∧ (table.lookup option.1).isSome = true

section Options

variable {table : OptionTable} {script : String}

/-- A line with lines below it states no option. -/
theorem exists_entry_of_optionOf? {node : Node} {option : String × String}
    (h : optionOf? node = some option) : ∃ line key, node = .entry line key := by
  cases node with
  | entry line key => exact ⟨line, key, rfl⟩
  | heading line key children => cases h

theorem readOptions_concat (nodes : List Node) (node : Node) :
    readOptions script (nodes ++ [node]) table =
      match optionOf? node with
      | some option =>
        (option :: (readOptions script nodes table).1, (readOptions script nodes table).2)
      | none => ((readOptions script nodes table).1, (readOptions script nodes table).2 ++
          [.error (some ⟨script, node.line⟩)
            ("Invalid option '" ++ node.key ++ "'; options look like 'name: value'")
            .semantic]) := by
  unfold readOptions
  exact List.foldl_append

/-- A definition is never taken back. -/
theorem isSome_lookup_cons {option : String × String} {name : String}
    (h : (table.lookup name).isSome = true) :
    (List.lookup name (option :: table)).isSome = true := by
  rw [List.lookup_cons]
  split
  · rfl
  · exact h

/-- **Each line of an `options:` section defines its option or is reported.** -/
theorem readOptions_spec (script : String) (nodes : List Node) (table : OptionTable) :
    (∀ name, (table.lookup name).isSome = true →
        ((readOptions script nodes table).1.lookup name).isSome = true) ∧
      AboutLines script (nodes.map Node.line) (readOptions script nodes table).2 ∧
      ∀ node ∈ nodes, Defines (readOptions script nodes table).1 node ∨
        Reported script (readOptions script nodes table).2 node.line := by
  induction nodes using List.reverseRecOn with
  | nil => exact ⟨fun _ h => h, List.forall_mem_nil _, List.forall_mem_nil _⟩
  | append_singleton nodes node ih =>
    obtain ⟨hkept, habout, hcount⟩ := ih
    have hold : nodes.map Node.line ⊆ (nodes ++ [node]).map Node.line := by simp
    have hnew : [node.line] ⊆ (nodes ++ [node]).map Node.line := by simp
    rw [readOptions_concat]
    cases hoption : optionOf? node with
    | some option =>
      refine ⟨fun name h => isSome_lookup_cons (hkept name h), habout.mono hold, ?_⟩
      intro x hx
      rcases List.mem_append.1 hx with hx | hx
      · refine (hcount x hx).imp_left ?_
        rintro ⟨stated, hstated, hdefined⟩
        exact ⟨stated, hstated, isSome_lookup_cons hdefined⟩
      · obtain rfl := List.mem_singleton.1 hx
        exact .inl ⟨option, hoption, by simp⟩
    | none =>
      refine ⟨hkept, aboutLines_append.2
        ⟨habout.mono hold, (aboutLines_error _ _).mono hnew⟩, fun x hx => ?_⟩
      rcases List.mem_append.1 hx with hx | hx
      · exact (hcount x hx).imp_right fun h => reported_append.2 (.inl h)
      · obtain rfl := List.mem_singleton.1 hx
        exact .inr (reported_append.2 (.inr (reported_error _ _)))

/-- The options of several sections, one after the other. -/
def readSections (script : String) (sections : List Node) : OptionTable × List Entry :=
  sections.foldl (fun (table, entries) node =>
    let (table, more) := readOptions script node.children table
    (table, entries ++ more)) ([], [])

theorem readSections_concat (sections : List Node) (node : Node) :
    readSections script (sections ++ [node]) =
      ((readOptions script node.children (readSections script sections).1).1,
        (readSections script sections).2 ++
          (readOptions script node.children (readSections script sections).1).2) := by
  simp only [readSections, List.foldl_append, List.foldl_cons, List.foldl_nil]

/-- Each line of several sections defines its option or is reported. -/
theorem readSections_spec (script : String) (sections : List Node) :
    AboutLines script (sections.flatMap fun node => node.children.map Node.line)
        (readSections script sections).2 ∧
      ∀ node ∈ sections, ∀ child ∈ node.children, Defines (readSections script sections).1 child ∨
        Reported script (readSections script sections).2 child.line := by
  induction sections using List.reverseRecOn with
  | nil => exact ⟨List.forall_mem_nil _, List.forall_mem_nil _⟩
  | append_singleton sections node ih =>
    obtain ⟨habout, hcount⟩ := ih
    obtain ⟨hkept, haboutNew, hcountNew⟩ :=
      readOptions_spec script node.children (readSections script sections).1
    rw [readSections_concat, List.flatMap_append, List.flatMap_singleton]
    refine ⟨aboutLines_append.2 ⟨habout.mono (List.subset_append_left _ _),
      haboutNew.mono (List.subset_append_right _ _)⟩, fun x hx child hchild => ?_⟩
    rcases List.mem_append.1 hx with hx | hx
    · refine (hcount x hx child hchild).imp ?_ fun h => reported_append.2 (.inl h)
      rintro ⟨stated, hstated, hdefined⟩
      exact ⟨stated, hstated, hkept _ hdefined⟩
    · obtain rfl := List.mem_singleton.1 hx
      exact (hcountNew child hchild).imp_right fun h => reported_append.2 (.inr h)

end Options

/-! ### Whole scripts -/

/-- The options of a source. -/
def sourceOptions (name source : String) : OptionTable :=
  (collectOptions name (readOutline source).1).1

/-- The nodes at the top of a source that are not `options:` sections. -/
def nodesToRead (source : String) : List Node :=
  (readOutline source).1.filter fun node => !isSection "options" node

/-- What is reported before these nodes are read. -/
def entriesBefore (name source : String) : List Entry :=
  outlineEntries name (readOutline source).2 ++ (collectOptions name (readOutline source).1).2 ++
    (substituteNodes (sourceOptions name source) name (nodesToRead source)).2

/-- The state in which these nodes are read. -/
def Loading.begin (w : World) (name source : String) : Loading :=
  { script := name, world := w, events := [], delay := .no, triggers := []
    entries := entriesBefore name source }

/-- The state when all of them have been read. -/
def Loading.ofSource (w : World) (name source : String) : Loading :=
  (substituteNodes (sourceOptions name source) name (nodesToRead source)).1.foldl Loading.readTop
    (Loading.begin w name source)

theorem readScript_eq (w : World) (name source : String) :
    let s := Loading.ofSource w name source
    readScript w name source =
      (⟨name, none, s.triggers⟩, .ofEntries name s.triggers.length s.entries, s.world) := rfl

/-- What the lines of a source offer to variables, in order. -/
def offersOf (w : World) (name source : String) : List Offer :=
  (Loading.begin w name source).offers
    (substituteNodes (sourceOptions name source) name (nodesToRead source)).1

/-- One of some lines states an option, and the table has a text for it. -/
def DefinedAt (table : OptionTable) (nodes : List Node) (n : Nat) : Prop :=
  ∃ node ∈ nodes, node.line = n ∧ Defines table node

/-- A line makes an offer to a variable. -/
def OfferedAt (offers : List Offer) (n : Nat) : Prop :=
  ∃ o ∈ offers, o.line = n

/-- A line counts if it is applied, or if it is reported itself or with a line around it. -/
def Counts (nodes : List Node) (applied reported : Nat → Prop) (n : Nat) : Prop :=
  applied n ∨ ∃ m, Covers nodes m n ∧ reported m

theorem Counts.mono {nodes : List Node} {applied reported others : Nat → Prop} {n : Nat}
    (h : Counts nodes applied reported n) (hmore : ∀ m, reported m → others m) :
    Counts nodes applied others n := by
  rcases h with happlied | ⟨m, hcovers, hreported⟩
  · exact .inl happlied
  · exact .inr ⟨m, hcovers, hmore m hreported⟩

section Source

variable {w : World} {name source : String} {heading line : Node} {n : Nat}

theorem nodup_lines (source : String) : (linesOf (readOutline source).1).Nodup :=
  (List.nodup_append'.1 (nodup_readOutline source)).1

theorem aboutLines_outlineEntries (name : String) (errors : List OutlineError) :
    AboutLines name (errors.map OutlineError.line) (outlineEntries name errors) := by
  intro e he
  obtain ⟨error, herror, rfl⟩ := List.mem_map.1 he
  exact ⟨error.line, List.mem_map_of_mem herror, rfl⟩

/-- **All lines of an `options:` section count.** Those right below the heading define their options
or are reported; a line with lines below it defines none. -/
theorem counts_options (hheading : heading ∈ (readOutline source).1)
    (hoptions : isSection "options" heading = true) (hn : n ∈ linesOf heading.children) :
    Counts heading.children (DefinedAt (sourceOptions name source) heading.children)
      (Reported name (entriesBefore name source)) n := by
  obtain ⟨child, hchild, hnchild⟩ := mem_linesOf_iff.1 hn
  have hsection := List.mem_filter.2 ⟨hheading, hoptions⟩
  rcases (readSections_spec name _).2 heading hsection child hchild with hdefined | hreported
  · obtain ⟨option, hoption, htext⟩ := hdefined
    obtain ⟨line, key, rfl⟩ := exists_entry_of_optionOf? hoption
    obtain rfl := List.mem_singleton.1 hnchild
    exact .inl ⟨_, hchild, rfl, option, hoption, htext⟩
  · have hbefore : Reported name (entriesBefore name source) child.line :=
      reported_append.2 (.inl (reported_append.2 (.inr hreported)))
    exact .inr ⟨child.line, ⟨child, .here hchild, rfl, hnchild⟩, hbefore⟩

section Below

variable (hheading : heading ∈ (readOutline source).1)
  (hvariables : isSection "variables"
    (substituteNode (sourceOptions name source) name heading).1 = true)
  (hline : line ∈ heading.children) (hn : n ∈ linesOf line.children)

include hheading hvariables hline hn

/-- Lines below a line of a `variables:` section are not read. -/
theorem not_mem_linesRead :
    n ∉ (substituteNodes (sourceOptions name source) name (nodesToRead source)).1.flatMap
      Loading.linesRead := by
  have hnodup := nodup_lines source
  have hchildren := (nodup_below hnodup hheading).2
  intro hread
  rw [(substituteNodes_eq _ _ _).1] at hread
  obtain ⟨_, hmem, hread⟩ := List.mem_flatMap.1 hread
  obtain ⟨other, hother, rfl⟩ := List.mem_map.1 hmem
  have hnother := Loading.linesRead_subset _ hread
  rw [linesOfNode_substituteNode] at hnother
  obtain rfl := eq_of_mem_linesOfNode hnodup (List.mem_filter.1 hother).1 hheading hnother
    (mem_linesOfNode_of_below (mem_linesOf_iff.2 ⟨line, hline, mem_linesOfNode_of_below hn⟩))
  -- Of the lines of the section itself only those right below the heading are read.
  rw [Loading.linesRead, if_pos hvariables, children_substituteNode,
    map_line_substituteNodes] at hread
  obtain ⟨child, hchild, hsame⟩ := List.mem_map.1 hread
  have hnchild : n ∈ linesOfNode child := hsame ▸ line_mem_linesOfNode child
  obtain rfl := eq_of_mem_linesOfNode hchildren hchild hline hnchild (mem_linesOfNode_of_below hn)
  rw [← hsame] at hn
  exact (nodup_below hchildren hline).1 hn

theorem not_offered {o : Offer} (ho : o ∈ offersOf w name source) : o.line ≠ n := by
  rintro rfl
  obtain ⟨node, hnode, hsection, hoffered⟩ := Loading.exists_child_of_offers ho
  refine not_mem_linesRead hheading hvariables hline hn (List.mem_flatMap.2 ⟨node, hnode, ?_⟩)
  rwa [Loading.linesRead, if_pos hsection]

/-- Lines below a line of a `variables:` section are reported only for options that they use. -/
theorem reported_below_iff (hoptions : isSection "options" heading = false) {entries : List Entry}
    (hread : AboutLines name ((substituteNodes (sourceOptions name source) name
      (nodesToRead source)).1.flatMap Loading.linesRead) entries) :
    Reported name (entriesBefore name source ++ entries) n ↔
      ∃ x, Within line.children x ∧ x.line = n ∧ UsesUnknown (sourceOptions name source) x := by
  have hnodup := nodup_lines source
  have hbelow : n ∈ linesOf heading.children :=
    mem_linesOf_iff.2 ⟨line, hline, mem_linesOfNode_of_below hn⟩
  have hnheading : n ∈ linesOfNode heading := mem_linesOfNode_of_below hbelow
  constructor
  · intro hreported
    rcases reported_append.1 hreported with hbefore | hentries
    · rcases reported_append.1 hbefore with hbefore | huse
      · rcases reported_append.1 hbefore with hout | hoption
        · have hleft := (aboutLines_outlineEntries name _).mem_of_reported hout
          have hnode := mem_linesOf_iff.2 ⟨heading, hheading, hnheading⟩
          exact absurd hleft ((List.nodup_append'.1 (nodup_readOutline source)).2.2 hnode)
        · have hsection := (readSections_spec name _).1.mem_of_reported hoption
          obtain ⟨other, hother, hnother⟩ := List.mem_flatMap.1 hsection
          obtain ⟨hmem, hoptionsOther⟩ := List.mem_filter.1 hother
          obtain rfl := eq_of_mem_linesOfNode hnodup hmem hheading
            (mem_linesOfNode_of_child hnother) hnheading
          rw [hoptions] at hoptionsOther
          exact absurd hoptionsOther Bool.false_ne_true
      · obtain ⟨x, hx, rfl, hunknown⟩ := reported_substituteNodes_iff.1 huse
        have hnodes := hx.mono (List.filter_subset_self _)
        have hxheading := hnodes.within_children hnodup hheading hbelow
        exact ⟨x, hxheading.within_children (nodup_below hnodup hheading).2 hline hn, rfl, hunknown⟩
    · have hlinesRead := hread.mem_of_reported hentries
      exact absurd hlinesRead (not_mem_linesRead hheading hvariables hline hn)
  · rintro ⟨x, hx, rfl, hunknown⟩
    have hreads : heading ∈ nodesToRead source := List.mem_filter.2 ⟨hheading, by simp [hoptions]⟩
    have hwithin : Within (nodesToRead source) x := .inside hreads (.inside hline hx)
    exact reported_append.2 (.inl (reported_append.2 (.inr (hwithin.reported hunknown))))

/-- A line below a line of a `variables:` section counts exactly if that line is reported, or if it
or a line around it uses an option that is not defined. -/
theorem counts_below_iff (hoptions : isSection "options" heading = false) {entries : List Entry}
    (hread : AboutLines name ((substituteNodes (sourceOptions name source) name
      (nodesToRead source)).1.flatMap Loading.linesRead) entries) :
    Counts heading.children (OfferedAt (offersOf w name source))
        (Reported name (entriesBefore name source ++ entries)) n ↔
      Reported name (entriesBefore name source ++ entries) line.line ∨
        ∃ x, Within line.children x ∧ n ∈ linesOfNode x ∧
          UsesUnknown (sourceOptions name source) x := by
  have hchildren := (nodup_below (nodup_lines source) hheading).2
  constructor
  · rintro (⟨o, ho, hsame⟩ | ⟨m, hcovers, hreported⟩)
    · exact absurd hsame (not_offered hheading hvariables hline hn ho)
    · rcases (covers_iff hchildren hline hn).1 hcovers with rfl | ⟨x, hx, rfl, hnx⟩
      · exact .inl hreported
      · have hxline := hx.mem_linesOf (line_mem_linesOfNode x)
        have habout := reported_below_iff hheading hvariables hline hxline hoptions hread
        obtain ⟨y, hy, hsame, hunknown⟩ := habout.1 hreported
        have hbelow := (nodup_below hchildren hline).2
        exact .inr ⟨y, hy, hy.eq_of_line hbelow hx hsame ▸ hnx, hunknown⟩
  · rintro (hreported | ⟨x, hx, hnx, hunknown⟩)
    · exact .inr ⟨line.line, (covers_iff hchildren hline hn).2 (.inl rfl), hreported⟩
    · have hxline := hx.mem_linesOf (line_mem_linesOfNode x)
      have habout := reported_below_iff hheading hvariables hline hxline hoptions hread
      have hcovers := (covers_iff hchildren hline hn).2 (.inr ⟨x, hx, rfl, hnx⟩)
      exact .inr ⟨x.line, hcovers, habout.2 ⟨x, hx, rfl, hunknown⟩⟩

end Below

end Source

/-- Reading a source makes its offers, and reports of a `variables:` section what offers nothing. -/
theorem leaves_ofSource (w : World) (name source : String) :
    ∃ entries, (Loading.begin w name source).Leaves (Loading.ofSource w name source)
        (offersOf w name source) entries ∧
      AboutLines name ((substituteNodes (sourceOptions name source) name
        (nodesToRead source)).1.flatMap Loading.linesRead) entries ∧
      ∀ heading ∈ nodesToRead source,
        isSection "variables" (substituteNode (sourceOptions name source) name heading).1 = true →
        ∀ line ∈ heading.children, OfferedAt (offersOf w name source) line.line ∨
          Reported name entries line.line := by
  obtain ⟨entries, hleaves, habout, hcount⟩ := (Loading.begin w name source).leaves_readTops
    (substituteNodes (sourceOptions name source) name (nodesToRead source)).1
  refine ⟨entries, hleaves, habout, fun heading hheading hvariables line hline => ?_⟩
  rw [(substituteNodes_eq _ _ _).1] at hcount
  have hlines := hcount _ (List.mem_map_of_mem hheading) hvariables
  rw [children_substituteNode, (substituteNodes_eq _ _ _).1] at hlines
  have hcounted := hlines _ (List.mem_map_of_mem hline)
  rwa [line_substituteNode, ← (substituteNodes_eq _ _ _).1] at hcounted

/-- **Which lines of `options:` and `variables:` sections count.** All lines of an `options:`
section do, and so do those right below `variables:`. A line below one of those counts exactly if
that one is reported, or if it or a line around it uses an option that is not defined. -/
theorem section_lines_count (w : World) (name source : String) :
    let s := Loading.ofSource w name source
    let reported := Reported name s.entries
    let offered := OfferedAt (offersOf w name source)
    let table := sourceOptions name source
    readScript w name source =
        (⟨name, none, s.triggers⟩, .ofEntries name s.triggers.length s.entries, s.world) ∧
      s.world.realm.globals =
        (offersOf w name source).foldl Variables.offer w.realm.globals ∧
      ∀ heading ∈ (readOutline source).1,
        (isSection "options" heading = true → ∀ n ∈ linesOf heading.children,
          Counts heading.children (DefinedAt table heading.children) reported n) ∧
        (isSection "options" heading = false →
          isSection "variables" (substituteNode table name heading).1 = true →
          ∀ line ∈ heading.children,
            (offered line.line ∨ reported line.line) ∧
            ∀ n ∈ linesOf line.children, (Counts heading.children offered reported n ↔
              reported line.line ∨
                ∃ x, Within line.children x ∧ n ∈ linesOfNode x ∧ UsesUnknown table x)) := by
  obtain ⟨entries, hleaves, habout, hcount⟩ := leaves_ofSource w name source
  have hentries : (Loading.ofSource w name source).entries =
      entriesBefore name source ++ entries := hleaves.entries
  refine ⟨readScript_eq w name source, hleaves.globals, fun heading hheading => ?_⟩
  simp only [hentries]
  constructor
  · intro hoptions n hn
    refine Counts.mono (counts_options hheading hoptions hn) ?_
    exact fun m hreported => reported_append.2 (.inl hreported)
  · intro hoptions hvariables line hline
    constructor
    · have hreads : heading ∈ nodesToRead source :=
        List.mem_filter.2 ⟨hheading, by simp [hoptions]⟩
      have hcounted := hcount heading hreads hvariables line hline
      exact hcounted.imp_right fun h => reported_append.2 (.inr h)
    · intro n hn
      exact counts_below_iff hheading hvariables hline hn hoptions habout

/-! ### Lines of a shop -/

/-- A host that knows numbers only. -/
def pricing : Registration :=
  { Registration.empty with types := ⟨[Vocabulary.objects, Vocabulary.numbers]⟩ }

/-- The world of this host. -/
def pricingWorld : World := .new ⟨⟨pricing.types, .empty, .empty⟩, [], [], []⟩ .standard

/-- A line below a default that uses an option without a text, and one below a local variable. -/
def shopSource : String :=
  "options:\n\tprice: 1\n\tsale\nvariables:\n\t\x7bx\x7d = \x7b@price\x7d:\n\t\t" ++
    "\x7by\x7d = \x7b@tax\x7d\n\t\x7b_z\x7d = 2:\n\t\t\x7bq\x7d = 3\n"

/-- The lines of its `variables:` section. -/
def shopVariables : List Node :=
  [.heading 5 "\x7bx\x7d = \x7b@price\x7d" [.entry 6 "\x7by\x7d = \x7b@tax\x7d"],
    .heading 7 "\x7b_z\x7d = 2" [.entry 8 "\x7bq\x7d = 3"]]

theorem section_lines_count_shopSource :
    let offers := offersOf pricingWorld "shop" shopSource
    let reported := Reported "shop" (Loading.ofSource pricingWorld "shop" shopSource).entries
    pricing.close = .ok pricingWorld.realm.registry ∧
      .heading 4 "variables" shopVariables ∈ (readOutline shopSource).1 ∧
      offers.map Offer.line = [5] ∧
      Counts shopVariables (OfferedAt offers) reported 6 ∧
      Counts shopVariables (OfferedAt offers) reported 8 := by
  have hclose : pricing.close = .ok pricingWorld.realm.registry := rfl
  have houtline : (readOutline shopSource).1 =
      [.heading 1 "options" [.entry 2 "price: 1", .entry 3 "sale"],
        .heading 4 "variables" shopVariables] := rfl
  have hoffers : (offersOf pricingWorld "shop" shopSource).map Offer.line = [5] := by
    decide +kernel
  have hheading : .heading 4 "variables" shopVariables ∈ (readOutline shopSource).1 := by
    rw [houtline]
    simp
  obtain ⟨-, -, hcounts⟩ := section_lines_count pricingWorld "shop" shopSource
  have hsection : isSection "variables" (substituteNode (sourceOptions "shop" shopSource) "shop"
      (.heading 4 "variables" shopVariables)).1 = true := by
    decide +kernel
  have hvariables := (hcounts _ hheading).2 rfl hsection
  obtain ⟨-, hfirst⟩ := hvariables _ List.mem_cons_self
  obtain ⟨hsecond, hbelow⟩ := hvariables _ (List.mem_cons_of_mem _ List.mem_cons_self)
  have hunknown : UsesUnknown (sourceOptions "shop" shopSource)
      (.entry 6 "\x7by\x7d = \x7b@tax\x7d") := by
    decide +kernel
  have hsix := (hfirst 6 List.mem_cons_self).2
    (.inr ⟨_, .here List.mem_cons_self, List.mem_cons_self, hunknown⟩)
  have height := (hbelow 8 List.mem_cons_self).2
  refine ⟨hclose, hheading, hoffers, hsix, height (.inl (hsecond.resolve_left ?_))⟩
  rintro ⟨o, ho, hsame⟩
  have hfive := List.mem_map_of_mem (f := Offer.line) ho
  rw [hoffers, hsame] at hfive
  exact absurd hfive (by decide)

/-- A line below a default that is applied. -/
def nestedDefault : String := "variables:\n\t\x7bx\x7d = 1:\n\t\t\x7by\x7d = 2\n"

/-- Not all lines of `variables:` sections count. -/
theorem nested_default_does_not_count : ¬∀ (w : World) (name source : String),
    ∀ heading ∈ (readOutline source).1, isSection "variables" heading = true →
      ∀ n ∈ linesOf heading.children,
        Counts heading.children (OfferedAt (offersOf w name source))
          (Reported name (Loading.ofSource w name source).entries) n := by
  intro h
  have houtline : (readOutline nestedDefault).1 = [.heading 1 "variables"
      [.heading 2 "\x7bx\x7d = 1" [.entry 3 "\x7by\x7d = 2"]]] := rfl
  have hfacts : (offersOf pricingWorld "shop" nestedDefault).map Offer.line = [2] ∧
      (Loading.ofSource pricingWorld "shop" nestedDefault).entries.length = 0 := by
    decide +kernel
  obtain ⟨hoffers, hsilent⟩ := hfacts
  have hcounts := h pricingWorld "shop" nestedDefault _ (houtline ▸ List.mem_cons_self) rfl 3
    (by decide)
  rcases hcounts with ⟨o, ho, hsame⟩ | ⟨m, -, hreported⟩
  · have htwo := List.mem_map_of_mem (f := Offer.line) ho
    rw [hoffers, hsame] at htwo
    exact absurd htwo (by decide)
  · rw [List.length_eq_zero_iff.1 hsilent] at hreported
    exact not_reported_nil hreported

end TriggerScript
