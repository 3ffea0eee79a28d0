import TriggerScript.Engine.Loading
import TriggerScript.Proofs.Outline.Standing
import TriggerScript.Proofs.Parsing.Shares

/-!
# What the lines of a script offer and report

Reading a script goes from node to node. On the way the lines of `variables:` sections offer values
to variables, and lines that cannot be read leave errors about themselves.

* `Reported` : some entry is an error about a line.
* `Offer`, `Loading.offer?` : what a line of a `variables:` section offers.
* `Loading.Leaves` : from one state to another, these offers were made and these entries left.
* `leaves_readDefault`, `leaves_readTrigger`, `leaves_readTop` : what single nodes leave.
* `leaves_readTops` : what all nodes of a script leave.
-/

namespace TriggerScript

open Parsing Outline

/-! ### Reported lines -/

/-- Some entry is an error about a line. -/
def Reported (script : String) (entries : List Entry) (line : Nat) : Prop :=
  ∃ e ∈ entries, e.isError = true ∧ e.location = some ⟨script, line⟩

section Reported

variable {script : String} {entries more : List Entry} {line : Nat}

theorem reported_append :
    Reported script (entries ++ more) line ↔
      Reported script entries line ∨ Reported script more line := by
  simp only [Reported, List.mem_append, or_and_right, exists_or]

theorem Reported.mono (h : Reported script entries line) (hsub : entries ⊆ more) :
    Reported script more line := by
  obtain ⟨e, he, herror, hlocation⟩ := h
  exact ⟨e, hsub he, herror, hlocation⟩

theorem Reported.flatMap {α : Type} {f : α → List Entry} {xs : List α} {x : α}
    (h : Reported script (f x) line) (hx : x ∈ xs) : Reported script (xs.flatMap f) line :=
  h.mono fun _ he => List.mem_flatMap.2 ⟨x, hx, he⟩

theorem not_reported_nil : ¬ Reported script [] line := by
  simp [Reported]

theorem reported_error (message : String) (quality : Quality) :
    Reported script [.error (some ⟨script, line⟩) message quality] line :=
  ⟨_, List.mem_cons_self, rfl, rfl⟩

/-- All entries are about some lines. -/
def AboutLines (script : String) (lines : List Nat) (entries : List Entry) : Prop :=
  ∀ e ∈ entries, ∃ line ∈ lines, e.location = some ⟨script, line⟩

theorem AboutLines.mono {lines others : List Nat} (h : AboutLines script lines entries)
    (hsub : lines ⊆ others) : AboutLines script others entries := by
  intro e he
  obtain ⟨line, hline, hlocation⟩ := h e he
  exact ⟨line, hsub hline, hlocation⟩

theorem aboutLines_append {lines : List Nat} :
    AboutLines script lines (entries ++ more) ↔
      AboutLines script lines entries ∧ AboutLines script lines more :=
  List.forall_mem_append

theorem aboutLines_singleton :
    AboutLines script [line] entries ↔ ∀ e ∈ entries, e.location = some ⟨script, line⟩ := by
  simp [AboutLines]

/-- Only lines that entries are about are reported. -/
theorem AboutLines.mem_of_reported {lines : List Nat} (h : AboutLines script lines entries)
    (hline : Reported script entries line) : line ∈ lines := by
  obtain ⟨e, he, -, hlocation⟩ := hline
  obtain ⟨line', hline', hlocation'⟩ := h e he
  obtain ⟨-, rfl⟩ := Location.mk.inj (Option.some.inj (hlocation.symm.trans hlocation'))
  exact hline'

theorem aboutLines_error (message : String) (quality : Quality) :
    AboutLines script [line] [.error (some ⟨script, line⟩) message quality] :=
  aboutLines_singleton.2 (List.forall_mem_singleton.2 rfl)

/-- An attempt at a line that fails has left an error about the line. -/
theorem Parsing.Owned.reported {α : Type} {a : Attempt α} (h : Owned (some ⟨script, line⟩) a)
    (hnone : a.result = none) : Reported script a.entries line := by
  have hne : errorsOf a.entries ≠ [] := h.tidy.complains hnone
  obtain ⟨e, he⟩ := List.exists_mem_of_ne_nil _ hne
  obtain ⟨hmem, herror⟩ := List.mem_filter.1 he
  exact ⟨e, hmem, herror, h.located e hmem⟩

/-- What the lines of a block have left is about them. -/
theorem Parsing.Adds.aboutLines {lines : List Nat} {p q : Progress} (h : Adds script lines p q)
    (hp : p.entries = []) : AboutLines script lines q.entries := by
  obtain ⟨shares, hshares, hq⟩ := h
  rw [hq, hp, List.nil_append]
  clear hq
  induction hshares with
  | nil => exact List.forall_mem_nil _
  | @cons line share lines shares hshare _ ih =>
    rw [List.flatten_cons]
    have hown : AboutLines script [line] share := aboutLines_singleton.2 hshare.located
    exact aboutLines_append.2 ⟨hown.mono (by simp), ih.mono (List.subset_cons_self _ _)⟩

end Reported

/-! ### Offers -/

/-- A value that a line of a `variables:` section offers to a variable. -/
structure Offer where
  line : Nat
  name : String
  value : Value

/-- A variable takes the value that is offered, unless it has one. -/
def Variables.offer (vs : Variables) (o : Offer) : Variables :=
  (vs.setDefault o.name o.value).2

namespace Loading

/-- What a line of a `variables:` section offers: it names a variable that is not local, and the
text behind the name is read as something with a first constant. -/
def offer? (s : Loading) (node : Node) : Option Offer :=
  match defaultOf? node.key with
  | none => none
  | some (name, value) =>
    if name.head? == some '_' then none
    else
      let parsed := parseExpression s.world.realm.registry (s.scope node.line)
        (String.ofList value) (.one [objectType])
      (parsed.result.bind fun e => e.constants?.bind List.head?).map
        (⟨node.line, String.ofList name, ·⟩)

/-- What some lines of a `variables:` section offer one after the other. -/
def offersIn (s : Loading) : List Node → List Offer
  | [] => []
  | node :: rest => (s.offer? node).toList ++ (s.readDefault node).offersIn rest

/-- What the lines of a node at the top offer. -/
def offersAt (s : Loading) (node : Node) : List Offer :=
  if isSection "variables" node then s.offersIn node.children else []

/-- What the lines of some nodes at the top offer one after the other. -/
def offers (s : Loading) : List Node → List Offer
  | [] => []
  | node :: rest => s.offersAt node ++ (s.readTop node).offers rest

theorem line_of_offer? {s : Loading} {node : Node} {o : Offer} (h : s.offer? node = some o) :
    o.line = node.line := by
  unfold offer? at h
  split at h
  · cases h
  · split at h
    · cases h
    · obtain ⟨v, -, rfl⟩ := Option.map_eq_some_iff.1 h
      rfl

theorem line_mem_of_offersIn {s : Loading} {nodes : List Node} {o : Offer}
    (h : o ∈ s.offersIn nodes) : o.line ∈ nodes.map Node.line := by
  induction nodes generalizing s with
  | nil => cases h
  | cons node rest ih =>
    rcases List.mem_append.1 h with h | h
    · rw [line_of_offer? (Option.mem_toList.1 h)]
      exact List.mem_cons_self
    · exact List.mem_cons_of_mem _ (ih h)

/-- From one state to another, some offers were made and some entries were left. -/
structure Leaves (s s' : Loading) (offers : List Offer) (entries : List Entry) : Prop where
  script : s'.script = s.script
  globals : s'.world.realm.globals = offers.foldl Variables.offer s.world.realm.globals
  entries : s'.entries = s.entries ++ entries

variable {s s' s'' : Loading} {offers others : List Offer} {entries more : List Entry}

theorem Leaves.refl (s : Loading) : s.Leaves s [] [] :=
  ⟨rfl, rfl, (List.append_nil _).symm⟩

theorem Leaves.trans (h : s.Leaves s' offers entries) (hmore : s'.Leaves s'' others more) :
    s.Leaves s'' (offers ++ others) (entries ++ more) where
  script := hmore.script.trans h.script
  globals := by rw [hmore.globals, h.globals, List.foldl_append]
  entries := by rw [hmore.entries, h.entries, List.append_assoc]

/-- A note leaves its entries. -/
theorem Leaves.note (h : s.Leaves s' offers entries) (more : List Entry) :
    s.Leaves (s'.note more) offers (entries ++ more) :=
  ⟨h.script, h.globals, by rw [Loading.note, h.entries, List.append_assoc]⟩

theorem Leaves.complain (h : s.Leaves s' offers entries) (line : Nat) (message : String) :
    s.Leaves (s'.complain line message) offers
      (entries ++ [.error (some ⟨s.script, line⟩) message .semantic]) := by
  rw [← h.script]
  exact h.note _

/-! ### Lines of `variables:` sections -/

/-- **A line of a `variables:` section makes its offer or is reported,** and it leaves no entries
about other lines. -/
theorem leaves_readDefault (s : Loading) (node : Node) :
    ∃ entries, s.Leaves (s.readDefault node) (s.offer? node).toList entries ∧
      AboutLines s.script [node.line] entries ∧
      (s.offer? node = none → Reported s.script entries node.line) := by
  cases hdefault : defaultOf? node.key with
  | none =>
    simp only [readDefault, offer?, hdefault]
    exact ⟨_, (Leaves.refl s).complain _ _, aboutLines_error _ _, fun _ => reported_error _ _⟩
  | some stated =>
    obtain ⟨name, value⟩ := stated
    cases hlocal : name.head? == some '_' with
    | true =>
      simp only [readDefault, offer?, hdefault, hlocal, if_true]
      exact ⟨_, (Leaves.refl s).complain _ _, aboutLines_error _ _, fun _ => reported_error _ _⟩
    | false =>
      have howned := owned_parseExpression s.world.realm.registry (s.scope node.line)
        (String.ofList value) (.one [objectType])
      simp only [readDefault, offer?, hdefault, hlocal, Bool.false_eq_true, if_false]
      revert howned
      generalize parseExpression s.world.realm.registry (s.scope node.line) (String.ofList value)
        (.one [objectType]) = parsed
      intro howned
      have habout : AboutLines s.script [node.line] parsed.entries :=
        aboutLines_singleton.2 howned.located
      have hread := (Leaves.refl s).note parsed.entries
      cases hresult : parsed.result with
      | none => exact ⟨_, hread, habout, fun _ => howned.reported hresult⟩
      | some e =>
        simp only [Option.bind_some]
        cases hvalue : e.constants?.bind List.head? with
        -- What is read has no first constant.
        | none =>
          exact ⟨_, hread.complain _ _, aboutLines_append.2 ⟨habout, aboutLines_error _ _⟩,
            fun _ => reported_append.2 (.inr (reported_error _ _))⟩
        | some v =>
          refine ⟨parsed.entries, ⟨rfl, rfl, rfl⟩, habout, fun h => ?_⟩
          cases h

/-- The lines of a `variables:` section one after the other. -/
theorem leaves_readDefaults (s : Loading) (nodes : List Node) :
    ∃ entries, s.Leaves (nodes.foldl readDefault s) (s.offersIn nodes) entries ∧
      AboutLines s.script (nodes.map Node.line) entries ∧
      ∀ node ∈ nodes, (∃ o ∈ s.offersIn nodes, o.line = node.line) ∨
        Reported s.script entries node.line := by
  induction nodes generalizing s with
  | nil => exact ⟨[], .refl s, List.forall_mem_nil _, List.forall_mem_nil _⟩
  | cons node rest ih =>
    obtain ⟨entries, hleaves, habout, hreported⟩ := s.leaves_readDefault node
    obtain ⟨more, hmore, haboutMore, hcount⟩ := ih (s.readDefault node)
    rw [hleaves.script] at haboutMore hcount
    refine ⟨entries ++ more, hleaves.trans hmore, ?_, List.forall_mem_cons.2 ⟨?_, ?_⟩⟩
    · exact aboutLines_append.2
        ⟨habout.mono (by simp), haboutMore.mono (List.subset_cons_self _ _)⟩
    · cases hoffer : s.offer? node with
      | none => exact .inr (reported_append.2 (.inl (hreported hoffer)))
      | some o => exact .inl ⟨o, by simp [offersIn, hoffer], line_of_offer? hoffer⟩
    · intro later hlater
      refine (hcount later hlater).imp ?_ fun h => reported_append.2 (.inr h)
      rintro ⟨o, ho, hline⟩
      exact ⟨o, List.mem_append_right _ ho, hline⟩

/-! ### Nodes at the top -/

/-- A trigger makes no offers, and what it leaves is about its lines. -/
theorem leaves_readTrigger (s : Loading) (line : Nat) (key : String) (children : List Node) :
    ∃ entries, s.Leaves (s.readTrigger line key children) [] entries ∧
      AboutLines s.script (line :: linesOf children) entries := by
  have hown : [line] ⊆ line :: linesOf children := by simp
  have hheader : AboutLines s.script (line :: linesOf children)
      (parseHeader s.world.realm.registry (s.scope line) key).entries :=
    AboutLines.mono (aboutLines_singleton.2 (owned_parseHeader _ (s.scope line) _).located) hown
  have herror (message : String) : AboutLines s.script (line :: linesOf children)
      [.error (some ⟨s.script, line⟩) message .semantic] := (aboutLines_error _ _).mono hown
  have hparsed := (Leaves.refl s).note
    (parseHeader s.world.realm.registry (s.scope line) key).entries
  unfold readTrigger
  simp only
  split
  · exact ⟨_, hparsed, hheader⟩
  · next header _ =>
    split
    · exact ⟨_, hparsed.complain _ _, aboutLines_append.2 ⟨hheader, herror _⟩⟩
    · have hadds := adds_readBlock (honest_ofRegistry s.world.realm.registry)
        ⟨s.world.realm.registry.system, s.script, header.kinds, [],
          s.world.realm.options.warnMissingAnd⟩ children .none ⟨.no, 0, []⟩
      have hbody := (hadds.aboutLines rfl).mono (List.subset_cons_self line _)
      have hlines := aboutLines_append.2 ⟨hheader, hbody⟩
      have hread := hparsed.note (readBody (.ofRegistry s.world.realm.registry)
        ⟨s.world.realm.registry.system, s.script, header.kinds, [],
          s.world.realm.options.warnMissingAnd⟩ .no children).entries
      split
      · refine ⟨_, Leaves.complain ?_ _ _, aboutLines_append.2 ⟨hlines, herror _⟩⟩
        exact ⟨rfl, rfl, hread.entries⟩
      · exact ⟨_, ⟨rfl, rfl, hread.entries⟩, hlines⟩

/-- The lines of a node at the top that are read. -/
def linesRead (node : Node) : List Nat :=
  if isSection "variables" node then node.children.map Node.line else linesOfNode node

theorem linesRead_subset (node : Node) : linesRead node ⊆ linesOfNode node := by
  unfold linesRead
  split
  · exact fun n hn => mem_linesOfNode_of_child hn
  · exact List.Subset.refl _

/-- A node at the top makes the offers of its lines, and leaves entries about those it reads. -/
theorem leaves_readTop (s : Loading) (node : Node) :
    ∃ entries, s.Leaves (s.readTop node) (s.offersAt node) entries ∧
      AboutLines s.script (linesRead node) entries ∧
      (isSection "variables" node = true → ∀ child ∈ node.children,
        (∃ o ∈ s.offersAt node, o.line = child.line) ∨ Reported s.script entries child.line) := by
  cases node with
  | entry line key =>
    refine ⟨_, (Leaves.refl s).complain _ _, aboutLines_error _ _, ?_⟩
    intro hsection
    cases hsection
  | heading line key children =>
    cases hsection : isSection "variables" (.heading line key children) with
    | true =>
      obtain ⟨entries, hleaves, habout, hcount⟩ := s.leaves_readDefaults children
      simp only [readTop, offersAt, linesRead, hsection, if_true]
      exact ⟨entries, hleaves, habout, fun _ => hcount⟩
    | false =>
      obtain ⟨entries, hleaves, habout⟩ := s.leaves_readTrigger line key children
      simp only [readTop, offersAt, linesRead, hsection, Bool.false_eq_true, if_false]
      refine ⟨entries, hleaves, habout, ?_⟩
      intro hsection
      cases hsection

/-- The nodes at the top of a script one after the other. -/
theorem leaves_readTops (s : Loading) (nodes : List Node) :
    ∃ entries, s.Leaves (nodes.foldl readTop s) (s.offers nodes) entries ∧
      AboutLines s.script (nodes.flatMap linesRead) entries ∧
      ∀ node ∈ nodes, isSection "variables" node = true → ∀ child ∈ node.children,
        (∃ o ∈ s.offers nodes, o.line = child.line) ∨ Reported s.script entries child.line := by
  induction nodes generalizing s with
  | nil => exact ⟨[], .refl s, List.forall_mem_nil _, List.forall_mem_nil _⟩
  | cons node rest ih =>
    obtain ⟨entries, hleaves, habout, hcount⟩ := s.leaves_readTop node
    obtain ⟨more, hmore, haboutMore, hcountMore⟩ := ih (s.readTop node)
    rw [hleaves.script] at haboutMore hcountMore
    refine ⟨entries ++ more, hleaves.trans hmore, ?_, List.forall_mem_cons.2 ⟨?_, ?_⟩⟩
    · rw [List.flatMap_cons]
      exact aboutLines_append.2 ⟨habout.mono (List.subset_append_left _ _),
        haboutMore.mono (List.subset_append_right _ _)⟩
    · intro hsection child hchild
      refine (hcount hsection child hchild).imp ?_ fun h => reported_append.2 (.inl h)
      rintro ⟨o, ho, hline⟩
      exact ⟨o, List.mem_append_left _ ho, hline⟩
    · intro later hlater hsection child hchild
      refine (hcountMore later hlater hsection child hchild).imp ?_
        fun h => reported_append.2 (.inr h)
      rintro ⟨o, ho, hline⟩
      exact ⟨o, List.mem_append_right _ ho, hline⟩

/-- Only lines right below `variables:` make offers. -/
theorem exists_child_of_offers {s : Loading} {nodes : List Node} {o : Offer}
    (h : o ∈ s.offers nodes) : ∃ node ∈ nodes, isSection "variables" node = true ∧
      o.line ∈ node.children.map Node.line := by
  induction nodes generalizing s with
  | nil => cases h
  | cons node rest ih =>
    rcases List.mem_append.1 h with h | h
    · unfold offersAt at h
      split at h
      · next hsection =>
        exact ⟨node, List.mem_cons_self, hsection, line_mem_of_offersIn h⟩
      · cases h
    · obtain ⟨later, hlater, hfound⟩ := ih h
      exact ⟨later, List.mem_cons_of_mem _ hlater, hfound⟩

end Loading

end TriggerScript
