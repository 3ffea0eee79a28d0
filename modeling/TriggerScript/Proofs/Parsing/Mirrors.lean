import TriggerScript.Proofs.Parsing.BlockForm
import TriggerScript.Proofs.Parsing.Shares

/-!
# Lines and the steps that they are read as

If reading a block leaves no error, each of its lines is a step or a further branch of one, in the
order of the lines.

* `Mirrors` : some nodes are read as further branches of the conditional above them, and then as
  steps.
* `Continues` : the same of nodes that may continue what is pending.
* `leads_readNode` : one node.
* `mirrors_readBlock` : the nodes of a block, by induction on them.
-/

namespace TriggerScript.Parsing

open TriggerScript.Flow

variable {C E X : Type}

/-- Some nodes are read as branches and then as steps. The branches are further branches of the
conditional above the nodes, if there is one; then it is known whether it has its last branch. A
line of its own is a step, a loop is a step with the lines inside it, and a heading that begins a
conditional is a step with its first branch. -/
inductive Mirrors (r : LineReader C E X) :
    Place → Option Bool → List Node → List (Branch C E X) → List (Step C E X) → Prop where
  | nil {place : Place} : Mirrors r place none [] [] []
  | check {place : Place} {p : Progress} {line : Nat} {key : String} {rest : List Node}
    {steps : List (Step C E X)} {id : ItemId} {c : C}
    (h : (r.statement (place.scope p line) (Text.trimString key)).result = some (.inl c))
    (hrest : Mirrors r place none rest [] steps) :
    Mirrors r place none (.entry line key :: rest) [] (.check id line c :: steps)
  | act {place : Place} {p : Progress} {line : Nat} {key : String} {rest : List Node}
    {steps : List (Step C E X)} {id : ItemId} {e : E}
    (h : (r.statement (place.scope p line) (Text.trimString key)).result = some (.inr e))
    (hrest : Mirrors r place none rest [] steps) :
    Mirrors r place none (.entry line key :: rest) [] (.act id line e :: steps)
  | choose {place : Place} {p : Progress} {line : Nat} {key text : String}
    {children rest : List Node} {body steps : List (Step C E X)} {branches : List (Branch C E X)}
    {id : ItemId} {c : C} (hkind : classify key true = .ifHolds text)
    (h : (r.condition (place.scope p line) text).result = some c)
    (hbody : Mirrors r place none children [] body)
    (hrest : Mirrors r place (some false) rest branches steps) :
    Mirrors r place none (.heading line key children :: rest) []
      (.choose id line (.mk (some c) body :: branches) :: steps)
  | loop {place : Place} {p : Progress} {line : Nat} {key text : String}
    {children rest : List Node} {body steps : List (Step C E X)} {id : ItemId} {x : X}
    (hkind : classify key true = .loop text)
    (h : (r.values (place.scope p line) text).result = some x)
    (hbody : Mirrors r (place.insideLoop ⟨id, r.returns x⟩) none children [] body)
    (hrest : Mirrors r place none rest [] steps) :
    Mirrors r place none (.heading line key children :: rest) [] (.loop id line x body :: steps)
  | whileHolds {place : Place} {p : Progress} {line : Nat} {key text : String}
    {children rest : List Node} {body steps : List (Step C E X)} {id : ItemId} {c : C}
    (hkind : classify key true = .whileHolds text)
    (h : (r.condition (place.scope p line) text).result = some c)
    (hbody : Mirrors r place none children [] body)
    (hrest : Mirrors r place none rest [] steps) :
    Mirrors r place none (.heading line key children :: rest) []
      (.whileHolds id line c body :: steps)
  | close {place : Place} {hasElse : Bool} {nodes : List Node} {steps : List (Step C E X)}
    (h : Mirrors r place none nodes [] steps) : Mirrors r place (some hasElse) nodes [] steps
  | elseIf {place : Place} {p : Progress} {line : Nat} {key text : String}
    {children rest : List Node} {body steps : List (Step C E X)} {branches : List (Branch C E X)}
    {c : C} (hkind : classify key true = .elseIf text)
    (h : (r.condition (place.scope p line) text).result = some c)
    (hbody : Mirrors r place none children [] body)
    (hrest : Mirrors r place (some false) rest branches steps) :
    Mirrors r place (some false) (.heading line key children :: rest)
      (.mk (some c) body :: branches) steps
  | otherwise {place : Place} {line : Nat} {key : String} {children rest : List Node}
    {body steps : List (Step C E X)} {branches : List (Branch C E X)}
    (hkind : classify key true = .otherwise)
    (hbody : Mirrors r place none children [] body)
    (hrest : Mirrors r place (some true) rest branches steps) :
    Mirrors r place (some false) (.heading line key children :: rest)
      (.mk none body :: branches) steps

/-- Lines are never read as nothing. -/
theorem Mirrors.ne_nil {r : LineReader C E X} {place : Place} {nodes : List Node}
    {branches : List (Branch C E X)} {steps : List (Step C E X)}
    (h : Mirrors r place none nodes branches steps) (hnodes : nodes ≠ []) : steps ≠ [] := by
  cases h with
  | nil => exact absurd rfl hnodes
  | check => exact List.cons_ne_nil _ _
  | act => exact List.cons_ne_nil _ _
  | choose => exact List.cons_ne_nil _ _
  | loop => exact List.cons_ne_nil _ _
  | whileHolds => exact List.cons_ne_nil _ _

/-- Some nodes go on with the branches that are pending, and then are read as steps. -/
def Continues (r : LineReader C E X) (place : Place) (pending : Pending C E X) (nodes : List Node)
    (steps : List (Step C E X)) : Prop :=
  match pending.chain with
  | none => Mirrors r place none nodes [] steps
  | some c => ∃ branches later,
      steps = .choose c.id c.line (c.branches.reverse ++ branches) :: later ∧
      Mirrors r place (some c.hasElse) nodes branches later

/-- What is inside a heading is read line by line, if that leaves no error. -/
def InsideMirrors (r : LineReader C E X) (children : List Node) (inside : Inside C E X) : Prop :=
  ∀ place p, errorsOf (inside place p).2.entries = [] →
    Mirrors r place none children [] (inside place p).1

/-- A node leads from what is pending before it to what is pending behind it, and its steps. -/
structure Leads (r : LineReader C E X) (place : Place) (node : Node) (pending : Pending C E X)
    (steps : List (Step C E X)) (after : Pending C E X) : Prop where
  continues : ∀ {rest more}, Continues r place after rest more →
    Continues r place pending (node :: rest) (steps ++ more)
  skipElse : after.skipElse = false

section Lines

variable {r : LineReader C E X} {place : Place} {line : Nat} {key text : String}
  {children : List Node} {inside : Inside C E X} {pending : Pending C E X} {p : Progress}

theorem continues_of_chain_none {nodes : List Node} {steps : List (Step C E X)}
    (h : pending.chain = none) :
    Continues r place pending nodes steps ↔ Mirrors r place none nodes [] steps := by
  simp [Continues, h]

/-- Nodes that do not continue what is pending end it. -/
theorem continues_closeChain {nodes : List Node} {steps : List (Step C E X)}
    (h : Mirrors r place none nodes [] steps) :
    Continues r place pending nodes ((closeChain pending.chain p).1 ++ steps) := by
  unfold Continues closeChain
  cases pending.chain with
  | none => exact h
  | some c => exact ⟨[], steps, by simp [Chain.close], .close h⟩

theorem errorsOf_complain (message : String) :
    errorsOf (place.complain p line message).entries ≠ [] := by
  simp [Place.complain, errorsOf, Entry.error, Entry.isError]

/-- A line that could not be read has left an error. -/
theorem Owned.not_quiet {α : Type} {location : Option Location} {a : Attempt α}
    (h : Owned location a) (hnone : a.result = none) (entries : List Entry) :
    errorsOf (entries ++ a.entries) ≠ [] := by
  rw [errorsOf_append]
  exact List.append_ne_nil_of_right_ne_nil _ (h.tidy.complains hnone)

theorem classify_ne_statement (key text : String) : classify key true ≠ .statement text := by
  unfold classify
  dsimp only [Bool.not_true]
  repeat' split
  all_goals simp_all

/-- Lines that are run any number of times are left, and so is the step. -/
theorem readRepeating_of_quiet {inside : ItemId → Progress → List (Step C E X) × Progress}
    {step : ItemId → List (Step C E X) → Step C E X}
    (hbody : ∀ id p, errorsOf (inside id p).2.entries = [] → (inside id p).1 ≠ [])
    (hquiet : errorsOf (readRepeating inside step p).2.entries = []) :
    ∃ q, errorsOf (inside p.next q).2.entries = [] ∧
      (readRepeating inside step p).1 = [step p.next (inside p.next q).1] := by
  refine ⟨{ p with next := p.next + 1 }, ?_⟩
  have hne := hbody p.next { p with next := p.next + 1 }
  revert hquiet
  rcases hresult : inside p.next { p with next := p.next + 1 } with ⟨body, q⟩
  rw [hresult] at hne
  simp only [readRepeating, Progress.draw, hresult]
  cases body with
  -- A loop is dropped without a word of its own, but not without one from inside it.
  | nil => exact fun hquiet => absurd rfl (hne hquiet)
  | cons first rest => exact fun hquiet => ⟨hquiet, rfl⟩

variable (hr : r.Honest)

include hr

theorem mirrors_readLine (hquiet : errorsOf (readLine r place line key p).2.entries = [])
    {rest : List Node} {more : List (Step C E X)} (hmore : Mirrors r place none rest [] more) :
    Mirrors r place none (.entry line key :: rest) [] ((readLine r place line key p).1 ++ more) := by
  have howned := hr.statement (place.scope p line) (Text.trimString key)
  revert hquiet
  unfold readLine Progress.attempt
  cases hresult : (r.statement (place.scope p line) (Text.trimString key)).result with
  | none => exact fun hquiet => absurd hquiet (howned.not_quiet hresult _)
  | some statement =>
    intro _
    cases statement with
    | inl c => exact .check hresult hmore
    | inr e => exact .act hresult hmore

theorem leads_beginChain (hkind : classify key true = .ifHolds text)
    (hin : InsideMirrors r children inside) (hpending : pending.chain = none)
    (hquiet : errorsOf (beginChain r place line text inside p).2.entries = []) :
    Leads r place (.heading line key children) pending []
      (beginChain r place line text inside p).1 := by
  have howned := hr.condition (place.scope p line) text
  revert hquiet
  unfold beginChain Progress.attempt
  cases hresult : (r.condition (place.scope p line) text).result with
  | none => exact fun hquiet => absurd hquiet (howned.not_quiet hresult _)
  | some c =>
    intro hquiet
    refine ⟨fun {rest more} hmore => ?_, rfl⟩
    obtain ⟨branches, later, rfl, hlater⟩ := hmore
    exact (continues_of_chain_none hpending).2 (.choose hkind hresult (hin place _ hquiet) hlater)

/-- A further branch belongs to the conditional that is pending. -/
theorem leads_continueChain {text : Option String} {complaint : String}
    (hkind : classify key true = text.elim .otherwise .elseIf)
    (hin : InsideMirrors r children inside) (hskip : pending.skipElse = false)
    (hquiet : errorsOf
      (continueChain r place line text complaint inside pending p).2.entries = []) :
    Leads r place (.heading line key children) pending []
      (continueChain r place line text complaint inside pending p).1 := by
  revert hquiet
  unfold continueChain
  rw [if_neg (by simp [hskip])]
  split
  · exact fun hquiet => absurd hquiet (errorsOf_complain complaint)
  next begun hbegun =>
  obtain ⟨hchain, helse⟩ := Option.filter_eq_some_iff.1 hbegun
  have helse : begun.hasElse = false := by simpa using helse
  cases text with
  | none =>
    intro hquiet
    refine ⟨fun {rest more} hmore => ?_, hskip⟩
    obtain ⟨branches, later, rfl, hlater⟩ := hmore
    simp only [Continues, hchain, helse]
    refine ⟨_ :: branches, later, ?_, .otherwise hkind (hin place _ hquiet) hlater⟩
    simp [Chain.add]
  | some text =>
    have howned := hr.condition (place.scope p line) text
    simp only [Progress.attempt]
    cases hresult : (r.condition (place.scope p line) text).result with
    | none => exact fun hquiet => absurd hquiet (howned.not_quiet hresult _)
    | some c =>
      intro hquiet
      refine ⟨fun {rest more} hmore => ?_, hskip⟩
      obtain ⟨branches, later, rfl, hlater⟩ := hmore
      simp only [Continues, hchain, helse]
      refine ⟨_ :: branches, later, ?_, .elseIf hkind hresult (hin place _ hquiet) hlater⟩
      simp [Chain.readBranch, Chain.add]

theorem mirrors_readLoop (hkind : classify key true = .loop text) (hchildren : children ≠ [])
    (hin : InsideMirrors r children inside)
    (hquiet : errorsOf (readLoop r place line text inside p).2.entries = [])
    {rest : List Node} {more : List (Step C E X)} (hmore : Mirrors r place none rest [] more) :
    Mirrors r place none (.heading line key children :: rest) []
      ((readLoop r place line text inside p).1 ++ more) := by
  have howned := hr.values (place.scope p line) text
  revert hquiet
  unfold readLoop Progress.attempt
  cases hresult : (r.values (place.scope p line) text).result with
  | none => exact fun hquiet => absurd hquiet (howned.not_quiet hresult _)
  | some values =>
    dsimp only
    split
    · exact fun hquiet => absurd hquiet (errorsOf_complain _)
    · intro hquiet
      obtain ⟨q, hbody, hstep⟩ := readRepeating_of_quiet
        (fun id p hquiet => (hin (place.insideLoop ⟨id, r.returns values⟩) p hquiet).ne_nil
          hchildren) hquiet
      rw [hstep]
      exact .loop hkind hresult (hin _ q hbody) hmore

theorem mirrors_readWhile (hkind : classify key true = .whileHolds text) (hchildren : children ≠ [])
    (hin : InsideMirrors r children inside)
    (hquiet : errorsOf (readWhile r place line text inside p).2.entries = [])
    {rest : List Node} {more : List (Step C E X)} (hmore : Mirrors r place none rest [] more) :
    Mirrors r place none (.heading line key children :: rest) []
      ((readWhile r place line text inside p).1 ++ more) := by
  have howned := hr.condition (place.scope p line) text
  revert hquiet
  unfold readWhile Progress.attempt
  cases hresult : (r.condition (place.scope p line) text).result with
  | none => exact fun hquiet => absurd hquiet (howned.not_quiet hresult _)
  | some c =>
    intro hquiet
    obtain ⟨q, hbody, hstep⟩ := readRepeating_of_quiet
      (fun _ p hquiet => (hin place p hquiet).ne_nil hchildren) hquiet
    rw [hstep]
    exact .whileHolds hkind hresult (hin place q hbody) hmore

theorem leads_readHeading {kind : LineKind} (hkind : classify key true = kind)
    (hchildren : children ≠ []) (hin : InsideMirrors r children inside)
    (hpending : kind.continues = false → pending.chain = none) (hskip : pending.skipElse = false)
    (hquiet : errorsOf (readHeading r place line kind inside pending p).2.2.entries = []) :
    Leads r place (.heading line key children) pending
      (readHeading r place line kind inside pending p).1
      (readHeading r place line kind inside pending p).2.1 := by
  cases kind with
  | ifHolds text => exact leads_beginChain hr hkind hin (hpending rfl) hquiet
  | elseIf text => exact leads_continueChain hr hkind hin hskip hquiet
  | otherwise => exact leads_continueChain hr hkind hin hskip hquiet
  | loop text =>
    refine ⟨fun hmore => ?_, hskip⟩
    rw [continues_of_chain_none (hpending rfl)]
    exact mirrors_readLoop hr hkind hchildren hin hquiet
      ((continues_of_chain_none (hpending rfl)).1 hmore)
  | whileHolds text =>
    refine ⟨fun hmore => ?_, hskip⟩
    rw [continues_of_chain_none (hpending rfl)]
    exact mirrors_readWhile hr hkind hchildren hin hquiet
      ((continues_of_chain_none (hpending rfl)).1 hmore)
  | statement text => exact absurd hkind (classify_ne_statement key text)

omit hr in
/-- What a node does not continue is ended before it. -/
theorem Leads.settle {kind : LineKind} {node : Node} {steps : List (Step C E X)}
    {after : Pending C E X} (h : Leads r place node (settle kind pending p).2.1 steps after) :
    Leads r place node pending ((Parsing.settle kind pending p).1 ++ steps) after := by
  unfold Parsing.settle at h ⊢
  split at h
  · next hkind => rwa [if_pos hkind]
  · next hkind =>
    rw [if_neg hkind]
    refine ⟨fun {rest more} hmore => ?_, h.skipElse⟩
    have hnode := (continues_of_chain_none rfl).1 (h.continues hmore)
    rw [List.append_assoc]
    exact continues_closeChain hnode

omit hr in
theorem skipElse_settle (kind : LineKind) (hskip : pending.skipElse = false) :
    (settle kind pending p).2.1.skipElse = false := by
  unfold settle
  split
  · exact hskip
  · rfl

end Lines

section Blocks

variable {r : LineReader C E X}

mutual

/-- If reading some nodes leaves no error, each of their lines is read as a step or as a branch. -/
theorem mirrors_readBlock (hr : r.Honest) (place : Place) (nodes : List Node)
    {pending : Pending C E X} {p : Progress} (hskip : pending.skipElse = false)
    (hquiet : errorsOf (readBlock r place nodes pending p).2.entries = []) :
    Continues r place pending nodes (readBlock r place nodes pending p).1 := by
  match nodes with
  | [] =>
    rw [readBlock, ← List.append_nil (closeChain _ _).1]
    exact continues_closeChain .nil
  | node :: rest =>
    -- The rest has taken back no error of the node.
    have hnode := (adds_readBlock hr place rest _ _).errorsOf_eq_nil hquiet
    have hleads := leads_readNode hr place node hskip hnode
    exact hleads.continues (mirrors_readBlock hr place rest hleads.skipElse hquiet)

theorem leads_readNode (hr : r.Honest) (place : Place) (node : Node)
    {pending : Pending C E X} {p : Progress} (hskip : pending.skipElse = false)
    (hquiet : errorsOf (readNode r place node pending p).2.2.entries = []) :
    Leads r place node pending (readNode r place node pending p).1
      (readNode r place node pending p).2.1 := by
  match node with
  | .entry line key =>
    refine ⟨fun {rest more} hmore => ?_, rfl⟩
    have hline := mirrors_readLine hr hquiet ((continues_of_chain_none rfl).1 hmore)
    rw [readNode, List.append_assoc]
    exact continues_closeChain hline
  | .heading line key children =>
    have hin : InsideMirrors r children fun place p => readBlock r place children .none p :=
      fun place p hquiet =>
        (continues_of_chain_none rfl).1 (mirrors_readBlock hr place children rfl hquiet)
    revert hquiet
    rw [readNode]
    dsimp only
    split
    · exact fun hquiet => absurd hquiet (errorsOf_complain _)
    · next hchildren =>
      intro hquiet
      have hleads := leads_readHeading hr rfl (by simpa using hchildren) hin settle_chain
        (skipElse_settle _ hskip) hquiet
      exact hleads.settle

end

end Blocks

/-- **If reading the nodes below a header leaves no error, each of their lines is read.** -/
theorem mirrors_readBody {r : LineReader C E X} (hr : r.Honest) (place : Place) (delay : Ternary)
    (nodes : List Node) (hquiet : errorsOf (readBody r place delay nodes).entries = []) :
    Mirrors r place none nodes [] (readBody r place delay nodes).steps :=
  (continues_of_chain_none rfl).1 (mirrors_readBlock hr place nodes rfl hquiet)

end TriggerScript.Parsing
