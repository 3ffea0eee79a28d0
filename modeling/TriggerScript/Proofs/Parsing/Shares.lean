import TriggerScript.Parsing.Body
import TriggerScript.Proofs.Parsing.Located

/-!
# What each line leaves

The entries that are left by reading a block are those of its lines, one line after the other. A
line that is passed over leaves none.

* `linesOf` : the lines of some nodes in order.
* `Share` : what a line may leave.
* `Adds` : from one progress to another, each line has left its share.
* `adds_readBlock` : the lines of a block, by induction on its nodes.
-/

namespace TriggerScript.Parsing

open TriggerScript.Flow Attempt

variable {C E X : Type}

mutual

/-- The line of a node and those inside it. -/
def linesOfNode : Node → List Nat
  | .entry line _ => [line]
  | .heading line _ children => line :: linesOf children

/-- The lines of some nodes in order. -/
def linesOf : List Node → List Nat
  | [] => []
  | node :: rest => linesOfNode node ++ linesOf rest

end

/-- What a line may leave: at most one error, and nothing that is about another line. -/
structure Share (script : String) (line : Nat) (entries : List Entry) : Prop where
  single : (errorsOf entries).length ≤ 1
  located : ∀ e ∈ entries, e.location = some ⟨script, line⟩

theorem share_nil (script : String) (line : Nat) : Share script line [] :=
  ⟨Nat.zero_le _, nofun⟩

theorem Owned.share {α : Type} {script : String} {line : Nat} {a : Attempt α}
    (h : Owned (some ⟨script, line⟩) a) : Share script line a.entries where
  single := by
    rw [h.tidy]
    split <;> omega
  located := h.located

/-- From one progress to another, each of some lines has left its share. -/
def Adds (script : String) (lines : List Nat) (p q : Progress) : Prop :=
  ∃ shares, List.Forall₂ (Share script) lines shares ∧ q.entries = p.entries ++ shares.flatten

namespace Adds

variable {script : String} {line : Nat} {lines more : List Nat} {p q q' : Progress}

/-- Lines that are passed over. -/
theorem nothing (h : q.entries = p.entries) : Adds script lines p q := by
  refine ⟨lines.map fun _ => [], ?_, by simpa using h⟩
  exact List.forall₂_map_right_iff.2 (List.forall₂_same.2 fun line _ => share_nil script line)

theorem append (h : Adds script lines p q) (hmore : Adds script more q q') :
    Adds script (lines ++ more) p q' := by
  obtain ⟨shares, hshares, hq⟩ := h
  obtain ⟨others, hothers, hq'⟩ := hmore
  refine ⟨shares ++ others, List.rel_append hshares hothers, ?_⟩
  rw [hq', hq, List.flatten_append, List.append_assoc]

/-- A line with its own share, and the lines inside it. -/
theorem cons {entries : List Entry} (hshare : Share script line entries)
    (hq : q.entries = p.entries ++ entries) (hmore : Adds script more q q') :
    Adds script (line :: more) p q' := by
  have hown : Adds script [line] p q := ⟨[entries], .cons hshare .nil, by simpa using hq⟩
  exact hown.append hmore

/-- A line with its own share, inside which no line is read. -/
theorem own {entries : List Entry} (hshare : Share script line entries)
    (hq : q.entries = p.entries ++ entries) : Adds script (line :: more) p q :=
  cons hshare hq (nothing rfl)

/-- Only entries matter. -/
theorem congr (h : Adds script lines p q) {p' : Progress} (hp : p'.entries = p.entries)
    (hq : q'.entries = q.entries) : Adds script lines p' q' := by
  obtain ⟨shares, hshares, heq⟩ := h
  exact ⟨shares, hshares, by rw [hq, heq, hp]⟩

/-- Entries are never taken back. -/
theorem errorsOf_eq_nil (h : Adds script lines p q) (hquiet : errorsOf q.entries = []) :
    errorsOf p.entries = [] := by
  obtain ⟨shares, -, hq⟩ := h
  rw [hq, errorsOf_append, List.append_eq_nil_iff] at hquiet
  exact hquiet.1

end Adds

/-- The lines inside a heading leave their shares. -/
def AddsInside (script : String) (lines : List Nat) (inside : Inside C E X) : Prop :=
  ∀ place p, place.script = script → Adds script lines p (inside place p).2

section Lines

variable {r : LineReader C E X} (hr : r.Honest) (place : Place) (line : Nat) (text : String)
  {lines : List Nat} {inside : Inside C E X} (pending : Pending C E X) (p : Progress)

theorem share_complain (message : String) :
    Share place.script line [.error (some ⟨place.script, line⟩) message .semantic] :=
  ⟨Nat.le_refl 1, by simp [Entry.error]⟩

/-- What could be read has left no error, so a complaint about it is the only one. -/
theorem Owned.share_complain {α : Type} {a : Attempt α} (h : Owned (some ⟨place.script, line⟩) a)
    (hsome : a.result.isSome) (message : String) : Share place.script line
      (a.entries ++ [.error (some ⟨place.script, line⟩) message .semantic]) where
  single := by
    have htidy := h.tidy
    rw [Tidy, hsome] at htidy
    rw [errorsOf_append, List.length_append, htidy]
    exact (Parsing.share_complain place line message).single
  located :=
    List.forall_mem_append.2 ⟨h.located, (Parsing.share_complain place line message).located⟩

theorem entries_closeChain (chain : Option (Chain C E X)) :
    (closeChain chain p).2.entries = p.entries := by
  cases chain <;> rfl

theorem entries_settle (kind : LineKind) : (settle kind pending p).2.2.entries = p.entries := by
  unfold settle
  split
  · rfl
  · exact entries_closeChain p pending.chain

theorem adds_readBranch (hin : AddsInside place.script lines inside) (chain : Chain C E X)
    (condition : Option C) :
    Adds place.script lines p (chain.readBranch place inside condition p).2 :=
  (hin place { p with delay := chain.before } rfl).congr rfl rfl

theorem adds_refuseEmpty (key : String) (kind : LineKind) :
    Adds place.script [line] p (refuseEmpty place line key kind pending p).2 :=
  .own (share_complain place line _) rfl

theorem adds_readRepeating {script : String}
    {inside : ItemId → Progress → List (Step C E X) × Progress}
    (hin : ∀ id p, Adds script lines p (inside id p).2)
    (step : ItemId → List (Step C E X) → Step C E X) :
    Adds script lines p (readRepeating inside step p).2 := by
  have hbody : Adds script lines p (inside p.next { p with next := p.next + 1 }).2 :=
    (hin p.next { p with next := p.next + 1 }).congr rfl rfl
  rcases hresult : inside p.next { p with next := p.next + 1 } with ⟨body, q⟩
  rw [hresult] at hbody
  simp only [readRepeating, Progress.draw, hresult]
  cases body with
  | nil => exact hbody.congr rfl rfl
  | cons => exact hbody.congr rfl rfl

include hr

theorem adds_readLine : Adds place.script [line] p (readLine r place line text p).2 := by
  have hshare := (hr.statement (place.scope p line) (Text.trimString text)).share
  unfold readLine Progress.attempt
  cases (r.statement (place.scope p line) (Text.trimString text)).result with
  | none => exact .own hshare rfl
  | some statement =>
    cases statement with
    | inl c => exact .own hshare rfl
    | inr e =>
      refine .own hshare ?_
      simp only [Progress.draw]
      split <;> rfl

theorem adds_beginChain (hin : AddsInside place.script lines inside) :
    Adds place.script (line :: lines) p (beginChain r place line text inside p).2 := by
  have hshare := (hr.condition (place.scope p line) text).share
  unfold beginChain Progress.attempt
  cases (r.condition (place.scope p line) text).result with
  | none => exact .own hshare rfl
  | some c => exact .cons hshare rfl (adds_readBranch place _ hin _ (some c))

/-- A further branch is passed over, refused, or read. -/
theorem adds_continueChain (text : Option String) (complaint : String)
    (hin : AddsInside place.script lines inside) : Adds place.script (line :: lines) p
      (continueChain r place line text complaint inside pending p).2 := by
  unfold continueChain
  split
  · exact .nothing rfl
  split
  · exact .own (share_complain place line complaint) rfl
  next begun _ =>
  cases text with
  | none =>
    exact .cons (share_nil _ _) (List.append_nil _).symm (adds_readBranch place p hin begun none)
  | some text =>
    have hshare := (hr.condition (place.scope p line) text).share
    simp only [Progress.attempt]
    cases (r.condition (place.scope p line) text).result with
    | none => exact .own hshare rfl
    | some c => exact .cons hshare rfl (adds_readBranch place _ hin begun (some c))

theorem adds_readLoop (hin : AddsInside place.script lines inside) :
    Adds place.script (line :: lines) p (readLoop r place line text inside p).2 := by
  have howned := hr.values (place.scope p line) text
  unfold readLoop Progress.attempt
  cases hresult : (r.values (place.scope p line) text).result with
  | none => exact .own howned.share rfl
  | some values =>
    dsimp only
    split
    · have hshare := howned.share_complain place line (by rw [hresult]; rfl)
        ("Can't loop '" ++ text ++ "' because it's only a single value")
      exact .own hshare (by simp only [Place.complain, List.append_assoc])
    · exact .cons howned.share rfl (adds_readRepeating _
        (fun id p => hin (place.insideLoop ⟨id, r.returns values⟩) p rfl) _)

theorem adds_readWhile (hin : AddsInside place.script lines inside) :
    Adds place.script (line :: lines) p (readWhile r place line text inside p).2 := by
  have hshare := (hr.condition (place.scope p line) text).share
  unfold readWhile Progress.attempt
  cases (r.condition (place.scope p line) text).result with
  | none => exact .own hshare rfl
  | some c => exact .cons hshare rfl (adds_readRepeating _ (fun _ p => hin place p rfl) _)

theorem adds_readHeading (kind : LineKind) (hin : AddsInside place.script lines inside) :
    Adds place.script (line :: lines) p
      (readHeading r place line kind inside pending p).2.2 := by
  cases kind with
  | ifHolds text => exact adds_beginChain hr place line text p hin
  | elseIf text => exact adds_continueChain hr place line pending p _ _ hin
  | otherwise => exact adds_continueChain hr place line pending p _ _ hin
  | loop text => exact adds_readLoop hr place line text p hin
  | whileHolds text => exact adds_readWhile hr place line text p hin
  | statement text => exact .nothing rfl

end Lines

section Blocks

variable {r : LineReader C E X}

mutual

/-- Each line of a block leaves its share, in the order of the lines. -/
theorem adds_readBlock (hr : r.Honest) (place : Place) (nodes : List Node)
    (pending : Pending C E X) (p : Progress) :
    Adds place.script (linesOf nodes) p (readBlock r place nodes pending p).2 := by
  match nodes with
  | [] => exact .nothing (by rw [readBlock, entries_closeChain])
  | node :: rest =>
    exact (adds_readNode hr place node pending p).append (adds_readBlock hr place rest _ _)

theorem adds_readNode (hr : r.Honest) (place : Place) (node : Node) (pending : Pending C E X)
    (p : Progress) :
    Adds place.script (linesOfNode node) p (readNode r place node pending p).2.2 := by
  match node with
  | .entry line key =>
    have hline := adds_readLine hr place line key (closeChain pending.chain p).2
    exact hline.congr (entries_closeChain p pending.chain).symm rfl
  | .heading line key children =>
    have hinside : AddsInside place.script (linesOf children)
        fun place p => readBlock r place children .none p := by
      intro inner p hscript
      rw [← hscript]
      exact adds_readBlock hr inner children .none p
    have hsettled := (entries_settle pending p (classify key true)).symm
    rw [readNode, linesOfNode]
    dsimp only
    split
    · next hempty =>
      rw [List.isEmpty_iff.1 hempty, linesOf]
      exact (adds_refuseEmpty place line _ _ key _).congr hsettled rfl
    · exact (adds_readHeading hr place line _ _ _ hinside).congr hsettled rfl

end

end Blocks

end TriggerScript.Parsing
