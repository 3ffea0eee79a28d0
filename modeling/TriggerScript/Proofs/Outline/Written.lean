import TriggerScript.Outline.Reader
import TriggerScript.Proofs.Text.Trimming

/-!
# Written outlines

The ways in which an outline can be written down. Each node has a line, and the nodes below a
heading are indented by the indentation of the heading and one unit more. Comments and idle lines
can stand anywhere.

* `Blanks`, `PlainKey`, `Remark`, `Idle` : the parts of lines.
* `Written` : the lines of nodes, numbered as the nodes say.
* `Spelled` : lines as a text, each with an end.
* `stripComment_written`, `stripComment_idle` : what a comment leaves of a line.
* `unbroken_of_written` : no line that was written has a break in it.
-/

namespace TriggerScript.Outline

open Text

/-! ### Lines -/

/-- Some spaces and tabs. -/
def Blanks (cs : List Char) : Prop :=
  ∀ c ∈ cs, c = ' ' ∨ c = '\t'

/-- A key: not empty, on one line, and without blanks around it. -/
structure PlainKey (key : List Char) : Prop where
  nonempty : key ≠ []
  unbroken : '\n' ∉ key
  first : ∀ c ∈ key.head?, isBlank c = false
  last : ∀ c ∈ key.getLast?, isBlank c = false

instance (cs : List Char) : Decidable (Blanks cs) :=
  List.decidableBAll (fun c => c = ' ' ∨ c = '\t') cs

instance (key : List Char) : Decidable (PlainKey key) :=
  have := fun cs : List Char => List.decidableBAll (fun c => isBlank c = false) cs
  decidable_of_iff (key ≠ [] ∧ '\n' ∉ key ∧ (∀ c ∈ key.head?.toList, isBlank c = false) ∧
      ∀ c ∈ key.getLast?.toList, isBlank c = false)
    ⟨fun ⟨hne, hn, hfirst, hlast⟩ => ⟨hne, hn, by simpa using hfirst, by simpa using hlast⟩,
      fun ⟨hne, hn, hfirst, hlast⟩ => ⟨hne, hn, by simpa using hfirst, by simpa using hlast⟩⟩

/-- A text in which every mark of a comment is doubled. -/
def doubled (cs : List Char) : List Char :=
  replaceChar '#' ['#', '#'] cs

/-- A comment: the mark and a text that does not start with another one. -/
inductive Comment : List Char → Prop where
  | mk (text : List Char) (unmarked : text.head? ≠ some '#') (unbroken : '\n' ∉ text) :
    Comment ('#' :: text)

/-- What may follow the text of a line: nothing, or a space and a comment. -/
inductive Remark : List Char → Prop where
  | none : Remark []
  | comment {text : List Char} (h : Comment text) : Remark (' ' :: text)

/-- A blank line, or one that holds a comment only. -/
inductive Idle : List Char → Prop where
  | blank {cs : List Char} (blank : ∀ c ∈ cs, isBlank c) (unbroken : '\n' ∉ cs) : Idle cs
  | comment (cs : List Char) {text : List Char} (blank : ∀ c ∈ cs, isBlank c)
    (unbroken : '\n' ∉ cs) (h : Comment text) : Idle (cs ++ text)

/-- The lines of some nodes with the same indentation, from the line with the given number on. -/
inductive Written : List Char → Nat → List Node → List (List Char) → Prop where
  | nil {indent : List Char} {line : Nat} : Written indent line [] []
  | idle {indent raw : List Char} {line : Nat} {nodes : List Node} {lines : List (List Char)}
    (hraw : Idle raw) (rest : Written indent (line + 1) nodes lines) :
    Written indent line nodes (raw :: lines)
  | entry {indent key remark : List Char} {line : Nat} {nodes : List Node}
    {lines : List (List Char)} (hkey : PlainKey key) (hcolon : key.getLast? ≠ some ':')
    (hremark : Remark remark) (rest : Written indent (line + 1) nodes lines) :
    Written indent line (.entry line (String.ofList key) :: nodes)
      ((indent ++ doubled key ++ remark) :: lines)
  | heading {indent unit key remark : List Char} {line : Nat} {children nodes : List Node}
    {inner lines : List (List Char)} (hkey : PlainKey key) (hremark : Remark remark)
    (hunit : Blanks unit) (hdeeper : unit ≠ [])
    (below : Written (indent ++ unit) (line + 1) children inner)
    (rest : Written indent (line + 1 + inner.length) nodes lines) :
    Written indent line (.heading line (String.ofList key) children :: nodes)
      ((indent ++ doubled key ++ [':'] ++ remark) :: (inner ++ lines))

/-- Lines as a text. Each line ends in a line feed, with a carriage return before it or not; the
last line may do without. -/
inductive Spelled : List (List Char) → List Char → Prop where
  | nil : Spelled [] []
  | last (line : List Char) : Spelled [line] line
  | feed (line : List Char) {lines : List (List Char)} {text : List Char}
    (rest : Spelled lines text) : Spelled (line :: lines) (line ++ '\n' :: text)
  | returnFeed (line : List Char) {lines : List (List Char)} {text : List Char}
    (rest : Spelled lines text) : Spelled (line :: lines) (line ++ '\r' :: '\n' :: text)

/-! ### Line feeds -/

theorem Remark.unbroken {cs : List Char} (h : Remark cs) : '\n' ∉ cs := by
  cases h with
  | none => simp
  | comment h =>
    obtain ⟨_, _, h⟩ := h
    simpa using h

theorem Idle.unbroken {cs : List Char} (h : Idle cs) : '\n' ∉ cs := by
  cases h with
  | blank _ h => exact h
  | comment _ _ h htext =>
    obtain ⟨_, _, htext⟩ := htext
    simpa [h] using htext

theorem not_mem_doubled {cs : List Char} (h : '\n' ∉ cs) : '\n' ∉ doubled cs := by
  intro hmem
  obtain ⟨c, hc, hmem⟩ := List.mem_flatMap.1 hmem
  split at hmem
  · simp at hmem
  · exact h (List.mem_singleton.1 hmem ▸ hc)

theorem not_mem_of_blanks {c : Char} {cs : List Char} (h : Blanks cs) (hspace : c ≠ ' ')
    (htab : c ≠ '\t') : c ∉ cs :=
  fun hc => (h c hc).elim hspace htab

/-- No written line is broken by a line feed. -/
theorem unbroken_of_written {indent : List Char} {line : Nat} {nodes : List Node}
    {lines : List (List Char)} (h : Written indent line nodes lines) (hblanks : Blanks indent) :
    ∀ raw ∈ lines, '\n' ∉ raw := by
  induction h with
  | nil => simp
  | idle hraw rest ih => exact List.forall_mem_cons.2 ⟨hraw.unbroken, ih hblanks⟩
  | entry hkey _ hremark rest ih =>
    refine List.forall_mem_cons.2 ⟨?_, ih hblanks⟩
    simp [not_mem_of_blanks hblanks, not_mem_doubled hkey.unbroken, hremark.unbroken]
  | heading hkey hremark hunit _ below rest ihbelow ihrest =>
    have hunder : Blanks _ := fun c hc => (List.mem_append.1 hc).elim (hblanks c) (hunit c)
    refine List.forall_mem_cons.2 ⟨?_, fun raw hraw => ?_⟩
    · simp [not_mem_of_blanks hblanks, not_mem_doubled hkey.unbroken, hremark.unbroken]
    · exact (List.mem_append.1 hraw).elim (ihbelow hunder raw) (ihrest hblanks raw)

/-! ### Blanks -/

theorem isBlank_of_blanks {cs : List Char} (h : Blanks cs) : ∀ c ∈ cs, isBlank c := by
  intro c hc
  obtain rfl | rfl := h c hc <;> rfl

/-! ### Comments -/

theorem uncomment_cons_of_ne {c : Char} (h : c ≠ '#') (cs : List Char) :
    uncomment (c :: cs) = c :: uncomment cs :=
  uncomment.eq_3 c cs (fun _ hc _ => h hc) h

theorem uncomment_append_of_not_mem {cs : List Char} (h : '#' ∉ cs) (rest : List Char) :
    uncomment (cs ++ rest) = cs ++ uncomment rest := by
  induction cs with
  | nil => rfl
  | cons c cs ih =>
    obtain ⟨hc, hcs⟩ := not_or.1 (mt List.mem_cons.2 h)
    rw [List.cons_append, uncomment_cons_of_ne (Ne.symm hc), ih hcs, List.cons_append]

theorem uncomment_doubled_append (cs rest : List Char) :
    uncomment (doubled cs ++ rest) = cs ++ uncomment rest := by
  induction cs with
  | nil => rfl
  | cons c cs ih =>
    by_cases hc : c = '#'
    · subst hc
      exact congrArg _ ih
    · have hone : doubled (c :: cs) = [c] ++ doubled cs := by simp [doubled, replaceChar, hc]
      rw [hone, List.append_assoc, uncomment_append_of_not_mem (by simp [Ne.symm hc]), ih,
        List.singleton_append, List.cons_append]

theorem uncomment_comment {cs : List Char} (h : Comment cs) : uncomment cs = [] := by
  obtain ⟨text, hunmarked, -⟩ := h
  cases text with
  | nil => rfl
  | cons c rest => rw [uncomment]; rintro _ ⟨rfl⟩; exact hunmarked rfl

theorem isBlank_of_mem_uncomment_remark {cs : List Char} (h : Remark cs) :
    ∀ c ∈ uncomment cs, isBlank c := by
  cases h with
  | none => simp [uncomment]
  | @comment text h =>
    rw [uncomment_cons_of_ne (by decide), uncomment_comment h]
    exact List.forall_mem_singleton.2 rfl

/-- A comment leaves the indentation and the text of a line. -/
theorem stripComment_written {indent key mark remark : List Char} (hindent : Blanks indent)
    (hmark : '#' ∉ mark) (hlast : ∀ c ∈ (key ++ mark).getLast?, isBlank c = false)
    (hne : key ≠ []) (hremark : Remark remark) :
    stripComment (indent ++ doubled key ++ mark ++ remark) = indent ++ (key ++ mark) := by
  have hcontent : ∀ c ∈ (indent ++ (key ++ mark)).getLast?, isBlank c = false := by
    rwa [List.getLast?_append_of_ne_nil _ (by simp [hne])]
  have hmarks : '#' ∉ indent := not_mem_of_blanks hindent (by decide) (by decide)
  rw [stripComment, List.append_assoc, List.append_assoc, uncomment_append_of_not_mem hmarks,
    uncomment_doubled_append, uncomment_append_of_not_mem hmark, ← List.append_assoc key,
    ← List.append_assoc, trimEnd_append_of_blank _ (isBlank_of_mem_uncomment_remark hremark),
    trimEnd_of_last hcontent]

theorem uncomment_of_blank {cs : List Char} (h : ∀ c ∈ cs, isBlank c) (rest : List Char) :
    uncomment (cs ++ rest) = cs ++ uncomment rest :=
  uncomment_append_of_not_mem (fun hmem => absurd (h _ hmem) (by decide)) rest

/-- Nothing is left of an idle line. -/
theorem stripComment_idle {cs : List Char} (h : Idle cs) : stripComment cs = [] := by
  cases h with
  | blank hblank _ =>
    have huncomment := uncomment_of_blank hblank []
    rw [List.append_nil] at huncomment
    rw [stripComment, huncomment, uncomment, List.append_nil, trimEnd_of_blank hblank]
  | comment cs hblank _ hcomment =>
    rw [stripComment, uncomment_of_blank hblank, uncomment_comment hcomment, List.append_nil,
      trimEnd_of_blank hblank]

/-- A blank at the end of a line makes no difference. -/
theorem stripComment_concat {c : Char} (hc : isBlank c) (cs : List Char) :
    stripComment (cs ++ [c]) = stripComment cs := by
  have hmark : c ≠ '#' := by rintro rfl; exact absurd hc (by decide)
  have huncomment : uncomment (cs ++ [c]) = uncomment cs ∨
      uncomment (cs ++ [c]) = uncomment cs ++ [c] := by
    fun_induction uncomment cs with
    | case1 rest ih => simpa [uncomment] using ih
    | case2 rest hrest =>
      refine .inl (uncomment.eq_2 _ fun more hmore => ?_)
      cases rest with
      | nil => exact hmark (List.cons.inj hmore).1
      | cons d rest => exact hrest rest (by rw [(List.cons.inj hmore).1])
    | case3 d rest _ hd ih =>
      rw [List.cons_append, uncomment_cons_of_ne hd]
      simpa using ih
    | case4 => exact .inr (uncomment_cons_of_ne hmark [])
  rw [stripComment, stripComment]
  obtain h | h := huncomment
  · rw [h]
  · rw [h, trimEnd_append_of_blank _ (List.forall_mem_singleton.2 hc)]

end TriggerScript.Outline
