import Mathlib
import TriggerScript.Parsing.Expression
import TriggerScript.Proofs.Text.Parts
import TriggerScript.Vocabulary.Types

/-!
# Loop values with a number

`loop-value-2` and `loop-number-2` name a loop by its number among the loops around a line, or among
those of them whose values are of a type, counted from the outermost one. The number is read as a
machine word. One that does not fit counts as no number, and the loop is chosen as if only
`loop-value` or `loop-number` had been written.

* `loopNumber_append` : the name of a loop is cut into its base and its number.
* `lookup?_lower` : a type is found by its name in lower case.
* `result_choice_iff` : what is accepted when a loop has been chosen.
* `loopValue_numbered_iff` : which loop a number stands for.
-/

namespace TriggerScript

/-- The number that digits stand for, if it is at most `limit`. -/
theorem Decimal.readNat?_digits (limit : Nat) {ds : List Char} (hds : Text.isDigits ds = true) :
    readNat? limit ds = if digitsValue 0 ds ≤ limit then some (digitsValue 0 ds) else none := by
  have hread : readDigits? ds = some (digitsValue 0 ds) := if_pos hds
  unfold readNat?
  split
  · -- A plus sign is not a digit.
    next rest => exact absurd ((Text.isDigits_iff.1 hds).2 '+' List.mem_cons_self) (by decide)
  · simp only [hread, Option.filter_some, decide_eq_true_eq]

/-- A type is found by its name in lower case. -/
theorem TypeTable.lookup?_lower (types : TypeTable) {name : List Char} (h : Text.Trimmed name) :
    types.lookup? (String.ofList (Text.lower name)) = types.lookup? (String.ofList name) := by
  simp only [lookup?, Text.trimString, Text.lowerString, String.toList_ofList]
  rw [Text.trim_of_trimmed (Text.trimmed_lower h), Text.lower_lower, Text.trim_of_trimmed h]

namespace Vocabulary

/-! ### The name of a loop -/

section Name

variable {name ds : List Char}

theorem trimmed_numbered (hname : Text.Trimmed name) (hds : Text.isDigits ds = true) :
    Text.Trimmed (name ++ '-' :: ds) where
  first := by
    intro c hc
    cases name with
    | nil =>
      obtain rfl := Option.some.inj hc
      decide
    | cons d name => exact hname.first c hc
  last := by
    intro c hc
    obtain ⟨hne, hdigits⟩ := Text.isDigits_iff.1 hds
    rw [List.getLast?_append_of_ne_nil _ (List.cons_ne_nil _ _),
      List.getLast?_cons_of_ne_nil hne] at hc
    exact Text.not_isBlank_of_isDigit (hdigits c (List.mem_of_getLast? hc))

/-- A number does not change how what stands before it is lowered. -/
theorem lower_numbered (hds : Text.isDigits ds = true) :
    Text.lower (name ++ '-' :: ds) = Text.lower name ++ '-' :: ds := by
  refine Text.lower_append_of_settled ?_ (List.forall_mem_cons.2 ⟨?_, fun c hc => ?_⟩) name
  · rw [Text.startsCased_cons]
    rfl
  · exact Text.settled_of_basic (by decide) rfl
  · exact Text.settled_of_isDigit ((Text.isDigits_iff.1 hds).2 c hc)

/-- A name is cut into its base and its number. -/
theorem loopNumber_append (base : List Char) (hds : Text.isDigits ds = true) :
    loopNumber (base ++ '-' :: ds) = (base, if Decimal.digitsValue 0 ds < UInt64.size then
      some (Decimal.digitsValue 0 ds) else none) := by
  have hmark : '-' ∉ ds := fun hmem =>
    absurd ((Text.isDigits_iff.1 hds).2 _ hmem) (by decide)
  rw [loopNumber, Text.cutAtLast?_append_cons hmark]
  simp only [hds, if_true, Decimal.readNat?_digits _ hds,
    ← Nat.lt_iff_le_pred (show 0 < UInt64.size by decide)]

/-- The name of a loop in lower case, cut into its base and its number. -/
theorem loopNumber_of_trimmed {name ds : String} (hname : Text.Trimmed name.toList)
    (hds : Text.isDigits ds.toList = true) :
    String.ofList (Text.lower (Text.trim (name ++ "-" ++ ds).toList)) =
      Text.lowerString (name ++ "-" ++ ds) ∧
    loopNumber (Text.lower (Text.trim (name ++ "-" ++ ds).toList)) =
      (Text.lower name.toList, if Decimal.digitsValue 0 ds.toList < UInt64.size then
        some (Decimal.digitsValue 0 ds.toList) else none) := by
  have hchars : (name ++ "-" ++ ds).toList = name.toList ++ '-' :: ds.toList := by simp
  rw [Text.lowerString, hchars, Text.trim_of_trimmed (trimmed_numbered hname hds)]
  refine ⟨rfl, ?_⟩
  rw [lower_numbered hds, loopNumber_append _ hds]

end Name

/-! ### The loop that is chosen -/

section Choice

variable {read : Parsing.Reader} {location : Option Location} {loops : List LoopInfo}
  {l : LoopInfo} {e : Expression}

/-- A number counts from one. -/
theorem chooseLoop_some_iff {n : Nat} :
    chooseLoop loops (some n) = some l ↔ 1 ≤ n ∧ loops[n - 1]? = some l := by
  cases n with
  | zero => simp [chooseLoop]
  | succ n => simp [chooseLoop]

theorem result_accept (value : Expression) :
    (Parsing.runSetup read location (.accept value)).result = some value := rfl

theorem result_refuse (message : String) (quality : Quality) :
    (Parsing.runSetup read location (Setup.refuse message quality : Setup Expression)).result =
      none := rfl

/-- The value of the chosen loop is accepted; without one there is none. -/
theorem result_choice_iff {chosen : Option LoopInfo} {value : LoopInfo → Expression}
    {message : String} {quality : Quality} :
    (Parsing.runSetup read location (match chosen with
      | some l => .accept (value l)
      | none => .refuse message quality)).result = some e ↔
      ∃ l, e = value l ∧ chosen = some l := by
  cases chosen with
  | none => simp [result_refuse]
  | some l => simp [result_accept, eq_comm]

end Choice

section Numbered

variable {scope : Scope} {c : Capture} {name ds : String}

/-- `loop-value` with a number stands for one of all loops. -/
theorem loopValue_of_value (hregex : c.regexes.head? = some (name ++ "-" ++ ds))
    (hds : Text.isDigits ds.toList = true) {n : Nat} (hn : Decimal.digitsValue 0 ds.toList = n)
    (hname : Text.lowerString name = "value") :
    loopValue scope c =
      match chooseLoop scope.loops (if n < UInt64.size then some n else none) with
      | some l => .accept (.loopValue (Text.lowerString (name ++ "-" ++ ds)) l.id l.type)
      | none => .refuse ("There's no loop that matches 'loop-" ++
          Text.lowerString (name ++ "-" ++ ds) ++ "'") .semantic := by
  have hvalue : Text.lowerString name = Text.lowerString "value" := hname.trans (by decide)
  have htrimmed : Text.Trimmed name.toList :=
    Text.trimmed_of_lowerString_eq hvalue ⟨by rintro c ⟨⟩; rfl, by rintro c ⟨⟩; rfl⟩
  obtain ⟨hshown, hnumber⟩ := loopNumber_of_trimmed htrimmed hds
  have hbase : String.ofList (Text.lower name.toList) = "value" := hname
  unfold loopValue
  rw [hregex]
  cases hchosen : chooseLoop scope.loops (if n < UInt64.size then some n else none) <;>
    simp only [hnumber, hn, hshown, hbase, beq_self_eq_true, if_true, Option.isSome_none,
      Bool.and_false, Bool.false_and, Bool.false_eq_true, if_false, Option.getD_none, loopsOf,
      hchosen]

/-- `loop-` with a type and a number stands for one of the loops over values of the type. -/
theorem loopValue_of_type (hregex : c.regexes.head? = some (name ++ "-" ++ ds))
    (hds : Text.isDigits ds.toList = true) {n : Nat} (hn : Decimal.digitsValue 0 ds.toList = n)
    (htrimmed : Text.Trimmed name.toList) (hname : Text.lowerString name ≠ "value")
    {info : TypeInfo} {plural : Bool}
    (hinfo : scope.system.types.lookup? name = some (info, plural)) :
    loopValue scope c =
      if UInt64.size ≤ n ∧ 1 < (loopsOf scope (some info.code)).length then
        .refuse ("There are multiple loops that match 'loop-" ++
          Text.lowerString (name ++ "-" ++ ds) ++ "'; use 'loop-" ++ Text.lowerString name ++
          "-1', 'loop-" ++ Text.lowerString name ++ "-2', etc.") .semantic
      else
        match chooseLoop (loopsOf scope (some info.code))
          (if n < UInt64.size then some n else none) with
        | some l => .accept (.loopValue (Text.lowerString (name ++ "-" ++ ds)) l.id info.code)
        | none => .refuse ("There's no loop that matches 'loop-" ++
            Text.lowerString (name ++ "-" ++ ds) ++ "'") .semantic := by
  obtain ⟨hshown, hnumber⟩ := loopNumber_of_trimmed htrimmed hds
  have hown : String.ofList (Text.lower name.toList) = Text.lowerString name := rfl
  have hbase : (Text.lowerString name == "value") = false := beq_eq_false_iff_ne.2 hname
  have hlookup : scope.system.types.lookup? (Text.lowerString name) = some (info, plural) := by
    rw [Text.lowerString, TypeTable.lookup?_lower _ htrimmed, String.ofList_toList, hinfo]
  have hlarge : (if n < UInt64.size then some n else none).isNone = decide (UInt64.size ≤ n) := by
    by_cases hword : n < UInt64.size
    · simp [hword]
    · simp [hword, Nat.le_of_not_lt hword]
  unfold loopValue
  rw [hregex]
  cases hchosen : chooseLoop (loopsOf scope (some info.code))
      (if n < UInt64.size then some n else none) <;>
    simp only [hnumber, hn, hshown, hown, hbase, Bool.false_eq_true, if_false, hlookup, hlarge,
      Option.isSome_some, Bool.and_true, Bool.and_eq_true, decide_eq_true_eq, Option.getD_some,
      hchosen]

/-- **Which loop a number stands for.** A number that is a machine word is accepted exactly if there
are as many loops around the line, or as many that fit the type, and stands for that loop, counted
from the outermost one. A larger one is taken for no number: `loop-value` stands for the innermost
loop, and with a type the only loop that fits is meant. -/
theorem loopValue_numbered_iff (hregex : c.regexes.head? = some (name ++ "-" ++ ds))
    (hds : Text.isDigits ds.toList = true) (read : Parsing.Reader) (location : Option Location)
    (e : Expression) :
    let n := Decimal.digitsValue 0 ds.toList
    let shown := Text.lowerString (name ++ "-" ++ ds)
    let result := (Parsing.runSetup read location (loopValue scope c)).result
    (Text.lowerString name = "value" →
      (result = some e ↔ ∃ l, e = .loopValue shown l.id l.type ∧
        (n < UInt64.size ∧ 1 ≤ n ∧ scope.loops[n - 1]? = some l ∨
          UInt64.size ≤ n ∧ scope.loops.getLast? = some l))) ∧
    ∀ info plural, Text.Trimmed name.toList → Text.lowerString name ≠ "value" →
      scope.system.types.lookup? name = some (info, plural) →
      let fits := scope.loops.filter fun l => scope.system.types.isAssignable l.type info.code
      (result = some e ↔ ∃ l, e = .loopValue shown l.id info.code ∧
        (n < UInt64.size ∧ 1 ≤ n ∧ fits[n - 1]? = some l ∨ UInt64.size ≤ n ∧ fits = [l])) := by
  generalize hn : Decimal.digitsValue 0 ds.toList = n
  dsimp only
  constructor
  · intro hname
    rw [loopValue_of_value hregex hds hn hname, result_choice_iff]
    refine exists_congr fun l => and_congr_right fun _ => ?_
    by_cases hword : n < UInt64.size
    · rw [if_pos hword, chooseLoop_some_iff]
      simp [hword, Nat.not_le.2 hword]
    · rw [if_neg hword, chooseLoop]
      simp [hword, Nat.le_of_not_lt hword]
  · intro info plural htrimmed hname hinfo
    have hfits : (scope.loops.filter fun l => scope.system.types.isAssignable l.type info.code) =
        loopsOf scope (some info.code) := rfl
    rw [loopValue_of_type hregex hds hn htrimmed hname hinfo, hfits]
    by_cases hword : n < UInt64.size
    · rw [if_neg fun h => Nat.not_le.2 hword h.1, if_pos hword, result_choice_iff]
      simp [hword, Nat.not_le.2 hword, chooseLoop_some_iff]
    · have hlarge := Nat.le_of_not_lt hword
      match loopsOf scope (some info.code) with
      | [] => simp [hword, chooseLoop, result_refuse]
      | [l] => simp [hword, hlarge, chooseLoop, result_accept, eq_comm]
      | l :: l' :: rest => simp [hword, hlarge, result_refuse]

end Numbered

/-! ### Three loops -/

/-- A line inside loops over numbers, texts and numbers again. -/
def nested : Scope :=
  { (default : Scope) with
    system := { (default : TypeSystem) with types := ⟨[objects, numbers, texts]⟩ }
    loops := [⟨0, numberType⟩, ⟨1, textType⟩, ⟨2, numberType⟩] }

/-- What `loop-` is followed by. -/
def loopNamed (text : String) : Capture := ⟨0, 0, [], [text]⟩

/-- What the line reads a loop value as. -/
def readNested (text : String) : Option Expression :=
  (Parsing.runSetup (fun _ _ => .no) none (loopValue nested (loopNamed text))).result

/-- `loop-Value-02` is the value of the second loop, and `loop-numbers-2` that of the third. There
is no third loop over numbers. -/
theorem loopValue_numbered_iff_nested :
    Text.isDigits "02".toList = true ∧ Text.lowerString "Value" = "value" ∧
    nested.system.types.lookup? "numbers" = some (numbers, true) ∧
    readNested "Value-02" = some (.loopValue "value-02" 1 textType) ∧
    readNested "numbers-2" = some (.loopValue "numbers-2" 2 numberType) ∧
    ∀ e, readNested "numbers-3" ≠ some e := by
  have hzero : Text.isDigits "02".toList = true := by decide
  have hvalue : Text.lowerString "Value" = "value" := by decide
  have hnumbers : nested.system.types.lookup? "numbers" = some (numbers, true) := by rfl
  have htrimmed : Text.Trimmed "numbers".toList := ⟨by rintro c ⟨⟩; rfl, by rintro c ⟨⟩; rfl⟩
  have hother : Text.lowerString "numbers" ≠ "value" := by decide
  have hfits : (nested.loops.filter fun l =>
      nested.system.types.isAssignable l.type numbers.code) =
      [⟨0, numberType⟩, ⟨2, numberType⟩] := by decide
  have hsecond : (loopNamed "Value-02").regexes.head? = some ("Value" ++ "-" ++ "02") := rfl
  have hfitting : (loopNamed "numbers-2").regexes.head? = some ("numbers" ++ "-" ++ "2") := rfl
  have hmissing : (loopNamed "numbers-3").regexes.head? = some ("numbers" ++ "-" ++ "3") := rfl
  refine ⟨hzero, hvalue, hnumbers, ?_, ?_, ?_⟩
  · refine ((loopValue_numbered_iff hsecond hzero _ _ _).1 hvalue).2 ?_
    exact ⟨⟨1, textType⟩, rfl, .inl ⟨by decide, by decide, rfl⟩⟩
  · refine ((loopValue_numbered_iff hfitting (by decide) _ _ _).2 numbers true htrimmed hother
      hnumbers).2 ?_
    exact ⟨⟨2, numberType⟩, rfl, .inl ⟨by decide, by decide, by rw [hfits]; rfl⟩⟩
  · intro e he
    obtain ⟨l, -, ⟨-, -, hthird⟩ | ⟨hhuge, -⟩⟩ :=
      ((loopValue_numbered_iff hmissing (by decide) _ _ _).2 numbers true htrimmed hother
        hnumbers).1 he
    · rw [hfits] at hthird
      cases hthird
    · exact absurd hhuge (by decide)

/-- A number with twenty digits is accepted inside three loops, and with a type if one loop fits. -/
theorem loopValue_of_huge_number :
    Decimal.digitsValue 0 "18446744073709551616".toList = 18446744073709551616 ∧
    nested.loops.length = 3 ∧
    readNested "value-18446744073709551616" =
      some (.loopValue "value-18446744073709551616" 2 numberType) ∧
    readNested "text-18446744073709551616" =
      some (.loopValue "text-18446744073709551616" 1 textType) := by
  exact ⟨by decide, rfl, rfl, rfl⟩

end Vocabulary

end TriggerScript
