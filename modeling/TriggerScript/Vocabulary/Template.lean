import TriggerScript.Registry.Setup

/-!
# Texts with expressions in them

Quoted texts and the names of variables may hold expressions between percent signs. A doubled
percent sign is one percent sign, and inside quotes a doubled quote is one quote.

* `Piece`, `cutTemplate` : such a text, cut into plain pieces and the texts of expressions.
* `readTemplate` : the pieces with their expressions read.
* `variableName` : the name of a variable, in which braces have to pair up.
-/

namespace TriggerScript

/-- A piece of a text before its expressions are read. -/
inductive Piece where
  | text (cs : List Char)
  | segment (cs : List Char)
  /-- A percent sign without a partner. -/
  | unclosed
  deriving DecidableEq, Repr

/-- The text up to the percent sign that ends an expression, and the text behind it. A percent
sign inside braces does not end it. The depth of braces may fall below zero and has no bounds; a
counter of 32 bits with a sign shows the same for every text of fewer than 2^31 characters. -/
def segment? (depth : Int) : List Char → Option (List Char × List Char)
  | [] => none
  | c :: rest =>
    if c == '%' && depth ≤ 0 then some ([], rest)
    else
      let depth := if c == '{' then depth + 1 else if c == '}' then depth - 1 else depth
      (segment? depth rest).map fun r => (c :: r.1, r.2)

theorem segment?_length {depth : Int} {cs inside rest : List Char}
    (h : segment? depth cs = some (inside, rest)) : rest.length < cs.length := by
  induction cs generalizing depth inside rest with
  | nil => simp [segment?] at h
  | cons c cs ih =>
    rw [segment?] at h
    split at h
    · cases h; simp
    · obtain ⟨r, hr, he⟩ := Option.map_eq_some_iff.1 h
      cases he
      have := ih hr
      simp only [List.length_cons]
      omega

/-- A plain piece, unless it is empty. -/
def plainPiece (text : List Char) : List Piece :=
  if text.isEmpty then [] else [.text text.reverse]

/-- The pieces of a text that goes on behind the plain characters given in reverse. -/
def cutTemplate (quoted : Bool) (text cs : List Char) : List Piece :=
  match cs with
  | [] => plainPiece text
  | c :: rest =>
    if quoted && c == '"' then cutTemplate quoted ('"' :: text) (rest.drop 1)
    else if c == '%' then
      if rest.head? == some '%' then cutTemplate quoted ('%' :: text) (rest.drop 1)
      else match h : segment? 0 rest with
        | none => plainPiece text ++ [.unclosed]
        | some (inside, after) =>
          have := segment?_length h
          plainPiece text ++ .segment inside :: cutTemplate quoted [] after
    else cutTemplate quoted (c :: text) rest
  termination_by cs.length
  decreasing_by all_goals simp_wf; try omega

/-- Reads the expressions among some pieces. -/
def readPieces (whole : String) : List Piece → Setup (List Part)
  | [] => .accept []
  | .text cs :: rest => (readPieces whole rest).map fun parts => .text (String.ofList cs) :: parts
  | .segment cs :: rest =>
    .parse (String.ofList cs) (.many [objectType]) fun
      | none => .reject
      | some e => (readPieces whole rest).map fun parts => .expression e :: parts
  | .unclosed :: _ =>
    .refuse ("Unclosed '%' in '" ++ whole ++ "'; write '%%' for a literal percent sign") .semantic

/-- Reads a text with expressions in it; an empty text is one empty piece. -/
def readTemplate (quoted : Bool) (content : String) : Setup (List Part) :=
  (readPieces content (cutTemplate quoted [] content.toList)).map fun parts =>
    if parts.isEmpty then [.text ""] else parts

/-- The depth of braces at the end of a text, unless some brace closes too early. It has no bound, as
in `segment?`. -/
def braceDepth? (depth : Nat) : List Char → Option Nat
  | [] => some depth
  | c :: rest =>
    if c == '{' then braceDepth? (depth + 1) rest
    else if c == '}' then
      match depth with
      | 0 => none
      | d + 1 => braceDepth? d rest
    else braceDepth? depth rest

/-- The name of a variable as it stands between braces. -/
def variableName (text : String) : Setup (List Part) :=
  match braceDepth? 0 text.toList with
  | none => .reject
  | some 0 => readTemplate false text
  | some _ =>
    .refuse ("'\x7b" ++ text ++ "\x7d' is not a valid variable name") .semantic

end TriggerScript
