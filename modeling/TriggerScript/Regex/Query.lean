import TriggerScript.Regex.Named
import TriggerScript.Text.Edition
import TriggerScript.Text.Segment

/-!
# Questions for sets of characters

What a property escape stands for.

* `age?` : the characters of an edition of the character standard.
* `clusterRole?`, `wordRole?`, `sentenceRole?` : roles where texts are cut, by plain names.
* `Query.set?` : the set that a query asks for.
-/

namespace TriggerScript.Regex

open TriggerScript.Text

/-- The characters of the edition whose number is written with a point, or behind `v` without
one. -/
def age? (name : List Char) : Option CodeSet :=
  let written (e : Edition) : Bool :=
    e.number.toList == name || 'v' :: e.number.toList.filter (· != '.') == name
  (editions.find? written).bind fun e => knownIn? e.number

/-- The roles in units of writing. -/
def clusterRole? (name : String) : Option ClusterRole :=
  match name with
  | "cn" | "control" => some .control
  | "cr" => some .carriageReturn
  | "ex" | "extend" => some .extending
  | "l" => some .leading
  | "lf" => some .lineFeed
  | "lv" => some .openBlock
  | "lvt" => some .closedBlock
  | "pp" | "prepend" => some .prepended
  | "ri" | "regionalindicator" => some .regional
  | "sm" | "spacingmark" => some .spacing
  | "t" => some .trailing
  | "v" => some .vowel
  | "zwj" => some .joiner
  | _ => none

/-- The roles in words. -/
def wordRole? (name : String) : Option WordRole :=
  match name with
  | "le" | "aletter" => some .letter
  | "cr" => some .carriageReturn
  | "dq" | "doublequote" => some .doubleQuote
  | "ex" | "extendnumlet" => some .connector
  | "extend" => some .extending
  | "fo" | "format" => some .format
  | "hl" | "hebrewletter" => some .hebrewLetter
  | "ka" | "katakana" => some .katakana
  | "lf" => some .lineFeed
  | "mb" | "midnumlet" => some .midNumberLetter
  | "ml" | "midletter" => some .midLetter
  | "mn" | "midnum" => some .midNumber
  | "nl" | "newline" => some .newline
  | "nu" | "numeric" => some .numeric
  | "ri" | "regionalindicator" => some .regional
  | "sq" | "singlequote" => some .singleQuote
  | "wsegspace" => some .space
  | "zwj" => some .joiner
  | _ => none

/-- The roles in sentences. -/
def sentenceRole? (name : String) : Option SentenceRole :=
  match name with
  | "at" | "aterm" => some .point
  | "cl" | "close" => some .close
  | "cr" => some .carriageReturn
  | "ex" | "extend" => some .extending
  | "fo" | "format" => some .format
  | "le" | "oletter" => some .otherLetter
  | "lf" => some .lineFeed
  | "lo" | "lower" => some .lower
  | "nu" | "numeric" => some .numeric
  | "sc" | "scontinue" => some .continuing
  | "se" | "sep" => some .separator
  | "sp" => some .space
  | "st" | "sterm" => some .terminal
  | "up" | "upper" => some .upper
  | _ => none

/-- The set that a query asks for. A name alone is that of a property, a category or a script, in
this order. -/
def Query.set? : Query → Option CodeSet
  | .named name =>
    let plain := plainName name
    let text := String.ofList plain
    match namedProperty? text, namedCategory? text with
    | some s, _ => some s
    | none, some s => some s
    | none, none => (namedScript? plain).map Script.set
  | .valued name value =>
    let value := plainName value
    let text := String.ofList value
    match String.ofList (plainName name) with
    | "gc" | "generalcategory" => namedCategory? text
    | "sc" | "script" => (namedScript? value).map Script.set
    | "scx" | "scriptextensions" => (namedScript? value).map Script.extendedSet
    | "age" => age? value
    | "gcb" | "graphemeclusterbreak" => (clusterRole? text).map ClusterRole.set
    | "wb" | "wordbreak" => (wordRole? text).map WordRole.set
    | "sb" | "sentencebreak" => (sentenceRole? text).map SentenceRole.set
    | _ => none

end TriggerScript.Regex
