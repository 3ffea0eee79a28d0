import TriggerScript.Regex.Form
import TriggerScript.Text.Cut
import TriggerScript.Text.Property
import TriggerScript.Text.Script

/-!
# Named sets of characters

The sets that escapes ask for by name.

* `Kind.set`, `AsciiSet.set` : the sets with a name of their own.
* `plainName` : what counts of a name.
* `namedCategory?`, `namedProperty?`, `namedScript?` : the sets by plain names.
-/

namespace TriggerScript.Regex

open TriggerScript.Text

/-- Decimal digits of every script. -/
def digits : CodeSet := Category.decimalNumber.set

/-- Characters of words: letters, marks, decimal digits, connectors and joiners. -/
def wordChars : CodeSet :=
  .unions [.alphabetic, Category.sets Category.marks, Category.decimalNumber.set,
    Category.connectorPunctuation.set, .joinControl]

/-- White space of every script. -/
def blanks : CodeSet := .whiteSpace

/-- Whether a character may stand in a word. -/
def isWordChar (c : Char) : Bool :=
  if c.toNat < 128 then c.isAlphanum || c == '_' else wordChars.contains c

def Kind.set : Kind → CodeSet
  | .digit => digits
  | .blank => blanks
  | .word => wordChars

def AsciiSet.set : AsciiSet → CodeSet
  | .alnum => .ofLines ["30-39 41-5A 61-7A"]
  | .alpha => .ofLines ["41-5A 61-7A"]
  | .ascii => .range 0 0x7F
  | .blank => .ofLines ["9 20"]
  | .cntrl => .ofLines ["0-1F 7F"]
  | .digit => .range 0x30 0x39
  | .graph => .range 0x21 0x7E
  | .lower => .range 0x61 0x7A
  | .print => .range 0x20 0x7E
  | .punct => .ofLines ["21-2F 3A-40 5B-60 7B-7E"]
  | .space => .ofLines ["9-D 20"]
  | .upper => .range 0x41 0x5A
  | .word => .ofLines ["30-39 41-5A 5F 61-7A"]
  | .xdigit => .ofLines ["30-39 41-46 61-66"]

/-- The characters of a kind within the basic alphabet. -/
def Kind.asciiSet : Kind → CodeSet
  | .digit => AsciiSet.digit.set
  | .blank => AsciiSet.space.set
  | .word => AsciiSet.word.set

/-- A name without letter case, blanks, hyphens and low lines. Characters outside the basic
alphabet and a leading `is` do not count, but `isc` is the name of a property. -/
def plainName (name : List Char) : List Char :=
  let (marked, rest) :=
    match name with
    | a :: b :: rest => if a.toLower == 'i' && b.toLower == 's' then (true, rest) else (false, name)
    | _ => (false, name)
  let plain := (rest.filter fun c => c.toNat < 128 && !(c == ' ' || c == '_' || c == '-')).map
    Char.toLower
  if marked && plain == ['c'] then ['i', 's', 'c'] else plain

/-- The category, or the group of categories, with a plain name. -/
def namedCategory? (name : String) : Option CodeSet :=
  match name with
  | "any" => some (.compl .empty)
  | "ascii" => some AsciiSet.ascii.set
  | "assigned" => some unassigned.compl
  | "l" | "letter" => some (Category.sets Category.letters)
  | "lc" | "casedletter" =>
    some (Category.sets [.uppercaseLetter, .lowercaseLetter, .titlecaseLetter])
  | "lu" | "uppercaseletter" => some Category.uppercaseLetter.set
  | "ll" | "lowercaseletter" => some Category.lowercaseLetter.set
  | "lt" | "titlecaseletter" => some Category.titlecaseLetter.set
  | "lm" | "modifierletter" => some Category.modifierLetter.set
  | "lo" | "otherletter" => some Category.otherLetter.set
  | "m" | "mark" | "combiningmark" => some (Category.sets Category.marks)
  | "mn" | "nonspacingmark" => some Category.nonspacingMark.set
  | "mc" | "spacingmark" => some Category.spacingMark.set
  | "me" | "enclosingmark" => some Category.enclosingMark.set
  | "n" | "number" => some (Category.sets Category.numbers)
  | "nd" | "decimalnumber" | "digit" => some Category.decimalNumber.set
  | "nl" | "letternumber" => some Category.letterNumber.set
  | "no" | "othernumber" => some Category.otherNumber.set
  | "p" | "punctuation" | "punct" => some (Category.sets Category.punctuation)
  | "pc" | "connectorpunctuation" => some Category.connectorPunctuation.set
  | "pd" | "dashpunctuation" => some Category.dashPunctuation.set
  | "ps" | "openpunctuation" => some Category.openPunctuation.set
  | "pe" | "closepunctuation" => some Category.closePunctuation.set
  | "pi" | "initialpunctuation" => some Category.initialPunctuation.set
  | "pf" | "finalpunctuation" => some Category.finalPunctuation.set
  | "po" | "otherpunctuation" => some Category.otherPunctuation.set
  | "s" | "symbol" => some (Category.sets Category.symbols)
  | "sm" | "mathsymbol" => some Category.mathSymbol.set
  | "sc" | "currencysymbol" => some Category.currencySymbol.set
  | "sk" | "modifiersymbol" => some Category.modifierSymbol.set
  | "so" | "othersymbol" => some Category.otherSymbol.set
  | "z" | "separator" => some (Category.sets Category.separators)
  | "zs" | "spaceseparator" => some Category.spaceSeparator.set
  | "zl" | "lineseparator" => some Category.lineSeparator.set
  | "zp" | "paragraphseparator" => some Category.paragraphSeparator.set
  | "c" | "other" => some ((Category.sets [.control, .format, .privateUse]).union unassigned)
  | "cc" | "control" | "cntrl" => some Category.control.set
  | "cf" | "format" => some Category.format.set
  | "co" | "privateuse" => some Category.privateUse.set
  | "cn" | "unassigned" => some unassigned
  | _ => none

/-- The property with a plain name. -/
def namedProperty? (name : String) : Option CodeSet :=
  match name with
  | "ahex" | "asciihexdigit" => some .asciiHexDigit
  | "alpha" | "alphabetic" => some .alphabetic
  | "bidic" | "bidicontrol" => some .bidiControl
  | "bidim" | "bidimirrored" => some .bidiMirrored
  | "ci" | "caseignorable" => some .caseIgnorable
  | "cased" => some .cased
  | "cwcf" | "changeswhencasefolded" => some .changesWhenCasefolded
  | "cwcm" | "changeswhencasemapped" => some .changesWhenCasemapped
  | "cwl" | "changeswhenlowercased" => some .changesWhenLowercased
  | "cwt" | "changeswhentitlecased" => some .changesWhenTitlecased
  | "cwu" | "changeswhenuppercased" => some .changesWhenUppercased
  | "dash" => some .dash
  | "di" | "defaultignorablecodepoint" => some .defaultIgnorable
  | "dep" | "deprecated" => some .deprecated
  | "dia" | "diacritic" => some .diacritic
  | "emoji" => some .emoji
  | "ecomp" | "emojicomponent" => some .emojiComponent
  | "emod" | "emojimodifier" => some .emojiModifier
  | "ebase" | "emojimodifierbase" => some .emojiModifierBase
  | "epres" | "emojipresentation" => some .emojiPresentation
  | "ext" | "extender" => some .extender
  | "extpict" | "extendedpictographic" => some .extendedPictographic
  | "grbase" | "graphemebase" => some .graphemeBase
  | "grext" | "graphemeextend" => some .graphemeExtend
  | "grlink" | "graphemelink" => some .graphemeLink
  | "hex" | "hexdigit" => some .hexDigit
  | "hyphen" => some .hyphen
  | "idsb" | "idsbinaryoperator" => some .idsBinary
  | "idst" | "idstrinaryoperator" => some .idsTrinary
  | "idsu" | "idsunaryoperator" => some .idsUnary
  | "idcompatmathcontinue" => some .mathNameContinue
  | "idcompatmathstart" => some .mathNameStart
  | "idc" | "idcontinue" => some .nameContinue
  | "ids" | "idstart" => some .nameStart
  | "ideo" | "ideographic" => some .ideographic
  | "joinc" | "joincontrol" => some .joinControl
  | "loe" | "logicalorderexception" => some .logicalOrderException
  | "lower" | "lowercase" => some .lowercase
  | "math" => some .math
  | "mcm" | "modifiercombiningmark" => some .modifierCombiningMark
  | "nchar" | "noncharactercodepoint" => some .noncharacter
  | "oalpha" | "otheralphabetic" => some .otherAlphabetic
  | "odi" | "otherdefaultignorablecodepoint" => some .otherDefaultIgnorable
  | "ogrext" | "othergraphemeextend" => some .otherGraphemeExtend
  | "oidc" | "otheridcontinue" => some .otherNameContinue
  | "oids" | "otheridstart" => some .otherNameStart
  | "olower" | "otherlowercase" => some .otherLowercase
  | "omath" | "othermath" => some .otherMath
  | "oupper" | "otheruppercase" => some .otherUppercase
  | "patsyn" | "patternsyntax" => some .patternSyntax
  | "patws" | "patternwhitespace" => some .patternBlank
  | "pcm" | "prependedconcatenationmark" => some .prependedConcatenationMark
  | "qmark" | "quotationmark" => some .quotationMark
  | "radical" => some .radical
  | "ri" | "regionalindicator" => some .regionalIndicator
  | "sterm" | "sentenceterminal" => some .sentenceTerminal
  | "sd" | "softdotted" => some .softDotted
  | "term" | "terminalpunctuation" => some .terminalPunctuation
  | "uideo" | "unifiedideograph" => some .unifiedIdeograph
  | "upper" | "uppercase" => some .uppercase
  | "vs" | "variationselector" => some .variationSelector
  | "wspace" | "whitespace" | "space" => some .whiteSpace
  | "xidc" | "xidcontinue" => some .closedNameContinue
  | "xids" | "xidstart" => some .closedNameStart
  | _ => none

/-- The script with a plain name. -/
def namedScript? (name : List Char) : Option Script :=
  scripts.find? fun s => s.names.any fun n => plainName n.toList == name

end TriggerScript.Regex
