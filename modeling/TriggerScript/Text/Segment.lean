import TriggerScript.Text.Property

/-!
# Where texts may be cut

The roles of characters where a text is cut into units of writing, into words and into sentences.

* `ClusterRole`, `WordRole`, `SentenceRole` : the roles; characters without one are not listed.
* `ClusterRole.set`, `WordRole.set`, `SentenceRole.set` : the characters in a role.
-/

namespace TriggerScript.Text

/-- Characters that end a line. -/
def lineFeed : CodeSet := .single '\n'

def carriageReturn : CodeSet := .single '\r'

/-- The sign that joins its neighbours into one picture. -/
def joiner : CodeSet := .range 0x200D 0x200D

/-- Characters that extend or follow the one before them in words and sentences. -/
def trailingMarks : CodeSet :=
  CodeSet.graphemeExtend.union Category.spacingMark.set

/-- Roles in units of writing. -/
inductive ClusterRole where
  | carriageReturn
  | lineFeed
  | control
  | extending
  | regional
  | prepended
  | spacing
  /-- The first, middle and last sounds of syllables that are written as blocks. -/
  | leading
  | vowel
  | trailing
  /-- Blocks without and with a last sound. -/
  | openBlock
  | closedBlock
  | joiner
  deriving DecidableEq, Repr

namespace ClusterRole

/-- Every syllable block. -/
def blocks : CodeSet := .range 0xAC00 0xD7A3

/-- The syllable blocks without a last sound, each before the 27 that have one. -/
def openBlocks : CodeSet := .ofCodes ((List.range 399).map fun i => 0xAC00 + 28 * i)

/-- The characters in a role. -/
def set : ClusterRole → CodeSet
  | .carriageReturn => Text.carriageReturn
  | .lineFeed => Text.lineFeed
  | .control =>
    (CodeSet.unions [Category.sets [.lineSeparator, .paragraphSeparator, .control, .format],
      unassigned.inter CodeSet.defaultIgnorable]).diff
      (.unions [Text.carriageReturn, Text.lineFeed, Text.joiner, .prependedConcatenationMark,
        .graphemeExtend])
  | .extending => CodeSet.graphemeExtend.union .emojiModifier
  | .regional => .regionalIndicator
  | .prepended => CodeSet.prependedConcatenationMark.union (.ofLines [
    "D4E 111C2-111C3 113D1 1193F 11941 11A3A 11A84-11A89 11D46 11F02"])
  | .spacing =>
    (Category.spacingMark.set.union (.ofLines ["E33 EB3"])).diff
      (CodeSet.graphemeExtend.union (.ofLines [
      "102B-102C 1038 1062-1064 1067-106D 1083 1087-108C 108F 109A-109C 1A61 1A63-1A64 AA7B",
      "AA7D 11720-11721"]))
  | .leading => .ofLines ["1100-115F A960-A97C"]
  | .vowel => .ofLines ["1160-11A7 D7B0-D7C6 16D63 16D67-16D6A"]
  | .trailing => .ofLines ["11A8-11FF D7CB-D7FB"]
  | .openBlock => openBlocks
  | .closedBlock => blocks.diff openBlocks
  | .joiner => Text.joiner

end ClusterRole

/-- Roles in words. -/
inductive WordRole where
  | letter
  | carriageReturn
  | doubleQuote
  | extending
  /-- Joins letters, digits and signs of its kind. -/
  | connector
  | format
  | hebrewLetter
  | katakana
  | lineFeed
  | midLetter
  | midNumber
  | midNumberLetter
  | newline
  | numeric
  | regional
  | singleQuote
  | space
  | joiner
  deriving DecidableEq, Repr

namespace WordRole

/-- Letters of scripts that are written without spaces between words. -/
def unspaced : CodeSet := .ofLines [
  "E01-E30 E32-E33 E40-E46 E81-E82 E84 E86-E8A E8C-EA3 EA5 EA7-EB0 EB2-EB3 EBD EC0-EC4 EC6",
  "EDC-EDF 1000-102A 103F 1050-1055 105A-105D 1061 1065-1066 106E-1070 1075-1081 108E 1780-17B3",
  "17D7 17DC 1950-196D 1970-1974 1980-19AB 19B0-19C9 1A20-1A54 1AA7 3041-3096 309D-309F",
  "A9E0-A9E4 A9E6-A9EF A9FA-A9FE AA60-AA76 AA7A AA7E-AAAF AAB1 AAB5-AAB6 AAB9-AABD AAC0 AAC2",
  "AADB-AADD 11700-1171A 11740-11746 1B001-1B11F 1B132 1B150-1B152"]

/-- Signs that words may hold like letters. -/
def letterLike : CodeSet := .ofLines [
  "2C2-2C5 2D2-2D7 2DE-2DF 2E5-2EB 2ED 2EF-2FF 55A-55C 55E 58A 5F3 70F A708-A716 A720-A721",
  "A789-A78A AB5B"]

/-- Letters with rules of their own for quotation marks. -/
def hebrew : CodeSet := .ofLines [
  "5D0-5EA 5EF-5F2 FB1D FB1F-FB28 FB2A-FB36 FB38-FB3C FB3E FB40-FB41 FB43-FB44 FB46-FB4F"]

/-- Characters that words of this syllable script are made of. -/
def katakanaSigns : CodeSet := .ofLines [
  "3031-3035 309B-309C 30A0-30FA 30FC-30FF 31F0-31FF 32D0-32FE 3300-3357 FF66-FF9D 1AFF0-1AFF3",
  "1AFF5-1AFFB 1AFFD-1AFFE 1B000 1B120-1B122 1B155 1B164-1B167"]

/-- Signs for the layout of a text, without those that join or begin something. -/
def formatSigns : CodeSet :=
  Category.format.set.diff
    (CodeSet.prependedConcatenationMark.union (.ofLines ["200B-200D E0020-E007F"]))

/-- Digits, and signs that numbers may hold like digits. -/
def digitLike : CodeSet :=
  (CodeSet.unions [Category.decimalNumber.set, .prependedConcatenationMark,
    .ofLines ["66B 19DA"]]).diff (.range 0x70F 0x70F)

/-- The characters in a role. -/
def set : WordRole → CodeSet
  | .letter =>
    (CodeSet.alphabetic.diff (.unions [.ideographic, katakanaSigns, hebrew, unspaced,
      trailingMarks])).union letterLike
  | .carriageReturn => Text.carriageReturn
  | .doubleQuote => .single '"'
  | .extending => trailingMarks.union .emojiModifier
  | .connector => .ofLines ["5F 202F 203F-2040 2054 FE33-FE34 FE4D-FE4F FF3F"]
  | .format => formatSigns
  | .hebrewLetter => hebrew
  | .katakana => katakanaSigns
  | .lineFeed => Text.lineFeed
  | .midLetter => .ofLines ["3A B7 387 55F 5F4 2027 FE13 FE55 FF1A"]
  | .midNumber => .ofLines ["2C 3B 37E 589 60C-60D 66C 7F8 2044 FE50 FE54 FF0C FF1B"]
  | .midNumberLetter => .ofLines ["2E 2018-2019 2024 FE52 FF07 FF0E"]
  | .newline => .ofLines ["B-C 85 2028-2029"]
  | .numeric => digitLike
  | .regional => .regionalIndicator
  | .singleQuote => .single '\''
  | .space => .ofLines ["20 1680 2000-2006 2008-200A 205F 3000"]
  | .joiner => Text.joiner

end WordRole

/-- Roles in sentences. -/
inductive SentenceRole where
  /-- Ends a sentence or an abbreviation. -/
  | point
  | carriageReturn
  | close
  | extending
  | format
  | lineFeed
  | lower
  | numeric
  | otherLetter
  /-- Lets a sentence go on. -/
  | continuing
  /-- Ends a sentence. -/
  | terminal
  | separator
  | space
  | upper
  deriving DecidableEq, Repr

namespace SentenceRole

/-- Full stops. -/
def points : CodeSet := .ofLines ["2E 2024 FE52 FF0E"]

/-- Letters with capital forms that do not begin sentences. -/
def evenLetters : CodeSet := .ofLines ["10D0-10FA 10FD-10FF"]

/-- Capital forms that do not begin sentences. -/
def evenCapitals : CodeSet := .ofLines ["1C90-1CBA 1CBD-1CBF"]

/-- Small letters. -/
def smallLetters : CodeSet :=
  CodeSet.lowercase.diff (evenLetters.union (.range 0x345 0x345))

/-- Capital letters. -/
def capitalLetters : CodeSet :=
  (CodeSet.uppercase.union Category.titlecaseLetter.set).diff evenCapitals

/-- Marks that follow the character before them. -/
def following : CodeSet := trailingMarks.union Text.joiner

/-- The characters in a role. -/
def set : SentenceRole → CodeSet
  | .point => points
  | .carriageReturn => Text.carriageReturn
  | .close =>
    (CodeSet.unions [Category.sets [.openPunctuation, .closePunctuation, .initialPunctuation,
      .finalPunctuation], .quotationMark, .ofLines [
        "275B-2760 2E00-2E01 2E06-2E08 2E0B 1F676-1F678"]]).diff
      (.ofLines ["FF02 FF07"])
  | .extending => following
  | .format => WordRole.formatSigns.union (.ofLines ["70F 200B"])
  | .lineFeed => Text.lineFeed
  | .lower => smallLetters
  | .numeric => WordRole.digitLike.union (.range 0x66C 0x66C)
  | .otherLetter =>
    (CodeSet.alphabetic.union (.range 0x5F3 0x5F3)).diff
      (.unions [smallLetters, capitalLetters, following])
  | .continuing => .ofLines [
    "2C-2D 3A-3B 37E 55D 60C-60D 7F8 1802 1808 2013-2014 3001 FE10-FE11 FE13-FE14 FE31-FE32",
    "FE50-FE51 FE54-FE55 FE58 FE63 FF0C-FF0D FF1A-FF1B FF64"]
  | .terminal => CodeSet.sentenceTerminal.diff points
  | .separator => .ofLines ["85 2028-2029"]
  | .space => CodeSet.whiteSpace.diff (.ofLines ["A D 85 2028-2029"])
  | .upper => capitalLetters

end SentenceRole

end TriggerScript.Text
