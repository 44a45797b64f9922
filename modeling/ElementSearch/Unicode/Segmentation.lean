/-
# Text segmentation

Where characters as readers see them, words and sentences end is told by classes of code points.
A code point is in at most one class of each kind. Most classes are made of categories and other
properties with some code points added or taken away, by the rules of the Unicode Standard,
version 16.0, and that is how they are written here.
-/

import ElementSearch.Unicode.Property
import ElementSearch.Unicode.Script

namespace ElementSearch.Unicode.Segmentation

open RangeSet

/-- Classes of code points under their names, in lower case and without separators. -/
abbrev Classes := List (List String × (Char → Bool))

/-- Whether `c` is filed under the script with a name. -/
def isFiledUnder (script : String) (c : Char) : Bool :=
  (Script.all.find? (·.names.contains script)).any (·.filed.contains c)

/-- Marks that take up space and code points that extend the one before them. -/
def extendsWord (c : Char) : Bool :=
  Property.graphemeExtend.has c || Category.spacingMark.has c

/-- Signs that enclose the digits behind them. -/
def numberSigns : RangeSet :=
  ofLines ["600-605 6DD 890-891 8E2 110BD 110CD"]

/-- Decimal digits and the signs that are read with them. -/
def isNumeric (c : Char) : Bool :=
  Category.decimalNumber.has c || numberSigns.contains c

/-! ## Characters -/

/-- Consonants that are written before the cluster they belong to. -/
def leadingConsonants : RangeSet :=
  ofLines [
    "D4E 111C2-111C3 113D1 1193F 11941 11A3A 11A84-11A89 11D46 11F02"]

/-- What begins a cluster with the character behind it. -/
def isPrepended (c : Char) : Bool :=
  Property.prependedConcatenationMark.has c || leadingConsonants.contains c

/-- What extends the cluster before it. -/
def extendsCluster (c : Char) : Bool :=
  Property.graphemeExtend.has c || Property.emojiModifier.has c

/-- Whether `c` is in none of the categories. -/
def isUnassigned (c : Char) : Bool := !Category.hasAny Category.all c

/-- Code points that are not shown and stand alone. -/
def isBreakControl (c : Char) : Bool :=
  (Category.hasAny [.lineSeparator, .paragraphSeparator, .control, .format] c ||
      (isUnassigned c && Property.defaultIgnorableCodePoint.has c)) &&
    !(c == '\r' || c == '\n' || c == '\u200D' || extendsCluster c ||
      Property.prependedConcatenationMark.has c)

/-- Marks that take up space but do not belong to the cluster before them. -/
def apartMarks : RangeSet :=
  ofLines [
    "102B-102C 1038 1062-1064 1067-106D 1083 1087-108C 108F 109A-109C 1A61 1A63-1A64 AA7B",
    "AA7D 11720-11721"]

/-- What takes up space in the cluster before it. -/
def isSpacingMark (c : Char) : Bool :=
  (Category.spacingMark.has c || c == '\u0E33' || c == '\u0EB3') && !extendsCluster c &&
    !apartMarks.contains c

/-- Vowels that make a cluster with the consonant before them: of Hangul, and of Kirat Rai. -/
def clusterVowels : RangeSet :=
  ofLines ["1160-11A7 D7B0-D7C6 16D63 16D67-16D6A"]

/-- Whether `c` is a syllable of Hangul, and whether that has a consonant at its end. -/
def isSyllable (closed : Bool) (c : Char) : Bool :=
  '\uAC00' ≤ c && c ≤ '\uD7A3' && ((c.toNat - 0xAC00) % 28 != 0) == closed

/-- The classes by which characters are told apart. -/
def graphemeClusterBreaks : Classes :=
  [(["cr"], (· == '\r')),
    (["lf"], (· == '\n')),
    (["control", "cn"], isBreakControl),
    (["extend", "ex"], extendsCluster),
    (["zwj"], (· == '\u200D')),
    (["regionalindicator", "ri"], Property.regionalIndicator.has),
    (["prepend", "pp"], isPrepended),
    (["spacingmark", "sm"], isSpacingMark),
    (["l"], (ofLines ["1100-115F A960-A97C"]).contains),
    (["v"], clusterVowels.contains),
    (["t"], (ofLines ["11A8-11FF D7CB-D7FB"]).contains),
    (["lv"], isSyllable false),
    (["lvt"], isSyllable true)]

/-! ## Words -/

/-- Katakana and what is written with it. -/
def isKatakana (c : Char) : Bool :=
  isFiledUnder "katakana" c || (ofLines ["3031-3035 309B-309C 30A0 30FC FF70"]).contains c

/-- The letters of Hebrew. -/
def isHebrewLetter (c : Char) : Bool :=
  isFiledUnder "hebrew" c && Category.otherLetter.has c

/-- Letters of scripts that do not separate their words. -/
def runningLetters : RangeSet :=
  ofLines [
    "E01-E30 E32-E33 E40-E46 E81-E82 E84 E86-E8A E8C-EA3 EA5 EA7-EB0 EB2-EB3 EBD EC0-EC4 EC6",
    "EDC-EDF 1000-102A 103F 1050-1055 105A-105D 1061 1065-1066 106E-1070 1075-1081 108E",
    "1780-17B3 17D7 17DC 1950-196D 1970-1974 1980-19AB 19B0-19C9 1A20-1A54 1AA7 A9E0-A9E4",
    "A9E6-A9EF A9FA-A9FE AA60-AA76 AA7A AA7E-AAAF AAB1 AAB5-AAB6 AAB9-AABD AAC0 AAC2",
    "AADB-AADD 11700-1171A 11740-11746"]

/-- Signs that are read as letters. -/
def letterSigns : RangeSet :=
  ofLines [
    "B8 2C2-2C5 2D2-2D7 2DE-2DF 2E5-2EB 2ED 2EF-2FF 55A-55C 55E 58A 5F3 70F A708-A716",
    "A720-A721 A789-A78A AB5B"]

/-- The letters of words: those of scripts that separate their words. -/
def isWordLetter (c : Char) : Bool :=
  (Property.alphabetic.has c || letterSigns.contains c) &&
    !(Property.ideographic.has c || isKatakana c || runningLetters.contains c ||
      isFiledUnder "hiragana" c || extendsWord c || isHebrewLetter c)

/-- The classes by which words are told apart. -/
def wordBreaks : Classes :=
  [(["cr"], (· == '\r')),
    (["lf"], (· == '\n')),
    (["newline", "nl"], (ofLines ["B-C 85 2028-2029"]).contains),
    (["extend"], fun c => extendsWord c || Property.emojiModifier.has c),
    (["zwj"], (· == '\u200D')),
    (["regionalindicator", "ri"], Property.regionalIndicator.has),
    (["format", "fo"], fun c => Category.format.has c &&
      !(c == '\u200B' || c == '\u200D' || extendsWord c || isPrepended c)),
    (["katakana", "ka"], isKatakana),
    (["hebrewletter", "hl"], isHebrewLetter),
    (["aletter", "le"], isWordLetter),
    (["singlequote", "sq"], (· == '\'')),
    (["doublequote", "dq"], (· == '"')),
    (["midnumlet", "mb"], (ofLines ["2E 2018-2019 2024 FE52 FF07 FF0E"]).contains),
    (["midletter", "ml"], (ofLines ["3A B7 387 55F 5F4 2027 FE13 FE55 FF1A"]).contains),
    (["midnum", "mn"], (ofLines [
      "2C 3B 37E 589 60C-60D 66C 7F8 2044 FE10 FE14 FE50 FE54 FF0C FF1B"]).contains),
    (["numeric", "nu"], fun c => isNumeric c || c == '\u066B'),
    (["extendnumlet", "ex"], fun c => Category.connectorPunctuation.has c || c == '\u202F'),
    (["wsegspace"], (ofLines ["20 1680 2000-2006 2008-200A 205F 3000"]).contains)]

/-! ## Sentences -/

/-- Lower case, but for the letters of Georgian that are read in both cases. -/
def isSentenceLower (c : Char) : Bool :=
  Property.lowercase.has c && !Property.graphemeExtend.has c &&
    !(ofLines ["10D0-10FA 10FD-10FF"]).contains c

/-- Upper and title case, but for the capitals of Georgian. -/
def isSentenceUpper (c : Char) : Bool :=
  (Category.titlecaseLetter.has c || Property.uppercase.has c) &&
    !(ofLines ["1C90-1CBA 1CBD-1CBF"]).contains c

/-- Full stops, which may also stand inside a sentence. -/
def fullStops : RangeSet := ofLines ["2E 2024 FE52 FF0E"]

/-- Quotation marks of no category of their own. -/
def quotationMarks : RangeSet :=
  ofLines [
    "22 27 275B-2760 2E00-2E01 2E06-2E08 2E0B 1F676-1F678"]

/-- The classes by which sentences are told apart. -/
def sentenceBreaks : Classes :=
  [(["cr"], (· == '\r')),
    (["lf"], (· == '\n')),
    (["extend", "ex"], fun c => extendsWord c || c == '\u200D'),
    (["sep", "se"], (ofLines ["85 2028-2029"]).contains),
    (["format", "fo"], fun c => Category.format.has c &&
      !(c == '\u200D' || extendsWord c || numberSigns.contains c)),
    (["sp"], fun c => Property.whiteSpace.has c &&
      !(c == '\r' || c == '\n' || (ofLines ["85 2028-2029"]).contains c)),
    (["lower", "lo"], isSentenceLower),
    (["upper", "up"], isSentenceUpper),
    (["oletter", "le"], fun c => (Property.alphabetic.has c || c == '\u05F3') &&
      !(isSentenceLower c || isSentenceUpper c || extendsWord c)),
    (["numeric", "nu"], fun c => isNumeric c || c == '\u066B' || c == '\u066C'),
    (["aterm", "at"], fullStops.contains),
    (["scontinue", "sc"], (ofLines [
      "2C-2D 3A-3B 37E 55D 60C-60D 7F8 1802 1808 2013-2014 3001 FE10-FE11 FE13-FE14",
      "FE31-FE32 FE50-FE51 FE54-FE55 FE58 FE63 FF0C-FF0D FF1A-FF1B FF64"]).contains),
    (["sterm", "st"], fun c => Property.sentenceTerminal.has c && !fullStops.contains c),
    (["close", "cl"], fun c =>
      Category.hasAny [.openPunctuation, .closePunctuation, .initialPunctuation,
        .finalPunctuation] c || quotationMarks.contains c)]

end ElementSearch.Unicode.Segmentation
