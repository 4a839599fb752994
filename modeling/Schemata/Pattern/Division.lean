import Schemata.Pattern.Property
import Schemata.Pattern.Script
/-!
# Division — the parts that characters play in dividing a text

Unicode 16 divides a text into clusters, words and sentences, and for each of these gives a character at most one part.
Most parts follow from other properties, so they are written here as rules.
-/
namespace Schemata
namespace Division

open Property

def these (rs : List (Nat × Nat)) : CharSet := .listed rs

def anyOf : List CharSet → CharSet
  | [] => .none
  | s :: rest => .union s (anyOf rest)

/-! ## Clusters -/

/-- What joins the cluster before it. -/
def clusterExtend : CharSet := .union graphemeExtend emojiModifier

/-- Controls, but for line ends and joiners, and what is not shown without being a character. -/
def control : CharSet :=
  .diff (anyOf [.categories [.zl, .zp, .cc, .cf], .inter (category .cn) defaultIgnorable])
    (anyOf [these [(0xA, 0xA), (0xD, 0xD), (0x200C, 0x200D)], prependedMark, clusterExtend])

def spacingMark : CharSet :=
  .diff (.union (.diff (category .mc) clusterExtend) (these [(0xE33, 0xE33), (0xEB3, 0xEB3)])) (these [
    (0x102B, 0x102C), (0x1038, 0x1038), (0x1062, 0x1064), (0x1067, 0x106D), (0x1083, 0x1083), (0x1087, 0x108C),
    (0x108F, 0x108F), (0x109A, 0x109C), (0x1A61, 0x1A61), (0x1A63, 0x1A64), (0xAA7B, 0xAA7B), (0xAA7D, 0xAA7D),
    (0x11720, 0x11721)])

/-- What joins the cluster after it. -/
def prepend : CharSet := .union prependedMark (these [
  (0xD4E, 0xD4E), (0x111C2, 0x111C3), (0x113D1, 0x113D1), (0x1193F, 0x1193F), (0x11941, 0x11941), (0x11A84, 0x11A89),
  (0x11D46, 0x11D46), (0x11F02, 0x11F02)])

/-- The syllables of Hangul that end in a vowel: every twenty-eighth one. -/
def openSyllables : List (Nat × Nat) := (List.range 399).map fun k => (0xAC00 + 28 * k, 0xAC00 + 28 * k)

def openSyllable : CharSet := these openSyllables

def closedSyllable : CharSet := .diff (these [(0xAC00, 0xD7A3)]) openSyllable

/-- The parts in clusters, each with its names in small letters alone. -/
def inClusters : List (List String × CharSet) := [
  (["control", "cn"], control), (["cr"], .single '\r'), (["extend", "ex"], clusterExtend), (["lf"], .single '\n'),
  (["l"], these [(0x1100, 0x115F), (0xA960, 0xA97C)]), (["lv"], openSyllable), (["lvt"], closedSyllable),
  (["prepend", "pp"], prepend), (["regionalindicator", "ri"], regionalIndicator), (["spacingmark", "sm"], spacingMark),
  (["t"], these [(0x11A8, 0x11FF), (0xD7CB, 0xD7FB)]),
  (["v"], these [(0x1160, 0x11A7), (0xD7B0, 0xD7C6), (0x16D63, 0x16D63), (0x16D67, 0x16D6A)]),
  (["zwj"], .single (Char.ofNat 0x200D))]

/-! ## Words -/

/-- What belongs to the word before it. -/
def wordExtend : CharSet := anyOf [graphemeExtend, category .mc, emojiModifier]

/-- Formatting inside a word. -/
def wordFormat : CharSet :=
  .diff (category .cf) (anyOf [these [(0x200B, 0x200D)], graphemeExtend, prependedMark])

def katakana : CharSet := .union (.listed (Script.ranges "Kana")) (these [
  (0x3031, 0x3035), (0x309B, 0x309C), (0x30A0, 0x30A0), (0x30FC, 0x30FC), (0xFF70, 0xFF70)])

def hebrewLetter : CharSet := .inter (.listed (Script.ranges "Hebr")) (category .lo)

/-- Letters of scripts that put no blanks between words. -/
def runningLetter : CharSet := these [
  (0xE01, 0xE30), (0xE32, 0xE33), (0xE40, 0xE46), (0xE81, 0xE82), (0xE84, 0xE84), (0xE86, 0xE8A), (0xE8C, 0xEA3),
  (0xEA5, 0xEA5), (0xEA7, 0xEB0), (0xEB2, 0xEB3), (0xEBD, 0xEBD), (0xEC0, 0xEC4), (0xEC6, 0xEC6), (0xEDC, 0xEDF),
  (0x1000, 0x102A), (0x103F, 0x103F), (0x1050, 0x1055), (0x105A, 0x105D), (0x1061, 0x1061), (0x1065, 0x1066),
  (0x106E, 0x1070), (0x1075, 0x1081), (0x108E, 0x108E), (0x1780, 0x17B3), (0x17D7, 0x17D7), (0x17DC, 0x17DC),
  (0x1950, 0x196D), (0x1970, 0x1974), (0x1980, 0x19AB), (0x19B0, 0x19C9), (0x1A20, 0x1A54), (0x1AA7, 0x1AA7),
  (0x3041, 0x3096), (0x309D, 0x309F), (0xA9E0, 0xA9E4), (0xA9E6, 0xA9EF), (0xA9FA, 0xA9FE), (0xAA60, 0xAA76),
  (0xAA7A, 0xAA7A), (0xAA7E, 0xAAAF), (0xAAB1, 0xAAB1), (0xAAB5, 0xAAB6), (0xAAB9, 0xAABD), (0xAAC0, 0xAAC0),
  (0xAAC2, 0xAAC2), (0xAADB, 0xAADD), (0x11700, 0x1171A), (0x11740, 0x11746), (0x1B001, 0x1B11F), (0x1B132, 0x1B132),
  (0x1B150, 0x1B152)]

/-- Letters of words that blanks divide, with some marks that stand for letters. -/
def wordLetter : CharSet :=
  .union (.diff alphabetic (anyOf [ideographic, katakana, hebrewLetter, wordExtend, runningLetter])) (these [
    (0xB8, 0xB8), (0x2C2, 0x2C5), (0x2D2, 0x2D7), (0x2DE, 0x2DF), (0x2E5, 0x2EB), (0x2ED, 0x2ED), (0x2EF, 0x2FF),
    (0x55A, 0x55C), (0x55E, 0x55E), (0x58A, 0x58A), (0x5F3, 0x5F3), (0x70F, 0x70F), (0xA708, 0xA716),
    (0xA720, 0xA721), (0xA789, 0xA78A), (0xAB5B, 0xAB5B)])

def wordNumeric : CharSet := anyOf [category .nd, .diff prependedMark (these [(0x70F, 0x70F)]),
  these [(0x66B, 0x66B), (0x19DA, 0x19DA)]]

def betweenLetters : CharSet := these [
  (0x3A, 0x3A), (0xB7, 0xB7), (0x387, 0x387), (0x55F, 0x55F), (0x5F4, 0x5F4), (0x2027, 0x2027), (0xFE13, 0xFE13),
  (0xFE55, 0xFE55), (0xFF1A, 0xFF1A)]

def betweenNumbers : CharSet := these [
  (0x2C, 0x2C), (0x3B, 0x3B), (0x37E, 0x37E), (0x589, 0x589), (0x60C, 0x60D), (0x66C, 0x66C), (0x7F8, 0x7F8),
  (0x2044, 0x2044), (0xFE50, 0xFE50), (0xFE54, 0xFE54), (0xFF0C, 0xFF0C), (0xFF1B, 0xFF1B)]

def betweenEither : CharSet := these [
  (0x2E, 0x2E), (0x2018, 0x2019), (0x2024, 0x2024), (0xFE52, 0xFE52), (0xFF07, 0xFF07), (0xFF0E, 0xFF0E)]

/-- The parts in words, each with its names in small letters alone. -/
def inWords : List (List String × CharSet) := [
  (["aletter", "le"], wordLetter), (["cr"], .single '\r'), (["doublequote", "dq"], .single '"'),
  (["extend"], wordExtend), (["extendnumlet", "ex"], .union (category .pc) (these [(0x202F, 0x202F)])),
  (["format", "fo"], wordFormat), (["hebrewletter", "hl"], hebrewLetter), (["katakana", "ka"], katakana),
  (["lf"], .single '\n'), (["midletter", "ml"], betweenLetters), (["midnum", "mn"], betweenNumbers),
  (["midnumlet", "mb"], betweenEither), (["newline", "nl"], these [(0xB, 0xC), (0x85, 0x85), (0x2028, 0x2029)]),
  (["numeric", "nu"], wordNumeric), (["regionalindicator", "ri"], regionalIndicator),
  (["singlequote", "sq"], .single '\''), (["wsegspace"], .diff (category .zs) (these [(0xA0, 0xA0), (0x2007, 0x2007),
  (0x202F, 0x202F)])), (["zwj"], .single (Char.ofNat 0x200D))]

/-! ## Sentences -/

def sentenceExtend : CharSet := anyOf [graphemeExtend, category .mc, .single (Char.ofNat 0x200D)]

def sentenceFormat : CharSet :=
  .diff (category .cf) (anyOf [these [(0x200C, 0x200D)], graphemeExtend, .diff prependedMark (these [(0x70F, 0x70F)])])

/-- Small letters, but for those of a script whose capitals are not used to start a sentence. -/
def sentenceLower : CharSet :=
  .diff lowercase (.union graphemeExtend (these [(0x10D0, 0x10FA), (0x10FD, 0x10FF)]))

/-- Capitals, but for those of the same script. -/
def sentenceUpper : CharSet :=
  .diff (.union uppercase (category .lt)) (these [(0x1C90, 0x1CBA), (0x1CBD, 0x1CBF)])

def sentenceLetter : CharSet :=
  .diff (.union alphabetic (these [(0x5F3, 0x5F3)])) (anyOf [sentenceLower, sentenceUpper, sentenceExtend])

def sentenceNumeric : CharSet := .union wordNumeric (these [(0x66C, 0x66C)])

def point : CharSet := these [(0x2E, 0x2E), (0x2024, 0x2024), (0xFE52, 0xFE52), (0xFF0E, 0xFF0E)]

def bracket : CharSet := .union (.categories [.ps, .pe, .pi, .pf]) (these [
  (0x22, 0x22), (0x27, 0x27), (0x275B, 0x2760), (0x2E00, 0x2E01), (0x2E06, 0x2E08), (0x2E0B, 0x2E0B),
  (0x1F676, 0x1F678)])

/-- Marks after which a sentence goes on. -/
def pause : CharSet := these [
  (0x2C, 0x2D), (0x3A, 0x3B), (0x37E, 0x37E), (0x55D, 0x55D), (0x60C, 0x60D), (0x7F8, 0x7F8), (0x1802, 0x1802),
  (0x1808, 0x1808), (0x2013, 0x2014), (0x3001, 0x3001), (0xFE10, 0xFE11), (0xFE13, 0xFE14), (0xFE31, 0xFE32),
  (0xFE50, 0xFE51), (0xFE54, 0xFE55), (0xFE58, 0xFE58), (0xFE63, 0xFE63), (0xFF0C, 0xFF0D), (0xFF1A, 0xFF1B),
  (0xFF64, 0xFF64)]

/-- The parts in sentences, each with its names in small letters alone. -/
def inSentences : List (List String × CharSet) := [
  (["aterm", "at"], point), (["cr"], .single '\r'), (["close", "cl"], bracket), (["extend", "ex"], sentenceExtend),
  (["format", "fo"], sentenceFormat), (["lf"], .single '\n'), (["lower", "lo"], sentenceLower),
  (["numeric", "nu"], sentenceNumeric), (["oletter", "le"], sentenceLetter), (["scontinue", "sc"], pause),
  (["sep", "se"], these [(0x85, 0x85), (0x2028, 0x2029)]),
  (["sp"], .diff .blank (these [(0xA, 0xA), (0xD, 0xD), (0x85, 0x85), (0x2028, 0x2029)])),
  (["sterm", "st"], .diff sentenceTerminal point), (["upper", "up"], sentenceUpper)]

end Division
end Schemata
