import RSource.Pattern.Property.Derived
import RSource.Pattern.Property.Script

/-! # Breaks in text

The part that a character plays where text is cut into visible characters, words and sentences. -/

namespace RSource.Pattern.Property

def carriageReturn : CharSet := .single '\r'

def lineFeed : CharSet := .single '\n'

def zeroWidthJoiner : CharSet := .range 0x200D 0x200D

def scriptCharacters (name : String) : CharSet :=
  (script? name).getD .empty

/-! ## Visible characters -/

namespace Grapheme

def extend : CharSet := graphemeExtend.union emojiModifier

def prepend : CharSet :=
  prependedConcatenationMark.union (.ofRanges [(0xD4E, 0xD4E), (0x111C2, 0x111C3),
    (0x113D1, 0x113D1), (0x1193F, 0x1193F), (0x11941, 0x11941), (0x11A3A, 0x11A3A),
    (0x11A84, 0x11A89), (0x11D46, 0x11D46), (0x11F02, 0x11F02)])

def freeSpacingMark : CharSet :=
  .ofRanges [(0x102B, 0x102C), (0x1038, 0x1038), (0x1062, 0x1064), (0x1067, 0x106D),
    (0x1083, 0x1083), (0x1087, 0x108C), (0x108F, 0x108F), (0x109A, 0x109C), (0x1A61, 0x1A61),
    (0x1A63, 0x1A64), (0xAA7B, 0xAA7B), (0xAA7D, 0xAA7D), (0x11720, 0x11721)]

def spacing : CharSet :=
  (spacingMark.union (.ofCodes [0xE33, 0xEB3])).diff (extend.union freeSpacingMark)

def apart : CharSet :=
  (CharSet.unions [lineSeparator, paragraphSeparator, control, format,
    unassigned.inter defaultIgnorable]).diff
      (.unions [carriageReturn, lineFeed, joinControl, prependedConcatenationMark, extend])

def openSyllable : CharSet :=
  .ofCodes ((List.range 399).map fun i => 0xAC00 + 28 * i)

def closedSyllable : CharSet := (CharSet.range 0xAC00 0xD7A3).diff openSyllable

def parts : List Named := [
  ⟨["cn", "control"], apart⟩,
  ⟨["cr"], carriageReturn⟩,
  ⟨["ex", "extend"], extend⟩,
  ⟨["l"], ⟨[(0x1100, 0x115F), (0xA960, 0xA97C)]⟩⟩,
  ⟨["lf"], lineFeed⟩,
  ⟨["lv"], openSyllable⟩,
  ⟨["lvt"], closedSyllable⟩,
  ⟨["pp", "prepend"], prepend⟩,
  ⟨["ri", "regionalindicator"], regionalIndicator⟩,
  ⟨["sm", "spacingmark"], spacing⟩,
  ⟨["t"], ⟨[(0x11A8, 0x11FF), (0xD7CB, 0xD7FB)]⟩⟩,
  ⟨["v"], ⟨[(0x1160, 0x11A7), (0xD7B0, 0xD7C6), (0x16D63, 0x16D63), (0x16D67, 0x16D6A)]⟩⟩,
  ⟨["zwj"], zeroWidthJoiner⟩]

end Grapheme

/-! ## Words -/

/-- Signs that count as digits: the decimal digits, the Arabic decimal separator and the signs that
are written around a number. -/
def numeric : CharSet :=
  .unions [decimalNumber, .range 0x66B 0x66B, prependedConcatenationMark.diff (.range 0x70F 0x70F)]

namespace Word

def extend : CharSet :=
  (CharSet.unions [graphemeExtend, spacingMark, emojiModifier]).diff zeroWidthJoiner

def skipped : CharSet :=
  format.diff (.unions [.range 0x200B 0x200D, extend, prependedConcatenationMark])

def katakana : CharSet :=
  (scriptCharacters "katakana").union (.ofRanges [(0x3031, 0x3035), (0x309B, 0x309C),
    (0x30A0, 0x30A0), (0x30FC, 0x30FC), (0xFF70, 0xFF70)])

def hebrewLetter : CharSet := (scriptCharacters "hebrew").inter otherLetter

def unspaced : CharSet :=
  .ofRanges [(0xE01, 0xE3A), (0xE40, 0xE4E), (0xE81, 0xEDF), (0x1000, 0x103F), (0x1050, 0x108F),
    (0x109A, 0x109F), (0x1780, 0x17D3), (0x17D7, 0x17D7), (0x17DC, 0x17DD), (0x1950, 0x1974),
    (0x1980, 0x19C9), (0x19DA, 0x19DA), (0x19DE, 0x19DF), (0x1A20, 0x1A7C), (0x1AA0, 0x1AAD),
    (0xA9E0, 0xA9EF), (0xA9FA, 0xA9FE), (0xAA60, 0xAAC2), (0xAADB, 0xAADF), (0x11700, 0x1172B),
    (0x1173A, 0x1173B), (0x1173F, 0x11746)]

def letterSign : CharSet :=
  .ofRanges [(0x2C2, 0x2C5), (0x2D2, 0x2D7), (0x2DE, 0x2DF), (0x2E5, 0x2EB), (0x2ED, 0x2ED),
    (0x2EF, 0x2FF), (0x55A, 0x55C), (0x55E, 0x55E), (0x58A, 0x58A), (0x5F3, 0x5F3), (0x70F, 0x70F),
    (0xA708, 0xA716), (0xA720, 0xA721), (0xA789, 0xA78A), (0xAB5B, 0xAB5B)]

def letter : CharSet :=
  (alphabetic.diff (.unions [ideographic, katakana, scriptCharacters "hiragana", unspaced,
    hebrewLetter, extend])).union letterSign

def parts : List Named := [
  ⟨["cr"], carriageReturn⟩,
  ⟨["dq", "doublequote"], .single '"'⟩,
  ⟨["ex", "extendnumlet"], connectorPunctuation.union (.range 0x202F 0x202F)⟩,
  ⟨["extend"], extend⟩,
  ⟨["fo", "format"], skipped⟩,
  ⟨["hl", "hebrewletter"], hebrewLetter⟩,
  ⟨["ka", "katakana"], katakana⟩,
  ⟨["le", "aletter"], letter⟩,
  ⟨["lf"], lineFeed⟩,
  ⟨["mb", "midnumlet"], .ofCodes [0x2E, 0x2018, 0x2019, 0x2024, 0xFE52, 0xFF07, 0xFF0E]⟩,
  ⟨["ml", "midletter"],
    .ofCodes [0x3A, 0xB7, 0x387, 0x55F, 0x5F4, 0x2027, 0xFE13, 0xFE55, 0xFF1A]⟩,
  ⟨["mn", "midnum"],
    .ofCodes [0x2C, 0x3B, 0x37E, 0x589, 0x60C, 0x60D, 0x66C, 0x7F8, 0x2044, 0xFE10, 0xFE14, 0xFE50,
      0xFE54, 0xFF0C, 0xFF1B]⟩,
  ⟨["nl", "newline"], .ofCodes [0xB, 0xC, 0x85, 0x2028, 0x2029]⟩,
  ⟨["nu", "numeric"], numeric⟩,
  ⟨["ri", "regionalindicator"], regionalIndicator⟩,
  ⟨["sq", "singlequote"], .single '\''⟩,
  ⟨["wsegspace"], .ofRanges [(0x20, 0x20), (0x1680, 0x1680), (0x2000, 0x2006), (0x2008, 0x200A),
    (0x205F, 0x205F), (0x3000, 0x3000)]⟩,
  ⟨["zwj"], zeroWidthJoiner⟩]

end Word

/-! ## Sentences -/

namespace Sentence

def extend : CharSet := .unions [graphemeExtend, spacingMark, zeroWidthJoiner]

def skipped : CharSet :=
  format.diff (.unions [joinControl, graphemeExtend, numeric])

def separator : CharSet := .ofCodes [0x85, 0x2028, 0x2029]

def blank : CharSet := whiteSpace.diff (.unions [carriageReturn, lineFeed, separator])

def lower : CharSet := (lowercase.diff graphemeExtend).diff georgianSmall

def upper : CharSet :=
  (uppercase.union titlecaseLetter).diff ⟨[(0x1C90, 0x1CBA), (0x1CBD, 0x1CBF)]⟩

def plainLetter : CharSet :=
  (alphabetic.union (.range 0x5F3 0x5F3)).diff (.unions [lower, upper, extend])

def fullStop : CharSet := .ofCodes [0x2E, 0x2024, 0xFE52, 0xFF0E]

def quote : CharSet :=
  .unions [initialPunctuation, finalPunctuation, .ofRanges [(0x22, 0x22), (0x27, 0x27),
    (0x275B, 0x2760), (0x2E00, 0x2E01), (0x2E06, 0x2E08), (0x2E0B, 0x2E0B), (0x1F676, 0x1F678)]]

def close : CharSet :=
  (CharSet.unions [openPunctuation, closePunctuation, quote]).diff
    (.unions [fullStop, sentenceTerminal, .range 0x5F3 0x5F3])

def parts : List Named := [
  ⟨["at", "aterm"], fullStop⟩,
  ⟨["cl", "close"], close⟩,
  ⟨["cr"], carriageReturn⟩,
  ⟨["ex", "extend"], extend⟩,
  ⟨["fo", "format"], skipped⟩,
  ⟨["le", "oletter"], plainLetter⟩,
  ⟨["lf"], lineFeed⟩,
  ⟨["lo", "lower"], lower⟩,
  ⟨["nu", "numeric"], numeric.union (.range 0x66C 0x66C)⟩,
  ⟨["sc", "scontinue"],
    .ofCodes [0x2C, 0x2D, 0x3A, 0x3B, 0x37E, 0x55D, 0x60C, 0x60D, 0x7F8, 0x1802, 0x1808, 0x2013,
      0x2014, 0x3001, 0xFE10, 0xFE11, 0xFE13, 0xFE14, 0xFE31, 0xFE32, 0xFE50, 0xFE51, 0xFE54,
      0xFE55, 0xFE58, 0xFE63, 0xFF0C, 0xFF0D, 0xFF1A, 0xFF1B, 0xFF64]⟩,
  ⟨["se", "sep"], separator⟩,
  ⟨["sp"], blank⟩,
  ⟨["st", "sterm"], sentenceTerminal.diff fullStop⟩,
  ⟨["up", "upper"], upper⟩]

end Sentence

end RSource.Pattern.Property
