import RSource.Pattern.Property.Category
import RSource.Pattern.Property.Trait
import RSource.Pattern.Property.Unpaired
import RSource.Unicode.WhiteSpace

/-! # Derived properties

The properties of characters that follow from the general categories and the listed properties, and
the names of all properties that a character has or lacks. -/

namespace RSource.Pattern.Property

def joinControl : CharSet := .range 0x200C 0x200D

def whiteSpace : CharSet := Unicode.whiteSpace

def asciiHexDigit : CharSet := ⟨[(0x30, 0x39), (0x41, 0x46), (0x61, 0x66)]⟩

/-! ## Case -/

def uppercase : CharSet := uppercaseLetter.union otherUppercase

def lowercase : CharSet := lowercaseLetter.union otherLowercase

def cased : CharSet := .unions [uppercase, lowercase, titlecaseLetter]

def innerPunctuation : CharSet :=
  .ofCodes [0x27, 0x2E, 0x3A, 0xB7, 0x387, 0x55F, 0x5F4, 0x2018, 0x2019, 0x2024, 0x2027, 0xFE13,
    0xFE52, 0xFE55, 0xFF07, 0xFF0E, 0xFF1A]

def caseIgnorable : CharSet :=
  .unions [nonspacingMark, enclosingMark, format, modifierLetter, modifierSymbol, innerPunctuation]

def changesWhenLowercased : CharSet :=
  (uppercase.union titlecaseLetter).diff capitalOnly

def changesWhenUppercased : CharSet :=
  (lowercase.union titlecaseLetter).diff smallOnly

/-- The small letters that begin a sentence as they are. -/
def georgianSmall : CharSet := ⟨[(0x10D0, 0x10FA), (0x10FD, 0x10FF)]⟩

def changesWhenTitlecased : CharSet :=
  ((changesWhenUppercased.diff titlecaseLetter).diff georgianSmall).union
    (.ofCodes [0x1C4, 0x1C7, 0x1CA, 0x1F1])

def changesWhenCasemapped : CharSet :=
  .unions [changesWhenLowercased, changesWhenUppercased, changesWhenTitlecased]

def changesWhenCasefolded : CharSet :=
  (changesWhenLowercased.diff foldedCapital).union foldedSmall

/-! ## Words and names -/

def alphabetic : CharSet := .unions [letter, letterNumber, otherAlphabetic]

def word : CharSet :=
  .unions [alphabetic, mark, decimalNumber, connectorPunctuation, joinControl]

/-- The characters of the syntax of patterns, which no name has. -/
def nameless : CharSet := patternSyntax.union patternWhiteSpace

def idStart : CharSet :=
  (CharSet.unions [letter, letterNumber, otherIdStart]).diff nameless

def idContinue : CharSet :=
  (CharSet.unions [idStart, nonspacingMark, spacingMark, decimalNumber, connectorPunctuation,
    otherIdContinue]).diff nameless

/-- Characters whose compatibility form cannot continue a name. -/
def unstableInside : CharSet :=
  .ofRanges [(0x37A, 0x37A), (0x309B, 0x309C), (0xFC5E, 0xFC63), (0xFDFA, 0xFDFB),
    (0xFE70, 0xFE70), (0xFE72, 0xFE72), (0xFE74, 0xFE74), (0xFE76, 0xFE76), (0xFE78, 0xFE78),
    (0xFE7A, 0xFE7A), (0xFE7C, 0xFE7C), (0xFE7E, 0xFE7E)]

def unstableAtStart : CharSet :=
  unstableInside.union ⟨[(0xE33, 0xE33), (0xEB3, 0xEB3), (0xFF9E, 0xFF9F)]⟩

def xidStart : CharSet := idStart.diff unstableAtStart

def xidContinue : CharSet := idContinue.diff unstableInside

def compatMathContinue : CharSet :=
  compatMathStart.union ⟨[(0xB2, 0xB3), (0xB9, 0xB9), (0x2070, 0x2070), (0x2074, 0x207E),
    (0x2080, 0x208E)]⟩

/-! ## Forms -/

def math : CharSet := mathSymbol.union otherMath

def graphemeExtend : CharSet := .unions [nonspacingMark, enclosingMark, otherGraphemeExtend]

def graphemeBase : CharSet :=
  (CharSet.unions [other, surrogate, lineSeparator, paragraphSeparator, graphemeExtend]).compl

def visibleFormat : CharSet :=
  .unions [⟨[(0xFFF9, 0xFFFB), (0x13430, 0x13440)]⟩, prependedConcatenationMark, whiteSpace]

def defaultIgnorable : CharSet :=
  (CharSet.unions [otherDefaultIgnorable, format, variationSelector]).diff visibleFormat

/-! ## Names -/

def traits : List Named := [
  ⟨["ahex", "asciihexdigit"], asciiHexDigit⟩,
  ⟨["alpha", "alphabetic"], alphabetic⟩,
  ⟨["bidic", "bidicontrol"], bidiControl⟩,
  ⟨["bidim", "bidimirrored"], bidiMirrored⟩,
  ⟨["ci", "caseignorable"], caseIgnorable⟩,
  ⟨["cased"], cased⟩,
  ⟨["cwcf", "changeswhencasefolded"], changesWhenCasefolded⟩,
  ⟨["cwcm", "changeswhencasemapped"], changesWhenCasemapped⟩,
  ⟨["cwl", "changeswhenlowercased"], changesWhenLowercased⟩,
  ⟨["cwt", "changeswhentitlecased"], changesWhenTitlecased⟩,
  ⟨["cwu", "changeswhenuppercased"], changesWhenUppercased⟩,
  ⟨["dash"], dash⟩,
  ⟨["di", "defaultignorablecodepoint"], defaultIgnorable⟩,
  ⟨["dep", "deprecated"], deprecated⟩,
  ⟨["dia", "diacritic"], diacritic⟩,
  ⟨["emoji"], emoji⟩,
  ⟨["ecomp", "emojicomponent"], emojiComponent⟩,
  ⟨["emod", "emojimodifier"], emojiModifier⟩,
  ⟨["ebase", "emojimodifierbase"], emojiModifierBase⟩,
  ⟨["epres", "emojipresentation"], emojiPresentation⟩,
  ⟨["extpict", "extendedpictographic"], extendedPictographic⟩,
  ⟨["ext", "extender"], extender⟩,
  ⟨["grbase", "graphemebase"], graphemeBase⟩,
  ⟨["grext", "graphemeextend"], graphemeExtend⟩,
  ⟨["grlink", "graphemelink"], graphemeLink⟩,
  ⟨["hex", "hexdigit"], hexDigit⟩,
  ⟨["hyphen"], hyphen⟩,
  ⟨["idsb", "idsbinaryoperator"], idsBinaryOperator⟩,
  ⟨["idst", "idstrinaryoperator"], idsTrinaryOperator⟩,
  ⟨["idsu", "idsunaryoperator"], idsUnaryOperator⟩,
  ⟨["idcompatmathcontinue"], compatMathContinue⟩,
  ⟨["idcompatmathstart"], compatMathStart⟩,
  ⟨["idc", "idcontinue"], idContinue⟩,
  ⟨["ids", "idstart"], idStart⟩,
  ⟨["ideo", "ideographic"], ideographic⟩,
  ⟨["joinc", "joincontrol"], joinControl⟩,
  ⟨["loe", "logicalorderexception"], logicalOrderException⟩,
  ⟨["lower", "lowercase"], lowercase⟩,
  ⟨["math"], math⟩,
  ⟨["mcm", "modifiercombiningmark"], modifierCombiningMark⟩,
  ⟨["nchar", "noncharactercodepoint"], noncharacter⟩,
  ⟨["oalpha", "otheralphabetic"], otherAlphabetic⟩,
  ⟨["odi", "otherdefaultignorablecodepoint"], otherDefaultIgnorable⟩,
  ⟨["ogrext", "othergraphemeextend"], otherGraphemeExtend⟩,
  ⟨["oidc", "otheridcontinue"], otherIdContinue⟩,
  ⟨["oids", "otheridstart"], otherIdStart⟩,
  ⟨["olower", "otherlowercase"], otherLowercase⟩,
  ⟨["omath", "othermath"], otherMath⟩,
  ⟨["oupper", "otheruppercase"], otherUppercase⟩,
  ⟨["patsyn", "patternsyntax"], patternSyntax⟩,
  ⟨["patws", "patternwhitespace"], patternWhiteSpace⟩,
  ⟨["pcm", "prependedconcatenationmark"], prependedConcatenationMark⟩,
  ⟨["qmark", "quotationmark"], quotationMark⟩,
  ⟨["radical"], radical⟩,
  ⟨["ri", "regionalindicator"], regionalIndicator⟩,
  ⟨["sterm", "sentenceterminal"], sentenceTerminal⟩,
  ⟨["sd", "softdotted"], softDotted⟩,
  ⟨["term", "terminalpunctuation"], terminalPunctuation⟩,
  ⟨["uideo", "unifiedideograph"], unifiedIdeograph⟩,
  ⟨["upper", "uppercase"], uppercase⟩,
  ⟨["vs", "variationselector"], variationSelector⟩,
  ⟨["space", "wspace", "whitespace"], whiteSpace⟩,
  ⟨["xidc", "xidcontinue"], xidContinue⟩,
  ⟨["xids", "xidstart"], xidStart⟩]

end RSource.Pattern.Property
