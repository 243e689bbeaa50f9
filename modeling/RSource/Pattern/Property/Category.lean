import RSource.Pattern.Property.Invisible
import RSource.Pattern.Property.Letter
import RSource.Pattern.Property.Mark
import RSource.Pattern.Property.Number
import RSource.Pattern.Property.Punctuation
import RSource.Pattern.Property.Symbol

/-! # General categories

The groups of general categories and the names of all of them. A code point that is in none of the
other categories is unassigned. -/

namespace RSource.Pattern.Property

def casedLetter : CharSet :=
  .unions [uppercaseLetter, lowercaseLetter, titlecaseLetter]

def letter : CharSet :=
  .unions [casedLetter, modifierLetter, otherLetter]

def mark : CharSet :=
  .unions [nonspacingMark, spacingMark, enclosingMark]

def number : CharSet :=
  .unions [decimalNumber, letterNumber, otherNumber]

def punctuation : CharSet :=
  .unions [connectorPunctuation, dashPunctuation, openPunctuation, closePunctuation,
    initialPunctuation, finalPunctuation, otherPunctuation]

def symbol : CharSet :=
  .unions [mathSymbol, currencySymbol, modifierSymbol, otherSymbol]

def separator : CharSet :=
  .unions [spaceSeparator, lineSeparator, paragraphSeparator]

def unassigned : CharSet :=
  (CharSet.unions [letter, mark, number, punctuation, symbol, separator, control, format,
    privateUse, surrogate]).compl

def other : CharSet :=
  .unions [control, format, privateUse, unassigned]

structure Named where
  names : List String
  characters : CharSet

def named? (sets : List Named) (name : String) : Option CharSet :=
  (sets.find? (·.names.contains name)).map (·.characters)

/-- The general categories by name. Surrogates are no characters, so their category has none. -/
def categories : List Named := [
  ⟨["any"], .all⟩,
  ⟨["ascii"], .range 0 127⟩,
  ⟨["assigned"], unassigned.compl⟩,
  ⟨["l", "letter"], letter⟩,
  ⟨["lc", "casedletter"], casedLetter⟩,
  ⟨["lu", "uppercaseletter"], uppercaseLetter⟩,
  ⟨["ll", "lowercaseletter"], lowercaseLetter⟩,
  ⟨["lt", "titlecaseletter"], titlecaseLetter⟩,
  ⟨["lm", "modifierletter"], modifierLetter⟩,
  ⟨["lo", "otherletter"], otherLetter⟩,
  ⟨["m", "mark", "combiningmark"], mark⟩,
  ⟨["mn", "nonspacingmark"], nonspacingMark⟩,
  ⟨["mc", "spacingmark"], spacingMark⟩,
  ⟨["me", "enclosingmark"], enclosingMark⟩,
  ⟨["n", "number"], number⟩,
  ⟨["nd", "decimalnumber", "digit"], decimalNumber⟩,
  ⟨["nl", "letternumber"], letterNumber⟩,
  ⟨["no", "othernumber"], otherNumber⟩,
  ⟨["p", "punctuation", "punct"], punctuation⟩,
  ⟨["pc", "connectorpunctuation"], connectorPunctuation⟩,
  ⟨["pd", "dashpunctuation"], dashPunctuation⟩,
  ⟨["ps", "openpunctuation"], openPunctuation⟩,
  ⟨["pe", "closepunctuation"], closePunctuation⟩,
  ⟨["pi", "initialpunctuation"], initialPunctuation⟩,
  ⟨["pf", "finalpunctuation"], finalPunctuation⟩,
  ⟨["po", "otherpunctuation"], otherPunctuation⟩,
  ⟨["s", "symbol"], symbol⟩,
  ⟨["sm", "mathsymbol"], mathSymbol⟩,
  ⟨["sc", "currencysymbol"], currencySymbol⟩,
  ⟨["sk", "modifiersymbol"], modifierSymbol⟩,
  ⟨["so", "othersymbol"], otherSymbol⟩,
  ⟨["z", "separator"], separator⟩,
  ⟨["zs", "spaceseparator"], spaceSeparator⟩,
  ⟨["zl", "lineseparator"], lineSeparator⟩,
  ⟨["zp", "paragraphseparator"], paragraphSeparator⟩,
  ⟨["c", "other"], other⟩,
  ⟨["cc", "control", "cntrl"], control⟩,
  ⟨["cf", "format"], format⟩,
  ⟨["co", "privateuse"], privateUse⟩,
  ⟨["cn", "unassigned"], unassigned⟩]

end RSource.Pattern.Property
