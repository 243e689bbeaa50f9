import RSource.Unicode.Alphabetic
import RSource.Unicode.DecimalDigit
import RSource.Unicode.OtherNumber
import RSource.Unicode.WhiteSpace

/-! # Classes of characters

The classes by which source text is cut up: letters and digits in the wide sense of the Unicode
properties, ASCII digits, and blanks. -/

namespace RSource.Text

/-- The character is alphabetic: a letter, a letter-like number or a vowel sign. -/
def isAlphabetic (c : Char) : Bool :=
  Unicode.alphabetic.contains c

/-- The character is a number of any kind: a decimal digit, a letter number or a fraction. -/
def isNumeric (c : Char) : Bool :=
  Unicode.decimalDigit.contains c || Unicode.otherNumber.contains c

def isAlphanumeric (c : Char) : Bool :=
  isAlphabetic c || isNumeric c

/-- The character is white space, line breaks included. -/
def isBlank (c : Char) : Bool :=
  Unicode.whiteSpace.contains c

def isInlineBlank (c : Char) : Bool :=
  c != '\n' && c != '\r' && isBlank c

def isDigit (c : Char) : Bool :=
  '0' ≤ c && c ≤ '9'

def isHexDigit (c : Char) : Bool :=
  isDigit c || ('a' ≤ c && c ≤ 'f') || ('A' ≤ c && c ≤ 'F')

end RSource.Text
