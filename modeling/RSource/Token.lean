import RSource.Span
import RSource.Text.Bytes

/-! # Tokens

A token is a classified stretch of source text. The tokens of a text follow one another without a
gap, so blanks, line breaks and comments are tokens too. -/

namespace RSource

/-- The class of a token. A line break is kept apart from other white space because it can end a
statement; `unknown` is a character that starts no token; `endOfStream` is the empty token behind
the last one. -/
inductive Token.Kind where
  | identifier | keyword | number | string | operator
  | openParen | closeParen | openBrace | closeBrace | openBracket | closeBracket
  | comma | comment | whitespace | newline | unknown | endOfStream
  deriving DecidableEq, Repr, Inhabited

structure Token where
  kind : Token.Kind
  start : Nat
  length : Nat
  deriving DecidableEq, Repr, Inhabited

namespace Token

namespace Kind

def isTrivia : Kind → Bool
  | whitespace | newline | comment => true
  | _ => false

def isOpener : Kind → Bool
  | openParen | openBrace | openBracket => true
  | _ => false

def isCloser : Kind → Bool
  | closeParen | closeBrace | closeBracket => true
  | _ => false

def name : Kind → String
  | identifier => "Identifier"
  | keyword => "Keyword"
  | number => "Number"
  | string => "String"
  | operator => "Operator"
  | openParen => "OpenParen"
  | closeParen => "CloseParen"
  | openBrace => "OpenBrace"
  | closeBrace => "CloseBrace"
  | openBracket => "OpenBracket"
  | closeBracket => "CloseBracket"
  | comma => "Comma"
  | comment => "Comment"
  | whitespace => "Whitespace"
  | newline => "Newline"
  | unknown => "Unknown"
  | endOfStream => "EndOfStream"

def depthChange (k : Kind) : Int32 :=
  if k.isOpener then 1 else if k.isCloser then -1 else 0

end Kind

def stop (t : Token) : Nat :=
  t.start + t.length

def span (t : Token) : Span :=
  ⟨t.start, t.stop⟩

/-- The text under the token; empty when the token lies outside the text or cuts a character. -/
def text (t : Token) (source : Text) : Text :=
  source.sliceD t.start t.stop

def shift (t : Token) (delta : Int) : Token :=
  { t with start := (t.start + delta).toNat }

def eos (n : Nat) : Token :=
  ⟨.endOfStream, n, 0⟩

end Token

def keywords : List String :=
  ["if", "else", "repeat", "while", "function", "for", "in", "next", "break", "TRUE", "FALSE",
    "NULL", "Inf", "NaN", "NA", "NA_integer_", "NA_real_", "NA_complex_", "NA_character_"]

def isKeyword (name : String) : Bool :=
  keywords.contains name

end RSource
