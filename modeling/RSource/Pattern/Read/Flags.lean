import RSource.Pattern
import RSource.Pattern.CaseFold
import RSource.Text.CharClass

/-! # Flags of patterns

What the flags of a pattern ask for, and what they do to the sets of characters in it and to the
blanks between its parts. -/

namespace RSource.Pattern

/-- The flags: letters in either case, `^` and `$` at every line, a dot that takes line breaks,
lines that may end with a carriage return, blanks and comments that do not count, and sets that
reach beyond ASCII. -/
structure Flags where
  ignoreCase : Bool := false
  multiLine : Bool := false
  dotAll : Bool := false
  crlf : Bool := false
  verbose : Bool := false
  unicode : Bool := true

/-- The text behind blanks and comments, given whether it starts in a comment. A comment goes from
`#` to the end of its line. -/
def skipFrom : Bool → List Char → List Char
  | _, [] => []
  | true, c :: s => skipFrom (c != '\n') s
  | false, c :: s =>
    if Text.isBlank c then skipFrom false s
    else if c = '#' then skipFrom true s
    else c :: s

namespace Flags

def skip (f : Flags) (s : List Char) : List Char :=
  if f.verbose then skipFrom false s else s

/-- The first character that counts behind a hyphen. Of a comment only its mark is passed over. -/
def peek? (f : Flags) (s : List Char) : Option Char :=
  if f.verbose then
    let isBlank := Text.isBlank
    let r :=
      match s.dropWhile isBlank with
      | '#' :: r => r.dropWhile isBlank
      | r => r
    r.head? <|> s.head?
  else s.head?

def fold (f : Flags) (a : CharSet) : CharSet :=
  if !f.ignoreCase then a
  else if f.unicode then a.anyCase
  else a.anyAsciiCase

/-- A set or all characters outside it. It is closed under case before it is negated, and without
`unicode` it must stay within ASCII. -/
def finish? (f : Flags) (negated : Bool) (a : CharSet) : Option CharSet :=
  let folded := f.fold a
  let set := if negated then folded.compl else folded
  if f.unicode || set.isAscii then some set else none

/-- The characters that a written character stands for. Without `unicode` a character given as a
single byte must be ASCII. -/
def letter? (f : Flags) (c : Char) (isByte : Bool) : Option CharSet :=
  if f.unicode || c.toNat < 128 then some (f.fold (.single c))
  else if isByte then none
  else some (.single c)

def dot? (f : Flags) : Option CharSet :=
  if !f.unicode then none
  else if f.dotAll then some .all
  else if f.crlf then some (CharSet.ofCodes [10, 13]).compl
  else some (CharSet.single '\n').compl

def lineStart (f : Flags) : Look :=
  if f.multiLine then .lineStart f.crlf else .textStart

def lineStop (f : Flags) : Look :=
  if f.multiLine then .lineStop f.crlf else .textStop

end Flags

end RSource.Pattern
