import RSource.Text.Bytes
import RSource.Text.CharClass

/-! # Lines and blanks

Cutting texts at their ends, into lines, and at a character. -/

namespace RSource.Text

def trim (t : Text) : Text :=
  ((t.dropWhile isBlank).reverse.dropWhile isBlank).reverse

def dropFinal? (c : Char) (t : Text) : Option Text :=
  if t.getLast? = some c then some t.dropLast else none

/-- The pieces of the text between the characters that satisfy `p`; always at least one. -/
def splitAll (p : Char → Bool) : Text → List Text
  | [] => [[]]
  | c :: cs =>
    if p c then [] :: splitAll p cs
    else
      match splitAll p cs with
      | [] => [[c]]
      | piece :: pieces => (c :: piece) :: pieces

/-- The lines of the text, without their line breaks: a line ends at a line feed, before which one
carriage return is dropped, and an empty last line is none. -/
def lines (t : Text) : List Text :=
  let pieces := splitAll (· == '\n') t
  let ended := pieces.dropLast.map fun l => (dropFinal? '\r' l).getD l
  match pieces.getLast? with
  | some [] | none => ended
  | some last => ended ++ [last]

end RSource.Text
