import RSource.Grammar.Expression
import RSource.Token.Lexer

/-! # The tree of a text

Expressions nest at most `maxNesting` levels deep; what is nested deeper becomes one error node that
reaches to the end of the text. Reading a text never fails: every text has a tree. -/

namespace RSource.Grammar

/-- The greatest number of expressions inside one another. -/
def maxNesting : Nat := 100

/-- All that is left as one error node. -/
def bailOut (eof : Nat) (s : Cursor) : Option (Tree × Cursor) :=
  match s.rest with
  | [] => none
  | x :: xs =>
    some (errorTree eof x.span.start eof true, ⟨[], (xs.getLast?.getD x).span.stop⟩)

theorem remaining_bailOut_lt {eof : Nat} {s s' : Cursor} {t : Tree}
    (h : bailOut eof s = some (t, s')) : s'.remaining < s.remaining := by
  unfold bailOut at h
  split at h
  · cases h
  · rename_i x xs hs
    simp only [Option.some.injEq, Prod.mk.injEq] at h
    obtain ⟨-, rfl⟩ := h
    simp [Cursor.remaining, hs]

def reader (eof : Nat) : Nat → Reader
  | 0 => ⟨fun _ _ s => bailOut eof s, remaining_bailOut_lt⟩
  | levels + 1 =>
    ⟨expression eof (reader eof levels), remaining_expression_lt eof (reader eof levels)⟩

def build (source : Text) (tokens : List Token) : Tree :=
  let eof := source.byteLength
  let (children, _) := statements eof (reader eof maxNesting) .top none ⟨lexemes source tokens, 0⟩
  .node .program ⟨0, eof⟩ children

def parse (source : Text) : Tree :=
  build source (Token.tokenizeAll source)

end RSource.Grammar
