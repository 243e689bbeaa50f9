import RSource.Token
import RSource.Tree

/-! # Lexemes and the place in them

The grammar reads the tokens that carry meaning; of line breaks it only needs to know whether one
stands before a token. A cursor is a place in the sequence of lexemes: what is left of it, and
where the last lexeme before it ended. -/

namespace RSource.Grammar

/-- A meaningful token with its text, and whether a line break stands before it. -/
structure Lexeme where
  kind : Token.Kind
  span : Span
  text : String
  newlineBefore : Bool
  deriving DecidableEq, Repr, Inhabited

namespace Lexeme

def isOperator (x : Lexeme) (op : String) : Bool :=
  x.kind == .operator && x.text == op

def isWord (x : Lexeme) (word : String) : Bool :=
  x.kind == .keyword && x.text == word

def canName (x : Lexeme) : Bool :=
  x.kind == .identifier || x.kind == .string || x.isWord "NULL"

def leaf (x : Lexeme) (kind : Tree.Kind) : Tree :=
  .leaf kind x.span

end Lexeme

def isSilent (k : Token.Kind) : Bool :=
  k.isTrivia || k == .endOfStream

/-- The lexemes of a token sequence over a text of `total` bytes, up to the first token that ends
outside it. `newline` says whether a line break stands before the first token. -/
def lexemesFrom (source : Text) (total : Nat) (newline : Bool) : List Token → List Lexeme
  | [] => []
  | t :: ts =>
    if total < t.stop then []
    else if isSilent t.kind then lexemesFrom source total (newline || t.kind == .newline) ts
    else ⟨t.kind, t.span, String.ofList (t.text source), newline⟩
      :: lexemesFrom source total false ts

def lexemes (source : Text) (tokens : List Token) : List Lexeme :=
  lexemesFrom source source.byteLength false tokens

structure Cursor where
  rest : List Lexeme
  lastStop : Nat := 0

namespace Cursor

def advance (s : Cursor) : Cursor :=
  match s.rest with
  | [] => s
  | x :: xs => ⟨xs, x.span.stop⟩

def isAt (s : Cursor) (k : Token.Kind) : Bool :=
  s.rest.head?.any (·.kind == k)

def remaining (s : Cursor) : Nat :=
  s.rest.length

theorem remaining_advance_le (s : Cursor) : s.advance.remaining ≤ s.remaining := by
  unfold advance
  split <;> simp_all [remaining]

end Cursor

/-- The bracket around a place: none, a brace, or a parenthesis or square bracket. -/
inductive Context where
  | top | brace | bracket
  deriving DecidableEq, Repr

def Context.endsAtNewline : Context → Bool
  | .bracket => false
  | _ => true

end RSource.Grammar
