import RSource.Grammar.Lexeme

/-! # Recovery

Lexemes that fit nowhere are folded into an error node. Skipping takes at least one lexeme and
passes over balanced brackets; when a bracket opened on the way is never closed, the error reaches
to the end of the text. -/

namespace RSource.Grammar

variable (eof : Nat)

def errorTree (start stop : Nat) (unclosed : Bool) : Tree :=
  .leaf (.error unclosed) ⟨start, if unclosed then eof else stop⟩

def depthAfter (depth : Nat) (x : Lexeme) : Nat :=
  if x.kind.isOpener then depth + 1 else if x.kind.isCloser then depth - 1 else depth

/-- Passes lexemes until one satisfies `stops` outside all brackets opened on the way. Gives the
number of brackets still open and the place reached. -/
def skipLoop (stops : Lexeme → Bool) (depth : Nat) (last : Nat) : List Lexeme → Nat × Cursor
  | [] => (depth, ⟨[], last⟩)
  | x :: xs =>
    if depth = 0 ∧ stops x then (depth, ⟨x :: xs, last⟩)
    else skipLoop stops (depthAfter depth x) x.span.stop xs

def skip (stops : Lexeme → Bool) (first : Lexeme) (rest : List Lexeme) : Tree × Cursor :=
  let r := skipLoop stops (if first.kind.isOpener then 1 else 0) first.span.stop rest
  (errorTree eof first.span.start r.2.lastStop (0 < r.1), r.2)

/-- A statement ends before the lexeme: at a line break, a `;` or the enclosing closer. -/
def endsStatement (closer : Option Token.Kind) (x : Lexeme) : Bool :=
  x.newlineBefore || x.isOperator ";" || closer == some x.kind

/-- Reads up to and including `closer`. What stands before it becomes an error node. The flag is
false when the text ended first. -/
def expectCloser (closer : Token.Kind) (s : Cursor) : Bool × List Tree × Cursor :=
  match s.rest with
  | [] => (false, [], s)
  | x :: xs =>
    if x.kind = closer then (true, [], s.advance)
    else
      let (e, s') := skip eof (·.kind == closer) x xs
      (!s'.rest.isEmpty, [e], s'.advance)

theorem remaining_skipLoop_le (stops : Lexeme → Bool) (depth last : Nat) (xs : List Lexeme) :
    (skipLoop stops depth last xs).2.remaining ≤ xs.length := by
  induction xs generalizing depth last with
  | nil => simp [skipLoop, Cursor.remaining]
  | cons x xs ih =>
    rw [skipLoop]
    split
    · simp [Cursor.remaining]
    · exact Nat.le_trans (ih ..) (by simp)

theorem remaining_skip_le (stops : Lexeme → Bool) (first : Lexeme) (rest : List Lexeme) :
    (skip eof stops first rest).2.remaining ≤ rest.length :=
  remaining_skipLoop_le ..

theorem remaining_expectCloser_le (closer : Token.Kind) (s : Cursor) :
    (expectCloser eof closer s).2.2.remaining ≤ s.remaining := by
  unfold expectCloser
  split
  · simp
  · rename_i x xs h
    split
    · exact s.remaining_advance_le
    · have := remaining_skip_le eof (·.kind == closer) x xs
      have := (skip eof (·.kind == closer) x xs).2.remaining_advance_le
      simp only [Cursor.remaining, h, List.length_cons] at *
      omega

end RSource.Grammar
