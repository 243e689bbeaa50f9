import RSource.Grammar.Power
import RSource.Grammar.Recover

/-! # Readers of expressions

The parts of the grammar are written over a given reader for the expressions nested one level
deeper. Such a reader takes at least one lexeme whenever it finds an expression, and takes none
when it finds none; that is what makes the loops over statements, arguments and operators end. -/

namespace RSource.Grammar

/-- A reader of expressions. `run power context s` reads the expression at `s` as far as operators
of at least `power` reach. -/
structure Reader where
  run : Nat → Context → Cursor → Option (Tree × Cursor)
  shorter : ∀ {power context s t s'}, run power context s = some (t, s') →
    s'.remaining < s.remaining

variable (eof : Nat) (sub : Reader)

def optional (power : Nat) (context : Context) (s : Cursor) : List Tree × Cursor :=
  match sub.run power context s with
  | some (t, s') => ([t], s')
  | none => ([], s)

theorem remaining_optional_le (power : Nat) (context : Context) (s : Cursor) :
    (optional sub power context s).2.remaining ≤ s.remaining := by
  unfold optional
  split
  · rename_i h
    exact Nat.le_of_lt (sub.shorter h)
  · exact Nat.le_refl _

def lastStopD (children : List Tree) (d : Nat) : Nat :=
  (children.getLast?.map fun t => t.span.stop).getD d

/-- A node from `start` to the last lexeme read, or an error to the end of the text when its
bracket was not closed. -/
def finish (kind : Tree.Kind) (start : Nat) (closed : Bool) (children : List Tree) (s : Cursor) :
    Tree :=
  if closed then
    .node kind ⟨start, max (max s.lastStop (lastStopD children start)) start⟩ children
  else .node (.error true) ⟨start, eof⟩ children

theorem remaining_le_of_eq {r : Tree × Cursor} {t : Tree} {s' : Cursor} {n : Nat} (h : r = (t, s'))
    (hr : r.2.remaining ≤ n) : s'.remaining ≤ n := by
  subst h
  exact hr

end RSource.Grammar
