import RSource.Builder

/-! # Filling statements -/

namespace RSource.Builder

open Grammar

variable (eof : Nat) (sub : Filler)

/-- What stands behind a statement on its line, as an error. -/
def junk (closer : Option Token.Kind) : Step (List Nat) := do
  match ← rest with
  | [] => return []
  | y :: _ =>
    if endsStatement closer y then return []
    else return [← skip eof (endsStatement closer)]

/-- The statement of an expression with the junk behind it, or an error where no expression starts. -/
def statement (closer : Option Token.Kind) : Option Nat → Step (List Nat)
  | none => do return [← skip eof (endsStatement closer)]
  | some e => do
    let s ← alloc .expressionStatement (← spanOf e) [e]
    return s :: (← junk eof closer)

/-- What starts with the lexeme `x`: nothing at a semicolon, an error at a stray closer. -/
def item (context : Context) (closer : Option Token.Kind) (x : Lexeme) : Step (List Nat) := do
  if x.isOperator ";" then
    advance
    return []
  else if x.kind.isCloser then
    advance
    return [← leaf (.error false) x]
  else statement eof closer (← sub.run 0 context)

theorem remaining_item_lt {context : Context} {closer : Option Token.Kind} {b : Builder} {x : Lexeme}
    {xs : List Lexeme} (h : b.place.rest = x :: xs) :
    (item eof sub context closer x b).2.1.remaining < b.remaining := by
  unfold item
  split
  · exact remaining_advance_lt h
  · split
    · exact remaining_advance_lt h
    · have htook : Took (sub.run 0 context b) := sub.takes 0 context b
      show (statement eof closer (sub.run 0 context b).1 (sub.run 0 context b).2.1).2.1.remaining < _
      generalize sub.run 0 context b = r at *
      obtain ⟨e | e, b', hb'⟩ := r
      · obtain rfl : b' = b := htook
        exact remaining_skip_lt eof _ h
      · exact Nat.lt_of_le_of_lt (statement eof closer (some e) b').2.2 htook

def statements (context : Context) (closer : Option Token.Kind) (b : Builder) : List Nat × b.Ahead :=
  match hs : b.place.rest with
  | [] => ([], .refl b)
  | x :: _ =>
    if closer = some x.kind then ([], .refl b)
    else
      let r := item eof sub context closer x b
      have : r.2.1.remaining < b.remaining := remaining_item_lt eof sub hs
      let more := statements context closer r.2.1
      (r.1 ++ more.1, r.2.trans more.2)
termination_by b.remaining

end RSource.Builder
