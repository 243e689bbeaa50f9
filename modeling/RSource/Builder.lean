import RSource.Arena
import RSource.Grammar.Reader

/-! # Building an arena

A builder stands at a place in the lexemes and holds the cells made so far. Its steps are the readers of
the grammar once more, with the place of a cell wherever these have a tree: a cell is made when all below
it is read, and what recovery reads behind an argument is adopted by the argument.

A step never goes back in the lexemes; its type says so, which makes the loops of the builder end. -/

namespace RSource

open Grammar

structure Builder where
  place : Cursor
  cells : Array Cell := #[]

namespace Builder

def remaining (b : Builder) : Nat :=
  b.place.remaining

/-- A builder that has come from `b`. -/
abbrev Ahead (b : Builder) : Type :=
  { b' : Builder // b'.remaining ≤ b.remaining }

def Ahead.refl (b : Builder) : b.Ahead :=
  ⟨b, Nat.le_refl _⟩

def Ahead.trans {b : Builder} (b₁ : b.Ahead) (b₂ : b₁.1.Ahead) : b.Ahead :=
  ⟨b₂.1, Nat.le_trans b₂.2 b₁.2⟩

def Step (α : Type) : Type :=
  (b : Builder) → α × b.Ahead

instance : Monad Step where
  pure a b := (a, .refl b)
  bind m f b :=
    let r := m b
    let r' := f r.1 r.2.1
    (r'.1, r.2.trans r'.2)

/-! ## Single steps -/

def look (f : Builder → α) : Step α :=
  fun b => (f b, .refl b)

def rest : Step (List Lexeme) :=
  look (·.place.rest)

def lastStop : Step Nat :=
  look (·.place.lastStop)

def isAt (k : Token.Kind) : Step Bool :=
  look (·.place.isAt k)

def spanOf (i : Nat) : Step Span :=
  look fun b => Arena.spanAt b.cells i

def advance : Step Unit :=
  fun b => ((), ⟨{ b with place := b.place.advance }, b.place.remaining_advance_le⟩)

def advanceIf (p : Bool) : Step Unit :=
  if p then advance else pure ()

def takeAll : Step Unit :=
  fun b =>
    let stop := (b.place.rest.getLast?.map (·.span.stop)).getD b.place.lastStop
    ((), ⟨{ b with place := ⟨[], stop⟩ }, Nat.zero_le _⟩)

def alloc (kind : Tree.Kind) (span : Span) (children : List Nat) : Step Nat :=
  fun b => (b.cells.size, ⟨{ b with cells := Arena.alloc b.cells kind span children }, Nat.le_refl _⟩)

def adopt (parent child : Nat) : Step Unit :=
  fun b => ((), ⟨{ b with cells := Arena.adopt b.cells parent child }, Nat.le_refl _⟩)

def leaf (kind : Tree.Kind) (x : Lexeme) : Step Nat :=
  alloc kind x.span []

/-- The end of the last child, or `d` without children. -/
def lastStopD (children : List Nat) (d : Nat) : Step Nat :=
  look fun b => (children.getLast?.map fun i => (Arena.spanAt b.cells i).stop).getD d

/-! ## Recovery -/

variable (eof : Nat)

/-- Takes the next lexeme and all up to one that satisfies `stops` outside the brackets opened on the way.
Gives whether some of these are still open. -/
def pass (stops : Lexeme → Bool) : Step Bool :=
  fun b =>
    match h : b.place.rest with
    | [] => (false, .refl b)
    | x :: xs =>
      let r := skipLoop stops (if x.kind.isOpener then 1 else 0) x.span.stop xs
      have hr : r.2.remaining ≤ b.remaining := by
        have : r.2.remaining ≤ xs.length := remaining_skipLoop_le ..
        simp only [remaining, Cursor.remaining, h, List.length_cons] at *
        omega
      (0 < r.1, ⟨{ b with place := r.2 }, hr⟩)

def skip (stops : Lexeme → Bool) : Step Nat := do
  let start := ((← rest).head?.map (·.span.start)).getD eof
  let unclosed ← pass stops
  let stop ← lastStop
  alloc (.error unclosed) ⟨start, if unclosed then eof else stop⟩ []

/-- Reads up to and including `closer`; what stands before it becomes an error. -/
def expectCloser (closer : Token.Kind) : Step (Bool × List Nat) := do
  match ← rest with
  | [] => return (false, [])
  | x :: _ =>
    if x.kind = closer then
      advance
      return (true, [])
    else
      let e ← skip eof (·.kind == closer)
      let closed := !(← rest).isEmpty
      advance
      return (closed, [e])

/-- A node from `start` to the last lexeme read, or an error to the end of the text when its bracket was
not closed. -/
def finish (kind : Tree.Kind) (start : Nat) (closed : Bool) (children : List Nat) : Step Nat := do
  if closed then
    let stop ← lastStop
    let childStop ← lastStopD children start
    alloc kind ⟨start, max (max stop childStop) start⟩ children
  else alloc (.error true) ⟨start, eof⟩ children

/-! ## Nested expressions -/

theorem remaining_advance_lt {b : Builder} {x : Lexeme} {xs : List Lexeme}
    (h : b.place.rest = x :: xs) : (advance b).2.1.remaining < b.remaining := by
  simp [advance, remaining, Cursor.remaining, Cursor.advance, h]

theorem remaining_skip_lt (stops : Lexeme → Bool) {b : Builder} {x : Lexeme} {xs : List Lexeme}
    (h : b.place.rest = x :: xs) : (skip eof stops b).2.1.remaining < b.remaining := by
  have hpass : (pass stops b).2.1.remaining < b.remaining := by
    unfold pass
    split
    · simp_all
    · rename_i y ys hys
      obtain ⟨rfl, rfl⟩ := List.cons.inj (hys.symm.trans h)
      have := remaining_skipLoop_le stops (if y.kind.isOpener then 1 else 0) y.span.stop ys
      simp only [remaining, Cursor.remaining, h, List.length_cons] at *
      omega
  exact hpass

/-- An expression was found and a lexeme taken for it, or none was found and nothing done. -/
def Took {b : Builder} (r : Option Nat × b.Ahead) : Prop :=
  match r.1 with
  | none => r.2.1 = b
  | some _ => r.2.1.remaining < b.remaining

def Step.Takes (m : Step (Option Nat)) (b : Builder) : Prop :=
  Took (m b)

/-- The steps for the expressions nested one level deeper. -/
structure Filler where
  run : Nat → Context → Step (Option Nat)
  takes : ∀ power context b, (run power context).Takes b

variable (sub : Filler)

def optional (power : Nat) (context : Context) : Step (List Nat) := do
  return (← sub.run power context).toList

end Builder

end RSource
