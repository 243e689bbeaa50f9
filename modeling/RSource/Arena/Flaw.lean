import RSource.Arena
import RSource.Tree.Describe

/-! # Structural flaws of an arena

An arena over a text of `n` bytes is sound when its root spans exactly the text and has no parent, every
child names its parent and lies in it, siblings follow one another without overlap, and the walk from
the root comes to every cell. `flaw?` finds the first breach in pre-order. -/

namespace RSource.Arena

inductive Flaw where
  | rootSpan (span : Span) (length : Nat)
  | rootParent
  | wrongParent (child : Nat)
  | escapes (child parent : Cell)
  | overlaps (child : Cell) (previousStop : Nat)
  | unreachable (count : Nat)

def Flaw.message : Flaw → String
  | .rootSpan span length => s!"root covers {span.render}, expected 0..{length}"
  | .rootParent => "root has a parent"
  | .wrongParent child => s!"node NodeId({child}) has wrong parent"
  | .escapes child parent =>
    child.kind.describe ++ " " ++ child.span.render ++ " escapes parent "
      ++ parent.kind.describe ++ " " ++ parent.span.render
  | .overlaps child previousStop =>
    child.kind.describe ++ " " ++ child.span.render
      ++ s!" overlaps previous sibling ending at {previousStop}"
  | .unreachable count => s!"{count} nodes unreachable from root"

def walk (cells : Array Cell) : Nat → List Nat → List Nat
  | _, [] => []
  | 0, _ => []
  | limit + 1, i :: stack => i :: walk cells limit (childrenAt cells i ++ stack)

/-- The first child of the cell at the place `i` that does not name it, leaves it or starts before the end
`previousStop` of the one before. -/
def childFlaw? (cells : Array Cell) (i : Nat) (parent : Cell) (previousStop : Nat) :
    List Nat → Option Flaw
  | [] => none
  | j :: js =>
    match cells[j]? with
    | none => some (.wrongParent j)
    | some c =>
      if c.parent? ≠ some i then some (.wrongParent j)
      else if !parent.span.contains c.span then some (.escapes c parent)
      else if c.span.start < previousStop then some (.overlaps c previousStop)
      else childFlaw? cells i parent c.span.stop js

def cellFlaw? (cells : Array Cell) (i : Nat) : Option Flaw :=
  cells[i]?.bind fun c => childFlaw? cells i c c.span.start c.children

/-- The first breach of soundness over a text of `length` bytes. A sound arena has one visit for each
cell, so the walk is stopped after one visit more than there are cells. -/
def flaw? (r : Arena) (length : Nat) : Option Flaw :=
  let root := spanAt r.cells r.root
  let visits := walk r.cells (r.cells.size + 1) [r.root]
  if root ≠ ⟨0, length⟩ then some (.rootSpan root length)
  else if (parentAt? r.cells r.root).isSome then some .rootParent
  else (visits.findSome? (cellFlaw? r.cells)).or
    (if visits.length = r.cells.size then none else some (.unreachable (r.cells.size - visits.length)))

end RSource.Arena
