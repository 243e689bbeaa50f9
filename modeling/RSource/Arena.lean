import RSource.Tree

/-! # Arenas

The nodes of a tree in one array. A cell refers to its parent and its children by their places in the
array. New cells are put at the end, behind their children, so a cell learns its parent only later. The
one other change is that a cell adopts a child behind the children it has. -/

namespace RSource

structure Cell where
  kind : Tree.Kind
  span : Span
  parent? : Option Nat := none
  children : List Nat := []
  deriving Repr, Inhabited

structure Arena where
  cells : Array Cell
  root : Nat
  deriving Repr

/-! ## Growing -/

namespace Cell

def withParent (parent : Nat) (c : Cell) : Cell :=
  { c with parent? := some parent }

def withChild (child stop : Nat) (c : Cell) : Cell :=
  { c with children := c.children ++ [child], span := ⟨c.span.start, max c.span.stop stop⟩ }

end Cell

namespace Arena

variable (cells : Array Cell)

/-- The span of the cell at a place of the array; places outside it are never asked for. -/
def spanAt (i : Nat) : Span :=
  (cells[i]?.map (·.span)).getD default

def childrenAt (i : Nat) : List Nat :=
  (cells[i]?.map (·.children)).getD []

def parentAt? (i : Nat) : Option Nat :=
  cells[i]?.bind (·.parent?)

def linkAll (parent : Nat) (children : List Nat) : Array Cell :=
  children.foldl (fun cs i => cs.modify i (·.withParent parent)) cells

/-- Adds a cell without a parent, which becomes the parent of its children. -/
def alloc (kind : Tree.Kind) (span : Span) (children : List Nat) : Array Cell :=
  (linkAll cells cells.size children).push { kind, span, children }

/-- Puts `child` behind the children of `parent` and widens the span of `parent` to hold it. -/
def adopt (parent child : Nat) : Array Cell :=
  (cells.modify child (·.withParent parent)).modify parent (·.withChild child (spanAt cells child).stop)

end Arena

end RSource
