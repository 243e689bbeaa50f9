/-! # Ordered maps

A map from names to values that remembers the order in which the names came. Giving a name a new
value leaves it in its place. -/

namespace RSource

/-- A map from names to values, in order of first insertion. -/
structure OrderedMap (α : Type) where
  entries : List (String × α) := []
  deriving Repr, Inhabited

namespace OrderedMap

variable {α : Type}

def empty : OrderedMap α := ⟨[]⟩

def get? (m : OrderedMap α) (name : String) : Option α :=
  m.entries.lookup name

def names (m : OrderedMap α) : List String :=
  m.entries.map (·.1)

def values (m : OrderedMap α) : List α :=
  m.entries.map (·.2)

def contains (m : OrderedMap α) (name : String) : Bool :=
  m.entries.any (·.1 == name)

/-- The entries with `name` set to `value`: in its place, or at the end. -/
def insertEntry (name : String) (value : α) : List (String × α) → List (String × α)
  | [] => [(name, value)]
  | e :: es => if e.1 == name then (name, value) :: es else e :: insertEntry name value es

def insert (m : OrderedMap α) (name : String) (value : α) : OrderedMap α :=
  ⟨insertEntry name value m.entries⟩

end OrderedMap

end RSource
