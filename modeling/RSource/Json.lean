/-! # JSON values

Settings and reports are JSON. A number that is an unsigned 64-bit integer is kept as such; every
other number is kept as it was written, since nothing here computes with it. -/

namespace RSource

/-- A JSON value. Members of an object keep their order. -/
inductive Json where
  | null
  | bool (value : Bool)
  | natural (value : Nat)
  | number (written : String)
  | string (value : String)
  | array (items : List Json)
  | object (members : List (String × Json))
  deriving Repr, Inhabited

namespace Json

/-- The member of an object with the given key; of several the last one. -/
def member? (key : String) : Json → Option Json
  | object members => (members.reverse.find? fun m => m.1 == key).map (·.2)
  | _ => none

def bool? : Json → Option Bool
  | bool b => some b
  | _ => none

def natural? : Json → Option Nat
  | natural n => some n
  | _ => none

def string? : Json → Option String
  | string s => some s
  | _ => none

def array? : Json → Option (List Json)
  | array items => some items
  | _ => none

end Json

end RSource
