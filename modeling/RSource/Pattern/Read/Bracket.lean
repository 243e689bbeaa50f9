import RSource.Pattern.Read.Escape

/-! # Bracketed sets

Sets of characters written in brackets: members, ranges, sets inside the set, and operations between
them. The readers walk the text with a counter that starts at its length, since each step takes at
least one character. -/

namespace RSource.Pattern

inductive SetOp where
  | intersection | difference | symmetricDifference

def SetOp.apply : SetOp → CharSet → CharSet → CharSet
  | .intersection, a, b => a.inter b
  | .difference, a, b => a.diff b
  | .symmetricDifference, a, b => a.symmDiff b

def setOp? : List Char → Option (SetOp × List Char)
  | '&' :: '&' :: s => some (.intersection, s)
  | '-' :: '-' :: s => some (.difference, s)
  | '~' :: '~' :: s => some (.symmetricDifference, s)
  | _ => none

structure Nested (α : Type) where
  value : α
  depth : Nat

/-- The members of a set read so far: their union, how many there are and the deepest of them. -/
structure Members where
  set : CharSet := .empty
  count : Nat := 0
  depth : Nat := 0

namespace Members

def add (m : Members) (a : CharSet) (depth : Nat) : Members :=
  ⟨m.set.union a, m.count + 1, max m.depth depth⟩

def toNested (m : Members) (f : Flags) : Nested CharSet :=
  ⟨f.fold m.set, if 1 < m.count then m.depth + 1 else m.depth⟩

end Members

abbrev Pending := Option (Nested CharSet × SetOp)

def Pending.finish (pending : Pending) (a : Nested CharSet) : Nested CharSet :=
  match pending with
  | some (left, op) => ⟨op.apply left.value a.value, max left.depth a.depth + 1⟩
  | none => a

def asciiClass? (s : List Char) : Option ((CharSet × Bool) × List Char) :=
  match s with
  | ':' :: s =>
    let (negated, s) :=
      match s with
      | '^' :: r => (true, r)
      | _ => (false, s)
    let name := s.takeWhile (· != ':')
    match s.drop name.length with
    | ':' :: ']' :: r => (asciiSet? (String.ofList name)).map fun a => ((a, negated), r)
    | _ => none
  | _ => none

def member? (f : Flags) (s : List Char) : Option (Escaped × List Char) :=
  match s with
  | [] => none
  | '\\' :: s =>
    (escape? f s).filter fun e =>
      match e.1 with
      | .place _ => false
      | _ => true
  | c :: s => some (.literal c false, s)

/-- The code point of a character in a set. Without `unicode` it must be ASCII. -/
def memberCode? (f : Flags) (c : Char) : Option Nat :=
  if f.unicode || c.toNat < 128 then some c.toNat else none

def memberOrRange? (f : Flags) (s : List Char) : Option (CharSet × List Char) :=
  (member? f s).bind fun (first, r) =>
    let alone : Option (CharSet × List Char) :=
      match first with
      | .literal c _ => (memberCode? f c).map fun n => (.range n n, r)
      | .set a => some (a, r)
      | .place _ => none
    match f.skip r with
    | '-' :: r' =>
      if f.peek? r' = some ']' ∨ f.peek? r' = some '-' then alone
      else
        match first, member? f (f.skip r') with
        | .literal lo _, some (.literal hi _, r'') =>
          match memberCode? f lo, memberCode? f hi with
          | some lo, some hi => if lo ≤ hi then some (.range lo hi, r'') else none
          | _, _ => none
        | _, _ => none
    | _ => alone

def skipHyphens (f : Flags) : Nat → List Char → Nat × List Char
  | 0, s => (0, s)
  | fuel + 1, s =>
    match s with
    | '-' :: r =>
      let (n, r') := skipHyphens f fuel (f.skip r)
      (n + 1, r')
    | _ => (0, s)

/-- The opening of a set behind its bracket: whether it is negated, the hyphens or the bracket that
stand for themselves at its start, and what follows. -/
def setOpening (f : Flags) (s : List Char) : Bool × Members × List Char :=
  let (negated, s) :=
    match f.skip s with
    | '^' :: r => (true, f.skip r)
    | r => (false, r)
  match skipHyphens f s.length s with
  | (0, ']' :: r) => (negated, ⟨.single ']', 1, 0⟩, f.skip r)
  | (0, r) => (negated, {}, r)
  | (n, r) => (negated, ⟨.single '-', n, 0⟩, r)

def setBody? (f : Flags) :
    Nat → Bool → Pending → Members → List Char → Option (Nested CharSet × List Char)
  | 0, _, _, _, _ => none
  | fuel + 1, negated, pending, members, s =>
    match f.skip s with
    | [] => none
    | ']' :: r =>
      let whole := pending.finish (members.toNested f)
      (f.finish? negated whole.value).map fun a => (⟨a, whole.depth + 1⟩, r)
    | '[' :: r =>
      match asciiClass? r with
      | some ((a, isNegated), r') =>
        match f.finish? isNegated a with
        | some a => setBody? f fuel negated pending (members.add a 0) r'
        | none => none
      | none =>
        let (negated', members', r') := setOpening f r
        match setBody? f fuel negated' none members' r' with
        | some (a, r'') => setBody? f fuel negated pending (members.add a.value a.depth) r''
        | none => none
    | s =>
      match setOp? s with
      | some (op, r) =>
        setBody? f fuel negated (some (pending.finish (members.toNested f), op)) {} r
      | none =>
        match memberOrRange? f s with
        | some (a, r) => setBody? f fuel negated pending (members.add a 0) r
        | none => none

def set? (f : Flags) (s : List Char) : Option (Nested CharSet × List Char) :=
  let (negated, members, r) := setOpening f s
  setBody? f (s.length + 1) negated none members r

end RSource.Pattern
