import RSource.Pattern.Read.Bracket
import RSource.Pattern.Size

/-! # Reading patterns

The written form of patterns. A text that is no pattern has no reading: an unclosed group or set, a
repetition of nothing, reversed bounds, look-around, a back-reference, an unknown escape, two groups
of one name. Nor has a pattern that nests too deep or is too large. The readers walk the text with a
counter that starts at its length, since each step takes at least one character. -/

namespace RSource.Pattern

def maxNesting : Nat := 250

/-! ## Repetition -/

def digits (f : Flags) : Nat → List Char → List Char × List Char
  | 0, s => ([], s)
  | fuel + 1, s =>
    match s with
    | c :: r =>
      if Text.isDigit c then
        let (ds, r') := digits f fuel (f.skip r)
        (c :: ds, r')
      else ([], s)
    | [] => ([], [])

def count? (f : Flags) (s : List Char) : Option (Nat × List Char) :=
  let s := s.dropWhile Text.isBlank
  let (ds, r) := digits f s.length s
  let n := Json.digitsValue ds
  if ds.isEmpty || 4294967296 ≤ n then none
  else some (n, f.skip (r.dropWhile Text.isBlank))

def bounds? (f : Flags) (s : List Char) : Option ((Nat × Option Nat) × List Char) :=
  (count? f (f.skip s)).bind fun (low, r) =>
    match r with
    | '\x7d' :: r => some ((low, some low), f.skip r)
    | ',' :: r =>
      match f.skip r with
      | '\x7d' :: r => some ((low, none), f.skip r)
      | r =>
        match count? f r with
        | some (high, '\x7d' :: r) =>
          if low ≤ high then some ((low, some high), f.skip r) else none
        | _ => none
    | _ => none

def dropReluctant (s : List Char) : List Char :=
  match s with
  | '?' :: r => r
  | _ => s

/-! ## Groups -/

def readFlags? : List Char → Bool → Bool → List Char → Flags → Option (Flags × List Char)
  | _, _, _, [], _ => none
  | seen, value, pendingMinus, c :: s, flags =>
    if c = ')' ∨ c = ':' then if pendingMinus then none else some (flags, c :: s)
    else if seen.contains c then none
    else
      match c with
      | '-' => readFlags? (c :: seen) false true s flags
      | 'i' => readFlags? (c :: seen) value false s { flags with ignoreCase := value }
      | 'm' => readFlags? (c :: seen) value false s { flags with multiLine := value }
      | 's' => readFlags? (c :: seen) value false s { flags with dotAll := value }
      | 'R' => readFlags? (c :: seen) value false s { flags with crlf := value }
      | 'x' => readFlags? (c :: seen) value false s { flags with verbose := value }
      | 'u' => readFlags? (c :: seen) value false s { flags with unicode := value }
      | 'U' => readFlags? (c :: seen) value false s flags
      | _ => none

/-- What a parenthesis opens: a setting of flags, a group with its flags, or a group whose text is
kept, perhaps under a name. -/
inductive Opening where
  | settings (flags : Flags)
  | plain (flags : Flags)
  | kept (name : Option (List Char))

def groupName? (s : List Char) : Option (List Char × List Char) :=
  let name := s.takeWhile (· != '>')
  let first (c : Char) : Bool := c == '_' || Text.isAlphabetic c
  let later (c : Char) : Bool := "_.[]".toList.contains c || Text.isAlphanumeric c
  match name with
  | c :: cs =>
    if first c && cs.all later && name.length < s.length then
      some (name, s.drop (name.length + 1))
    else none
  | [] => none

def opening? (flags : Flags) (s : List Char) : Option (Opening × List Char) :=
  match flags.skip s with
  | '?' :: '=' :: _ | '?' :: '!' :: _ => none
  | '?' :: 'P' :: '<' :: r => (groupName? r).map fun (name, r') => (.kept (some name), r')
  | '?' :: '<' :: r => (groupName? r).map fun (name, r') => (.kept (some name), r')
  | '?' :: r =>
    match readFlags? [] true false r flags with
    | some (flags', ':' :: r') => some (.plain flags', r')
    | some (flags', ')' :: r') => if r.head? = some ')' then none else some (.settings flags', r')
    | _ => none
  | r => some (.kept none, r)

/-! ## The whole -/

/-- A part of a sequence; a setting of flags cannot be repeated. -/
structure Part extends Nested Pattern where
  repeatable : Bool := true

structure Frame where
  alternatives : List (Nested Pattern) := []
  parts : List Part := []
  flags : Flags := {}
  kept : Bool := false

/-- The deepest of several things, which are a level of their own if there is more than one. -/
def levels (depths : List Nat) : Nat :=
  let deepest := depths.foldl max 0
  if 1 < depths.length then deepest + 1 else deepest

namespace Frame

def add (f : Frame) (p : Pattern) (depth : Nat) : Frame :=
  { f with parts := ⟨⟨p, depth⟩, true⟩ :: f.parts }

def sequence (f : Frame) : Nested Pattern :=
  ⟨f.parts.foldl (fun p q => q.value.append p) .empty, levels (f.parts.map (·.depth))⟩

def nextAlternative (f : Frame) : Frame :=
  { f with alternatives := f.sequence :: f.alternatives, parts := [] }

def whole (f : Frame) : Nested Pattern :=
  let all := (f.sequence :: f.alternatives).reverse
  ⟨choice (all.map (·.value)), levels (all.map (·.depth))⟩

def close (f : Frame) : Nested Pattern :=
  let w := f.whole
  ⟨if f.kept then .group w.value else w.value, w.depth + 1⟩

def repeatLast? (f : Frame) (low : Nat) (high : Option Nat) : Option Frame :=
  match f.parts with
  | p :: rest =>
    if p.repeatable then
      some { f with parts := ⟨⟨p.value.repeated low high, p.depth + 1⟩, true⟩ :: rest }
    else none
  | [] => none

end Frame

/-- Reads the pattern from `s` on into the innermost open group; `outer` are the groups around it,
and `names` the names of the groups so far. -/
def readFrom? : Nat → List (List Char) → List Frame → Frame → List Char → Option (Nested Pattern)
  | 0, _, _, _, _ => none
  | fuel + 1, names, outer, frame, s =>
    let flags := frame.flags
    let more (p : Pattern) (depth : Nat) (r : List Char) : Option (Nested Pattern) :=
      readFrom? fuel names outer (frame.add p depth) r
    let moreOf (a : Option CharSet) (r : List Char) : Option (Nested Pattern) :=
      match a with
      | some a => more (.one a) 0 r
      | none => none
    let repeated (low : Nat) (high : Option Nat) (r : List Char) : Option (Nested Pattern) :=
      match frame.repeatLast? low high with
      | some frame' => readFrom? fuel names outer frame' (dropReluctant r)
      | none => none
    match flags.skip s with
    | [] => if outer.isEmpty then some frame.whole else none
    | '(' :: r =>
      match opening? flags r with
      | none => none
      | some (.settings flags', r') =>
        let parts := ⟨⟨.empty, 0⟩, false⟩ :: frame.parts
        readFrom? fuel names outer { frame with parts := parts, flags := flags' } r'
      | some (.plain flags', r') =>
        readFrom? fuel names (frame :: outer) { flags := flags' } r'
      | some (.kept none, r') =>
        readFrom? fuel names (frame :: outer) { flags := flags, kept := true } r'
      | some (.kept (some name), r') =>
        if names.contains name then none
        else readFrom? fuel (name :: names) (frame :: outer) { flags := flags, kept := true } r'
    | ')' :: r =>
      match outer with
      | [] => none
      | f :: fs =>
        let closed := frame.close
        readFrom? fuel names fs (f.add closed.value closed.depth) r
    | '|' :: r => readFrom? fuel names outer frame.nextAlternative r
    | '[' :: r =>
      match set? flags r with
      | some (a, r') => more (.one a.value) a.depth r'
      | none => none
    | '*' :: r => repeated 0 none r
    | '+' :: r => repeated 1 none r
    | '?' :: r => repeated 0 (some 1) r
    | '\x7b' :: r =>
      match bounds? flags r with
      | some ((low, high), r') => repeated low high r'
      | none => none
    | '\\' :: r =>
      match escape? flags r with
      | some (.literal c isByte, r') => moreOf (flags.letter? c isByte) r'
      | some (.set a, r') => more (.one a) 0 r'
      | some (.place l, r') => more (.look l) 0 r'
      | none => none
    | '.' :: r => moreOf flags.dot? r
    | '^' :: r => more (.look flags.lineStart) 0 r
    | '$' :: r => more (.look flags.lineStop) 0 r
    | c :: r => moreOf (flags.letter? c false) r

def read? (s : List Char) : Option Pattern :=
  match readFrom? (s.length + 1) [] [] {} s with
  | some p => if p.depth ≤ maxNesting && p.value.isSmall then some p.value else none
  | none => none

end RSource.Pattern
