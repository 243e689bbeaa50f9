import RSource.Json.Read
import RSource.Pattern.Property
import RSource.Pattern.Read.Flags

/-! # Escapes in patterns

What a backslash and the characters behind it stand for: a character, a set of characters, or a
condition on a place. Where blanks do not count, they may stand inside an escape too. -/

namespace RSource.Pattern

/-- What an escape stands for. A character written by two hexadecimal digits is also a byte. -/
inductive Escaped where
  | literal (c : Char) (isByte : Bool)
  | set (s : CharSet)
  | place (l : Look)

def isMeta (c : Char) : Bool :=
  "\\.+*?()|[]\x7b\x7d^$#&-~".toList.contains c

def isEscapable (c : Char) : Bool :=
  isMeta c || (c.toNat < 128 && !c.isAlphanum && c != '<' && c != '>')

def charOf? (n : Nat) : Option Char :=
  if n.isValidChar then some (Char.ofNat n) else none

def braced? (f : Flags) : Nat → List Char → Option (List Char × List Char)
  | 0, _ => none
  | fuel + 1, s =>
    match f.skip s with
    | [] => none
    | '\x7d' :: r => some ([], r)
    | c :: r => (braced? f fuel r).map fun (cs, r') => (c :: cs, r')

def counted? (f : Flags) : Nat → List Char → Option (List Char × List Char)
  | 0, s => some ([], s)
  | n + 1, s =>
    match f.skip s with
    | [] => none
    | c :: r => (counted? f n r).map fun (cs, r') => (c :: cs, r')

def hexNumber? (ds : List Char) : Option Nat :=
  ds.foldl (fun n d => n.bind fun n => (Json.hexValue? d).map (n * 16 + ·)) (some 0)

def hexChar? (ds : List Char) : Option Char :=
  if ds.isEmpty then none else (hexNumber? ds).bind charOf?

def hexEscape? (f : Flags) (width : Nat) (s : List Char) : Option (Escaped × List Char) :=
  match f.skip s with
  | '\x7b' :: r =>
    (braced? f (r.length + 1) r).bind fun (ds, r') =>
      (hexChar? ds).map fun c => (.literal c false, r')
  | r =>
    (counted? f width r).bind fun (ds, r') =>
      (hexChar? ds).map fun c => (.literal c (width == 2), r')

def propertyEscape? (f : Flags) (negated : Bool) (s : List Char) : Option (Escaped × List Char) :=
  let set? (written : List Char) : Option CharSet :=
    if f.unicode then
      (Property.read? written).bind fun (a, lacks) => f.finish? (negated != lacks) a
    else none
  match f.skip s with
  | [] => none
  | '\\' :: _ => none
  | '\x7b' :: r =>
    (braced? f (r.length + 1) r).bind fun (name, r') => (set? name).map fun a => (.set a, r')
  | c :: r => (set? [c]).map fun a => (.set a, r)

def asciiSet? : String → Option CharSet
  | "alnum" => some ⟨[(0x30, 0x39), (0x41, 0x5A), (0x61, 0x7A)]⟩
  | "alpha" => some ⟨[(0x41, 0x5A), (0x61, 0x7A)]⟩
  | "ascii" => some (.range 0 127)
  | "blank" => some (.ofCodes [9, 32])
  | "cntrl" => some ⟨[(0, 31), (127, 127)]⟩
  | "digit" => some (.range 0x30 0x39)
  | "graph" => some (.range 0x21 0x7E)
  | "lower" => some (.range 0x61 0x7A)
  | "print" => some (.range 0x20 0x7E)
  | "punct" => some ⟨[(0x21, 0x2F), (0x3A, 0x40), (0x5B, 0x60), (0x7B, 0x7E)]⟩
  | "space" => some ⟨[(9, 13), (32, 32)]⟩
  | "upper" => some (.range 0x41 0x5A)
  | "word" => some ⟨[(0x30, 0x39), (0x41, 0x5A), (0x5F, 0x5F), (0x61, 0x7A)]⟩
  | "xdigit" => some ⟨[(0x30, 0x39), (0x41, 0x46), (0x61, 0x66)]⟩
  | _ => none

def letterSet? (unicode : Bool) : Char → Option CharSet
  | 'd' => if unicode then some Property.decimalNumber else asciiSet? "digit"
  | 's' => if unicode then some Property.whiteSpace else asciiSet? "space"
  | 'w' => if unicode then some Property.word else asciiSet? "word"
  | _ => none

/-- The set named by the letter behind a backslash; a capital letter stands for all characters
outside the set. -/
def letterEscape? (f : Flags) (c : Char) : Option CharSet :=
  (letterSet? f.unicode c.toLower).bind (f.finish? c.isUpper)

def edge? : String → Option Edge
  | "start" => some .start
  | "end" => some .stop
  | "start-half" => some .startHalf
  | "end-half" => some .stopHalf
  | _ => none

/-- The condition at `\b`. Behind it a brace with letters or hyphens names another condition; any
other brace is a repetition. -/
def boundaryEscape? (f : Flags) (s : List Char) : Option (Escaped × List Char) :=
  let plain : Option (Escaped × List Char) := some (.place (.word .boundary !f.unicode), s)
  match s with
  | '\x7b' :: r =>
    match f.skip r with
    | [] => none
    | c :: _ =>
      if c.isAlpha || c == '-' then
        (braced? f (r.length + 1) r).bind fun (name, r') =>
          (edge? (String.ofList name)).map fun e => (.place (.word e !f.unicode), r')
      else plain
  | _ => plain

def controlChar? : Char → Option Char
  | 'a' => some '\x07'
  | 'f' => some '\x0c'
  | 't' => some '\t'
  | 'n' => some '\n'
  | 'r' => some '\r'
  | 'v' => some '\x0b'
  | _ => none

def escape? (f : Flags) (s : List Char) : Option (Escaped × List Char) :=
  match s with
  | [] => none
  | c :: s =>
    match c with
    | 'd' | 'D' | 's' | 'S' | 'w' | 'W' => (letterEscape? f c).map fun a => (.set a, s)
    | 'x' => hexEscape? f 2 s
    | 'u' => hexEscape? f 4 s
    | 'U' => hexEscape? f 8 s
    | 'p' => propertyEscape? f false s
    | 'P' => propertyEscape? f true s
    | 'A' => some (.place .textStart, s)
    | 'z' => some (.place .textStop, s)
    | 'b' => boundaryEscape? f s
    | 'B' => some (.place (.word .inside !f.unicode), s)
    | '<' => some (.place (.word .start !f.unicode), s)
    | '>' => some (.place (.word .stop !f.unicode), s)
    | _ =>
      match controlChar? c with
      | some c => some (.literal c false, s)
      | none => if isEscapable c then some (.literal c false, s) else none

end RSource.Pattern
