import RSource.Decimal.Binary64
import RSource.Json
import RSource.Text.CharClass

/-! # Reading JSON

Strict JSON: no comments, no trailing commas, nothing before or behind the value but blanks, no raw
control characters and no lone surrogates in strings. A number must lie in the range of the 64-bit
floating-point numbers, and values nest at most `maxDepth` deep. -/

namespace RSource.Json

def maxDepth : Nat := 127

def isSpace (c : Char) : Bool :=
  c == ' ' || c == '\n' || c == '\t' || c == '\r'

def skipSpace (s : List Char) : List Char :=
  s.dropWhile isSpace

theorem length_skipSpace_le (s : List Char) : (skipSpace s).length ≤ s.length :=
  (List.dropWhile_sublist _).length_le

/-! ## Strings -/

def hexValue? (c : Char) : Option Nat :=
  if '0' ≤ c ∧ c ≤ '9' then some (c.toNat - '0'.toNat)
  else if 'a' ≤ c ∧ c ≤ 'f' then some (c.toNat - 'a'.toNat + 10)
  else if 'A' ≤ c ∧ c ≤ 'F' then some (c.toNat - 'A'.toNat + 10)
  else none

def hex4? (a b c d : Char) : Option Nat := do
  let a ← hexValue? a
  let b ← hexValue? b
  let c ← hexValue? c
  let d ← hexValue? d
  return ((a * 16 + b) * 16 + c) * 16 + d

def shortEscape? : Char → Option Char
  | '"' => some '"'
  | '\\' => some '\\'
  | '/' => some '/'
  | 'b' => some '\x08'
  | 'f' => some '\x0c'
  | 'n' => some '\n'
  | 'r' => some '\r'
  | 't' => some '\t'
  | _ => none

/-- The character that a high and a low surrogate stand for. -/
def pair (high low : Nat) : Char :=
  Char.ofNat (0x10000 + (high - 0xD800) * 0x400 + (low - 0xDC00))

def stringBody? : List Char → Option (List Char × List Char)
  | [] => none
  | '"' :: s => some ([], s)
  | '\\' :: 'u' :: a :: b :: c :: d :: s =>
    match hex4? a b c d with
    | none => none
    | some n =>
      if 0xD800 ≤ n ∧ n ≤ 0xDBFF then
        match s with
        | '\\' :: 'u' :: a' :: b' :: c' :: d' :: s' =>
          match hex4? a' b' c' d' with
          | none => none
          | some m =>
            if 0xDC00 ≤ m ∧ m ≤ 0xDFFF then
              (stringBody? s').map fun (t, r) => (pair n m :: t, r)
            else none
        | _ => none
      else if 0xDC00 ≤ n ∧ n ≤ 0xDFFF then none
      else (stringBody? s).map fun (t, r) => (Char.ofNat n :: t, r)
  | '\\' :: e :: s =>
    match shortEscape? e with
    | none => none
    | some c => (stringBody? s).map fun (t, r) => (c :: t, r)
  | c :: s =>
    if c == '\\' || c.toNat < 0x20 then none
    else (stringBody? s).map fun (t, r) => (c :: t, r)

/-! ## Numbers -/

def digitsValue (ds : List Char) : Nat :=
  ds.foldl (fun n d => n * 10 + (d.toNat - '0'.toNat)) 0

def maxSignificand : Nat := 18446744073709551615

/-- The significand with digits added as long as it is not too great, and the digits left over. -/
def gather : Nat → List Char → Nat × List Char
  | n, [] => (n, [])
  | n, d :: ds =>
    let more := n * 10 + digitsValue [d]
    if more ≤ maxSignificand then gather more ds else (n, d :: ds)

structure Scaled where
  significand : Nat
  exponent : Int

def maxPower : Nat := 308

/-- The decimal is a finite 64-bit floating-point number: with a positive exponent it is the product
of the numbers nearest to the significand and to the power of ten. -/
def Scaled.isFinite (x : Scaled) : Bool :=
  if x.significand = 0 ∨ x.exponent < 0 then true
  else if (maxPower : Int) < x.exponent then false
  else
    let power := Decimal.Binary64.ofNat (Nat.pow 10 x.exponent.toNat)
    ((Decimal.Binary64.ofNat x.significand).mul power).isFinite

structure Numeral where
  negative : Bool
  whole : List Char
  fraction : Option (List Char)
  exponent : Option Int

namespace Numeral

/-- The number without its sign. Whole digits that do not fit the significand raise the exponent,
and fraction digits that do not fit it are dropped. -/
def scaled (d : Numeral) : Scaled :=
  let fraction := d.fraction.getD []
  let (n, wholeRest) := gather 0 d.whole
  let (m, fractionRest) := gather n fraction
  let places : Int := (fraction.length : Int) - fractionRest.length
  ⟨m, (wholeRest.length : Int) - places + d.exponent.getD 0⟩

def toJson? (d : Numeral) (written : List Char) : Option Json :=
  let n := digitsValue d.whole
  if d.fraction.isNone && d.exponent.isNone && !d.negative && n ≤ maxSignificand then
    some (.natural n)
  else if d.scaled.isFinite then some (.number (String.ofList written))
  else none

end Numeral

def takeDigits (s : List Char) : List Char :=
  s.takeWhile Text.isDigit

def fraction? (s : List Char) : Option (Option (List Char) × Nat) :=
  match s with
  | '.' :: s =>
    match takeDigits s with
    | [] => none
    | ds => some (some ds, ds.length + 1)
  | _ => some (none, 0)

def exponent? (s : List Char) : Option (Option Int × Nat) :=
  match s with
  | [] => some (none, 0)
  | e :: s =>
    if e = 'e' ∨ e = 'E' then
      let (sign, signLength, s) : Int × Nat × List Char :=
        match s with
        | '+' :: s => (1, 1, s)
        | '-' :: s => (-1, 1, s)
        | _ => (1, 0, s)
      match takeDigits s with
      | [] => none
      | ds => some (some (sign * digitsValue ds), ds.length + signLength + 1)
    else some (none, 0)

/-- The number at the head of the text. A number starts with `-` or a digit, and a leading zero
stands alone. -/
def number? (s : List Char) : Option (Json × List Char) := do
  let negative := s.head? == some '-'
  let body := if negative then s.drop 1 else s
  let whole := if body.head? == some '0' then ['0'] else takeDigits body
  if whole.isEmpty then none
  let (fraction, n) ← fraction? (body.drop whole.length)
  let (exponent, m) ← exponent? (body.drop (whole.length + n))
  let length := (if negative then 1 else 0) + whole.length + n + m
  let value ← Numeral.toJson? ⟨negative, whole, fraction, exponent⟩ (s.take length)
  return (value, s.drop length)

/-! ## Values -/

structure Reader where
  run : List Char → Option (Json × List Char)
  shorter : ∀ {s v r}, run s = some (v, r) → r.length < s.length

def consuming (s : List Char) (result : Option (Json × List Char)) : Option (Json × List Char) :=
  result.filter fun r => r.2.length < s.length

theorem shorter_of_consuming {s r : List Char} {v : Json} {result : Option (Json × List Char)}
    (h : consuming s result = some (v, r)) : r.length < s.length := by
  simpa using (Option.filter_eq_some_iff.1 h).2

def items? (sub : Reader) (s : List Char) : Option (List Json × List Char) :=
  match h : sub.run (skipSpace s) with
  | none => none
  | some (v, r) =>
    match h' : skipSpace r with
    | ',' :: r' =>
      have : r'.length < s.length := by
        have h₁ := sub.shorter h
        have h₂ := length_skipSpace_le s
        have h₃ := length_skipSpace_le r
        rw [h', List.length_cons] at h₃
        omega
      (items? sub r').map fun (vs, r'') => (v :: vs, r'')
    | ']' :: r' => some ([v], r')
    | _ => none
termination_by s.length

def key? (s : List Char) : Option (String × List Char) :=
  match skipSpace s with
  | '"' :: s =>
    (stringBody? s).bind fun (key, r) =>
      match skipSpace r with
      | ':' :: r => some (String.ofList key, r)
      | _ => none
  | _ => none

def members? (sub : Reader) (s : List Char) : Option (List (String × Json) × List Char) :=
  match (key? s).filter fun k => k.2.length < s.length with
  | none => none
  | some (key, r) =>
    match sub.run (skipSpace r) with
    | none => none
    | some (v, r) =>
      match skipSpace r with
      | ',' :: r' =>
        if r'.length < s.length then
          (members? sub r').map fun (ms, r'') => ((key, v) :: ms, r'')
        else none
      | '\x7d' :: r' => some ([(key, v)], r')
      | _ => none
termination_by s.length

def dropWord? (word : String) (s : List Char) : Option (List Char) :=
  if word.toList.isPrefixOf s then some (s.drop word.length) else none

def value? (sub : Reader) (s : List Char) : Option (Json × List Char) :=
  match s with
  | [] => none
  | 'n' :: _ => (dropWord? "null" s).map (.null, ·)
  | 't' :: _ => (dropWord? "true" s).map (.bool true, ·)
  | 'f' :: _ => (dropWord? "false" s).map (.bool false, ·)
  | '"' :: s => (stringBody? s).map fun (t, r) => (.string (String.ofList t), r)
  | '[' :: s =>
    match skipSpace s with
    | ']' :: r => some (.array [], r)
    | s => (items? sub s).map fun (vs, r) => (.array vs, r)
  | '\x7b' :: s =>
    match skipSpace s with
    | '\x7d' :: r => some (.object [], r)
    | s => (members? sub s).map fun (ms, r) => (.object ms, r)
  | _ => number? s

def scalar? (s : List Char) : Option (Json × List Char) :=
  match s with
  | '[' :: _ | '\x7b' :: _ => none
  | _ => value? ⟨fun _ => none, by simp⟩ s

def reader : Nat → Reader
  | 0 => ⟨fun s => consuming s (scalar? s), shorter_of_consuming⟩
  | depth + 1 => ⟨fun s => consuming s (value? (reader depth) s), shorter_of_consuming⟩

def parse? (text : List Char) : Option Json :=
  match (reader maxDepth).run (skipSpace text) with
  | some (v, r) => if (skipSpace r).isEmpty then some v else none
  | none => none

end RSource.Json
