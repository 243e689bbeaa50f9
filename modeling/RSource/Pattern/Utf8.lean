import RSource.Pattern.CharSet

/-! # Sets of characters in bytes

A set of characters as the byte sequences of its UTF-8 form. A range of code points is cut into
pieces such that the characters of a piece are exactly those whose bytes lie, place by place, in the
ranges between the bytes of its ends. -/

namespace RSource.Pattern.Utf8

abbrev ByteRange := Nat × Nat

def encode (n : Nat) : List Nat :=
  if n < 0x80 then [n]
  else if n < 0x800 then [0xC0 + n / 64, 0x80 + n % 64]
  else if n < 0x10000 then [0xE0 + n / 4096, 0x80 + n / 64 % 64, 0x80 + n % 64]
  else [0xF0 + n / 262144, 0x80 + n / 4096 % 64, 0x80 + n / 64 % 64, 0x80 + n % 64]

def lengthBounds : List Nat := [0x7F, 0x7FF, 0xFFFF]

def blocks : List Nat := [64, 4096, 262144]

def blockCut? (lo hi : Nat) : List Nat → Option Nat
  | [] => none
  | b :: bs =>
    if lo / b = hi / b then blockCut? lo hi bs
    else if lo % b ≠ 0 then some ((lo / b + 1) * b - 1)
    else if hi % b ≠ b - 1 then some (hi / b * b - 1)
    else blockCut? lo hi bs

def cut? (lo hi : Nat) : Option Nat :=
  match lengthBounds.find? fun m => lo ≤ m && m < hi with
  | some m => some m
  | none => if hi < 0x80 then none else blockCut? lo hi blocks

/-- The pieces of a range without surrogates. Ten cuts in a row are enough: two for each block and
one for each change of length, and one to spare. -/
def pieces : Nat → Nat → Nat → List (Nat × Nat)
  | 0, lo, hi => [(lo, hi)]
  | fuel + 1, lo, hi =>
    match cut? lo hi with
    | some m => pieces fuel lo m ++ pieces fuel (m + 1) hi
    | none => [(lo, hi)]

def withoutSurrogates (lo hi : Nat) : List (Nat × Nat) :=
  [(lo, min hi 0xD7FF), (max lo 0xE000, hi)].filter fun r => r.1 ≤ r.2

def sequences (a : CharSet) : List (List ByteRange) :=
  ((a.ranges.flatMap fun (lo, hi) => withoutSurrogates lo hi).flatMap fun (lo, hi) =>
    pieces 10 lo hi).map fun (lo, hi) => (encode lo).zip (encode hi)

def byFirst : List (List ByteRange) → List (ByteRange × List (List ByteRange))
  | [] => []
  | [] :: rest => byFirst rest
  | (r :: tail) :: rest =>
    match byFirst rest with
    | (r', tails) :: groups =>
      if r = r' then (r, tail :: tails) :: groups else (r, [tail]) :: (r', tails) :: groups
    | [] => [(r, [tail])]

/-- The number of ranges when sequences with the same beginning share it. -/
def sharedRanges : Nat → List (List ByteRange) → Nat
  | 0, _ => 0
  | depth + 1, seqs =>
    (byFirst seqs).foldl (fun n (_, tails) => n + 1 + sharedRanges depth tails) 0

/-- What can follow after each range, through `depth` bytes: the stages of reading a sequence. A
stage is given by the sequences that are left, and the end is no stage. -/
def stages : Nat → List (List ByteRange) → List (List (List ByteRange))
  | 0, _ => []
  | depth + 1, seqs =>
    if seqs = [[]] then []
    else seqs :: (byFirst seqs).flatMap fun (_, tails) => stages depth tails

def distinctStages (a : CharSet) : List (List (List ByteRange)) :=
  (stages 4 (sequences a)).eraseDups

end RSource.Pattern.Utf8
