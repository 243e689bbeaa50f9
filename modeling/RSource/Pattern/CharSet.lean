import RSource.Unicode.RangeTable

/-! # Sets of characters

A set of characters is a table of code point ranges that rise and neither meet nor touch, so that a
set has one form only. Union sorts and joins the ranges of both sides, and the complement is made of
the gaps between them; the other operations come down to these two. -/

namespace RSource.Pattern

abbrev CharSet := Unicode.RangeTable

namespace CharSet

def lastCode : Nat := 0x10FFFF

def empty : CharSet := ⟨[]⟩

def all : CharSet := ⟨[(0, lastCode)]⟩

def range (lo hi : Nat) : CharSet := ⟨[(lo, hi)]⟩

def single (c : Char) : CharSet := range c.toNat c.toNat

/-- Joins the range from `lo` to `hi` with those behind it that it meets or touches. The ranges
behind it rise by their lower ends, and none of these lies below `lo`. -/
def joinFrom (lo hi : Nat) : List (Nat × Nat) → List (Nat × Nat)
  | [] => [(lo, hi)]
  | (lo', hi') :: rest =>
    if lo' ≤ hi + 1 then joinFrom lo (max hi hi') rest
    else (lo, hi) :: joinFrom lo' hi' rest

def ofRanges (ranges : List (Nat × Nat)) : CharSet :=
  match ranges.mergeSort fun a b => a.1 ≤ b.1 with
  | [] => empty
  | (lo, hi) :: rest => ⟨joinFrom lo hi rest⟩

def ofCodes (codes : List Nat) : CharSet :=
  ofRanges (codes.map fun n => (n, n))

def union (a b : CharSet) : CharSet :=
  ofRanges (a.ranges ++ b.ranges)

def unions (sets : List CharSet) : CharSet :=
  ofRanges (sets.flatMap (·.ranges))

def gapsFrom (start : Nat) : List (Nat × Nat) → List (Nat × Nat)
  | [] => if start ≤ lastCode then [(start, lastCode)] else []
  | (lo, hi) :: rest =>
    if start < lo then (start, lo - 1) :: gapsFrom (hi + 1) rest else gapsFrom (hi + 1) rest

def compl (a : CharSet) : CharSet :=
  ⟨gapsFrom 0 a.ranges⟩

def inter (a b : CharSet) : CharSet :=
  (a.compl.union b.compl).compl

def diff (a b : CharSet) : CharSet :=
  a.inter b.compl

def symmDiff (a b : CharSet) : CharSet :=
  (a.union b).diff (a.inter b)

def single? (a : CharSet) : Option Char :=
  match a.ranges with
  | [(lo, hi)] => if lo = hi then some (Char.ofNat lo) else none
  | _ => none

def isAscii (a : CharSet) : Bool :=
  a.ranges.all fun r => r.2 < 128

end CharSet

end RSource.Pattern
