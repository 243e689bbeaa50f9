import RSource.Decimal.Fixed

/-! # Binary numbers of 53 digits

The non-negative numbers `mantissa · 2 ^ exponent` with a mantissa below `2 ^ 53`, with sums,
products and quotients rounded to the nearest such number, a half to the even mantissa. This is
64-bit floating-point arithmetic away from its least and greatest numbers. -/

namespace RSource.Decimal

/-- The number `mantissa · 2 ^ exponent`. -/
structure Binary64 where
  mantissa : Nat
  exponent : Int
  deriving DecidableEq, Repr, Inhabited

namespace Binary64

def ratio (x : Binary64) : Nat × Nat :=
  (x.mantissa * Nat.pow 2 x.exponent.toNat, Nat.pow 2 (-x.exponent).toNat)

def scaled (num den : Nat) (exponent : Int) : Nat × Nat :=
  (num * Nat.pow 2 (-exponent).toNat, den * Nat.pow 2 exponent.toNat)

def ofRatio (num den : Nat) : Binary64 :=
  if num = 0 then ⟨0, 0⟩
  else
    let guess : Int := (num.log2 : Int) - den.log2 - 52
    let (n, d) := scaled num den guess
    let exponent := if n / d < Nat.pow 2 52 then guess - 1 else guess
    let (n, d) := scaled num den exponent
    ⟨roundDiv n d, exponent⟩

def ofNat (n : Nat) : Binary64 :=
  ofRatio n 1

def add (x y : Binary64) : Binary64 :=
  let (a, b) := x.ratio
  let (c, d) := y.ratio
  ofRatio (a * d + c * b) (b * d)

def mul (x y : Binary64) : Binary64 :=
  let (a, b) := x.ratio
  let (c, d) := y.ratio
  ofRatio (a * c) (b * d)

def div (x y : Binary64) : Binary64 :=
  let (a, b) := x.ratio
  let (c, d) := y.ratio
  ofRatio (a * d) (b * c)

/-- The number lies below `2 ^ 1024`, so that it is a 64-bit floating-point number. -/
def isFinite (x : Binary64) : Bool :=
  x.ratio.1 < Nat.pow 2 1024 * x.ratio.2

def fixed (places : Nat) (x : Binary64) : String :=
  let (num, den) := x.ratio
  Decimal.fixed places num den

end Binary64

end RSource.Decimal
