/-! # Numbers with a fixed number of decimals

A quotient written with a given number of decimals; a half at the cut goes to the even digit. -/

namespace RSource.Decimal

/-- The quotient rounded to the nearest integer, a half to the even one. -/
def roundDiv (num den : Nat) : Nat :=
  let q := num / den
  let r := num % den
  if 2 * r < den ∨ (2 * r = den ∧ q % 2 = 0) then q else q + 1

def padZeros (width : Nat) (s : String) : String :=
  String.ofList (List.replicate (width - s.length) '0') ++ s

def fixed (places num den : Nat) : String :=
  let unit := Nat.pow 10 places
  let n := roundDiv (num * unit) den
  let whole := toString (n / unit)
  if places = 0 then whole
  else whole ++ "." ++ padZeros places (toString (n % unit))

end RSource.Decimal
