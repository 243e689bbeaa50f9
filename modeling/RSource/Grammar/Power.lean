/-! # Binding powers

How tightly the operators bind. A binary operator has a left and a right power: it takes a left
side when its left power reaches the power that is asked for, and reads its right side with its
right power. The right power is the lower one for operators that group to the right. -/

namespace RSource.Grammar

/-- The power with which an argument is read: below `=` and `?` nothing is taken. -/
def argumentPower : Nat := 5

/-- The power with which the body of a function, condition or loop is read: assignments belong to
it. -/
def bodyPower : Nat := 3

/-- The power of calls and indexing, above every operator but `$`, `@` and `::`. -/
def postfixPower : Nat := 40

def isPercentOperator (op : String) : Bool :=
  2 ≤ op.utf8ByteSize && op.toList.head? == some '%' && op.toList.getLast? == some '%'

def binaryPower? (op : String) : Option (Nat × Nat) :=
  match op with
  | "?" => some (1, 2)
  | "=" => some (4, 3)
  | "<-" | "<<-" => some (6, 5)
  | "->" | "->>" => some (7, 8)
  | "~" => some (9, 10)
  | "||" | "|" => some (11, 12)
  | "&&" | "&" => some (13, 14)
  | "==" | "!=" | "<" | ">" | "<=" | ">=" => some (17, 18)
  | "+" | "-" => some (19, 20)
  | "*" | "/" => some (21, 22)
  | "|>" => some (23, 24)
  | ":" => some (25, 26)
  | "^" | "**" => some (30, 29)
  | "$" | "@" => some (41, 42)
  | "::" | ":::" => some (43, 44)
  | _ => if isPercentOperator op then some (23, 24) else none

def unaryPower? (op : String) : Option Nat :=
  match op with
  | "-" | "+" => some 27
  | "!" => some 15
  | "~" => some 10
  | "?" => some 2
  | _ => none

end RSource.Grammar
