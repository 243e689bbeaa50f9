import RSource.Builder
import RSource.Grammar.Argument

/-! # Filling argument lists -/

namespace RSource.Builder

open Grammar

variable (eof : Nat) (sub : Filler)

def positional : Step (Option Nat) := do
  match ← sub.run argumentPower .bracket with
  | none => return none
  | some value => return some (← alloc (.argument false) (← spanOf value) [value])

def argument : Step (Option Nat) := do
  match ← rest with
  | x :: equals :: _ =>
    if x.canName && equals.isOperator "=" then
      advance
      let name ← leaf (if x.kind = .identifier then .identifier else .literal) x
      advance
      let value ← optional sub argumentPower .bracket
      let stop ← lastStopD value equals.span.stop
      return some (← alloc (.argument true) ⟨x.span.start, stop⟩ (name :: value))
    else positional sub
  | _ => positional sub

/-- What stands behind the argument `a` up to the next comma or closer is adopted by it. -/
def adoptRest (closer : Token.Kind) (a : Nat) : Step Unit := do
  match ← rest with
  | [] => return
  | y :: _ =>
    if endsSlot closer y then return
    else adopt a (← skip eof (endsSlot closer))

def slot (closer : Token.Kind) : Step (Option Nat) := do
  match ← rest with
  | [] => return none
  | x :: _ =>
    if endsSlot closer x then return none
    else
      match ← argument sub with
      | none =>
        let e ← skip eof (endsSlot closer)
        return some (← alloc (.argument false) (← spanOf e) [e])
      | some a =>
        adoptRest eof closer a
        return some a

structure Slots where
  arguments : List Nat
  separators : List Nat
  closed : Bool

/-- The comma behind a slot, and the argument in it: one without a value where there is none. -/
def comma (slot? : Option Nat) (start : Nat) (x : Lexeme) : Step Nat := do
  advance
  match slot? with
  | some a => return a
  | none => alloc (.argument false) ⟨start, x.span.start⟩ []

theorem remaining_comma_lt {slot? : Option Nat} {start : Nat} {x : Lexeme} {xs : List Lexeme}
    {b : Builder} (h : b.place.rest = x :: xs) :
    (comma slot? start x b).2.1.remaining < b.remaining := by
  cases slot? with
  | none => exact remaining_advance_lt h
  | some _ => exact remaining_advance_lt h

def slots (closer : Token.Kind) (start : Nat) (b : Builder) : Slots × b.Ahead :=
  let r := slot eof sub closer b
  match hr : r.2.1.place.rest with
  | [] => (⟨r.1.toList, [], false⟩, r.2)
  | x :: xs =>
    if x.kind = closer then (⟨r.1.toList, [], true⟩, r.2.trans (advance r.2.1).2)
    else
      let first := comma r.1 start x r.2.1
      have : first.2.1.remaining < b.remaining :=
        Nat.lt_of_lt_of_le (remaining_comma_lt hr) r.2.2
      let more := slots closer x.span.stop first.2.1
      (⟨first.1 :: more.1.arguments, x.span.start :: more.1.separators, more.1.closed⟩,
        r.2.trans (first.2.trans more.2))
termination_by b.remaining

def argumentList (closer : Token.Kind) (opener : Lexeme) : Step Nat := do
  let c ← slots eof sub closer opener.span.stop
  let stop ← lastStop
  alloc (.argumentList c.closed c.separators) ⟨opener.span.start, if c.closed then stop else eof⟩
    c.arguments

def isClosedListAt (cells : Array Cell) (i : Nat) : Bool :=
  cells[i]?.any fun c =>
    match c.kind with
    | .argumentList closed _ => closed
    | _ => false

def isClosedList (i : Nat) : Step Bool :=
  look fun b => isClosedListAt b.cells i

def innerBracket? (opener : Lexeme) (rest : List Lexeme) : Option Lexeme :=
  rest.head?.filter fun y => y.kind == .openBracket && y.span.start == opener.span.stop

/-- The index expression of an object and its list. Two closing brackets are a double one only when they
touch. -/
def closeIndex (object : Nat) (double : Bool) (list : Nat) : Step Nat := do
  let closed ← isClosedList list
  let listStop ← lastStop
  let paired := (← rest).head?.any fun y => y.kind == .closeBracket && y.span.start == listStop
  advanceIf (double && closed && paired)
  let stop ← lastStop
  alloc (.index double) ⟨(← spanOf object).start, if closed then stop else eof⟩ [object, list]

/-- Behind the first bracket of `object[...]` or `object[[...]]`. -/
def index (object : Nat) (opener : Lexeme) : Step Nat := do
  match innerBracket? opener (← rest) with
  | some y =>
    advance
    closeIndex eof object true (← argumentList eof sub .closeBracket y)
  | none => closeIndex eof object false (← argumentList eof sub .closeBracket opener)

end RSource.Builder
