import RSource.Builder.Argument
import RSource.Builder.Statement
import RSource.Grammar.Parse

/-! # Filling expressions

The arena of a token sequence holds the statements, and last their program. -/

namespace RSource.Builder

open Grammar

variable (eof : Nat) (sub : Filler)

/-! ## Bracketed forms and reserved words -/

def condition : Step (Bool × List Nat) := do
  let e ← optional sub 0 .bracket
  let (closed, errors) ← expectCloser eof .closeParen
  return (closed, e ++ errors)

def condition? : Step (Bool × List Nat) := do
  if ← isAt .openParen then
    advance
    condition eof sub
  else return (true, [])

def parenthesized (opener : Lexeme) : Step Nat := do
  let (closed, children) ← condition eof sub
  finish eof .parenthesized opener.span.start closed children

def block (opener : Lexeme) : Step Nat := do
  let children ← statements eof sub .brace (some .closeBrace)
  let closed ← isAt .closeBrace
  advanceIf closed
  finish eof .block opener.span.start closed children

def functionParts (context : Context) : Step (List Nat) := do
  match ← rest with
  | [] => return []
  | x :: _ =>
    if x.kind = .openParen then
      advance
      let formals ← argumentList eof sub .closeParen x
      if ← isClosedList formals then return formals :: (← optional sub bodyPower context)
      else return [formals]
    else return []

def functionDefinition (context : Context) (word : Lexeme) : Step Nat := do
  let children ← functionParts eof sub context
  let stop ← lastStopD children word.span.stop
  alloc .functionDefinition ⟨word.span.start, stop⟩ children

def branches (context : Context) : Step (List Nat) := do
  match ← sub.run bodyPower context with
  | none => return []
  | some consequence =>
    if (← rest).head?.any fun x => x.isWord "else" && (!x.newlineBefore || context != .top) then
      advance
      return consequence :: (← optional sub bodyPower context)
    else return [consequence]

def ifExpression (context : Context) (word : Lexeme) : Step Nat := do
  let (closed, head) ← condition? eof sub
  if closed then finish eof .ifExpression word.span.start true (head ++ (← branches sub context))
  else finish eof .ifExpression word.span.start false head

def loopBody (context : Context) (word : Lexeme) (closed : Bool) (head : List Nat) : Step Nat := do
  if closed then
    finish eof .loopExpression word.span.start true (head ++ (← optional sub bodyPower context))
  else finish eof .loopExpression word.span.start false head

def loopVariable : Step (List Nat) := do
  match (← rest).head?.filter fun x => x.kind == .identifier with
  | none => return []
  | some x =>
    advance
    return [← leaf .identifier x]

def forLoop (context : Context) (word : Lexeme) : Step Nat := do
  if ← isAt .openParen then
    advance
    let name ← loopVariable
    advanceIf ((← rest).head?.any (Lexeme.isWord · "in"))
    let (closed, head) ← condition eof sub
    loopBody eof sub context word closed (name ++ head)
  else finish eof .loopExpression word.span.start true []

def whileLoop (context : Context) (word : Lexeme) : Step Nat := do
  let (closed, head) ← condition? eof sub
  loopBody eof sub context word closed head

def repeatLoop (context : Context) (word : Lexeme) : Step Nat :=
  loopBody eof sub context word true []

/-- Takes the lexeme an expression starts with. -/
def behind (m : Step Nat) : Step (Option Nat) := do
  advance
  return some (← m)

def wordExpression (context : Context) (x : Lexeme) : Step (Option Nat) :=
  match x.text with
  | "function" => behind (functionDefinition eof sub context x)
  | "if" => behind (ifExpression eof sub context x)
  | "for" => behind (forLoop eof sub context x)
  | "while" => behind (whileLoop eof sub context x)
  | "repeat" => behind (repeatLoop eof sub context x)
  | "else" | "in" => pure none
  | "next" | "break" => behind (leaf .identifier x)
  | _ => behind (leaf .literal x)

def unary (context : Context) (x : Lexeme) (power : Nat) : Step Nat := do
  let operand ← optional sub power context
  let stop ← lastStopD operand x.span.stop
  alloc (.unary x.span) ⟨x.span.start, stop⟩ operand

def operatorExpression (context : Context) (x : Lexeme) : Step (Option Nat) :=
  if x.text = "\\" then behind (functionDefinition eof sub context x)
  else
    match unaryPower? x.text with
    | none => pure none
    | some power => behind (unary sub context x power)

/-- The expression that starts with the next lexeme `x`, before calls, indexing and operators. -/
def operand (context : Context) (x : Lexeme) : Step (Option Nat) :=
  match x.kind with
  | .identifier => behind (leaf .identifier x)
  | .number | .string => behind (leaf .literal x)
  | .keyword => wordExpression eof sub context x
  | .openParen => behind (parenthesized eof sub x)
  | .openBrace => behind (block eof sub x)
  | .operator => operatorExpression eof sub context x
  | _ => pure none

/-! ## Calls, indexing and binary operators -/

def call (callee : Nat) (opener : Lexeme) : Step Nat := do
  let list ← argumentList eof sub .closeParen opener
  alloc .call ((← spanOf callee).cover (← spanOf list)) [callee, list]

def binary (context : Context) (left : Nat) (x : Lexeme) (power : Nat) : Step Nat := do
  let right ← optional sub power context
  let stop ← lastStopD right x.span.stop
  alloc (.binary x.span) ⟨(← spanOf left).start, stop⟩ (left :: right)

/-- The step that extends the expression `left` behind the lexeme `x`, if one does. -/
def extension? (power : Nat) (context : Context) (left : Nat) (x : Lexeme) : Option (Step Nat) :=
  if x.newlineBefore && context.endsAtNewline then none
  else if x.kind = .openParen ∧ power ≤ postfixPower then some (call eof sub left x)
  else if x.kind = .openBracket ∧ power ≤ postfixPower then some (index eof sub left x)
  else (binaryAt? power x).map (binary sub context left x)

def extend (power : Nat) (context : Context) (left : Nat) (b : Builder) : Nat × b.Ahead :=
  match hs : b.place.rest with
  | [] => (left, .refl b)
  | x :: _ =>
    match extension? eof sub power context left x with
    | none => (left, .refl b)
    | some m =>
      let b₁ := (advance b).2
      let r := m b₁.1
      have : r.2.1.remaining < b.remaining := Nat.lt_of_le_of_lt r.2.2 (remaining_advance_lt hs)
      let more := extend power context r.1 r.2.1
      (more.1, b₁.trans (r.2.trans more.2))
termination_by b.remaining

/-! ## Progress -/

variable {b : Builder} {context : Context} {x : Lexeme} {xs : List Lexeme}

theorem takes_behind (m : Step Nat) (h : b.place.rest = x :: xs) : (behind m).Takes b :=
  Nat.lt_of_le_of_lt (m (advance b).2.1).2.2 (remaining_advance_lt h)

theorem takes_none : (pure none : Step (Option Nat)).Takes b :=
  rfl

theorem takes_wordExpression (h : b.place.rest = x :: xs) :
    (wordExpression eof sub context x).Takes b := by
  unfold wordExpression
  split
  case h_6 | h_7 => exact takes_none
  all_goals exact takes_behind _ h

theorem takes_operatorExpression (h : b.place.rest = x :: xs) :
    (operatorExpression eof sub context x).Takes b := by
  unfold operatorExpression
  split
  · exact takes_behind _ h
  · split
    · exact takes_none
    · exact takes_behind _ h

theorem takes_operand (h : b.place.rest = x :: xs) : (operand eof sub context x).Takes b := by
  unfold operand
  split
  case h_4 => exact takes_wordExpression eof sub h
  case h_7 => exact takes_operatorExpression eof sub h
  case h_8 => exact takes_none
  all_goals exact takes_behind _ h

def extendIf (power : Nat) (context : Context) : Option Nat → Step (Option Nat)
  | none => pure none
  | some left => do return some (← extend eof sub power context left)

def expression (power : Nat) (context : Context) : Step (Option Nat) := do
  match ← rest with
  | [] => return none
  | x :: _ => extendIf eof sub power context (← operand eof sub context x)

theorem takes_expression (power : Nat) (context : Context) (b : Builder) :
    (expression eof sub power context).Takes b := by
  have hstep : (expression eof sub power context).Takes b ↔ (match b.place.rest with
    | [] => pure none
    | x :: _ => operand eof sub context x >>= extendIf eof sub power context : Step _).Takes b := .rfl
  rw [hstep]
  split
  · exact takes_none
  · rename_i x xs h
    have htook : Took (operand eof sub context x b) := takes_operand eof sub h
    show Took ((_, Ahead.trans (operand eof sub context x b).2 _) : Option Nat × b.Ahead)
    generalize operand eof sub context x b = r at *
    obtain ⟨left | left, b', hb'⟩ := r
    · exact htook
    · exact Nat.lt_of_le_of_lt (extend eof sub power context left b').2.2 htook

/-! ## The whole text -/

/-- All that is left as one error. -/
def bailOut : Step (Option Nat) := do
  match ← rest with
  | [] => return none
  | x :: _ => behind do
    takeAll
    alloc (.error true) ⟨x.span.start, eof⟩ []

theorem takes_bailOut (b : Builder) : (bailOut eof).Takes b := by
  have hstep : (bailOut eof).Takes b ↔ (match b.place.rest with
    | [] => pure none
    | x :: _ => behind do
      takeAll
      alloc (.error true) ⟨x.span.start, eof⟩ [] : Step _).Takes b := .rfl
  rw [hstep]
  split
  · exact takes_none
  · exact takes_behind _ ‹_›

def filler : Nat → Filler
  | 0 => ⟨fun _ _ => bailOut eof, fun _ _ => takes_bailOut eof⟩
  | levels + 1 => ⟨expression eof (filler levels), takes_expression eof (filler levels)⟩

def program : Step Nat := do
  let children ← statements eof (filler eof maxNesting) .top none
  alloc .program ⟨0, eof⟩ children

/-- The arena of a token sequence over `source`. -/
def fill (source : Text) (tokens : List Token) : Arena :=
  let r := program source.byteLength ⟨⟨lexemes source tokens, 0⟩, #[]⟩
  ⟨r.2.1.cells, r.1⟩

end RSource.Builder
