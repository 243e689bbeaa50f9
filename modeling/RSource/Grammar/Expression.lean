import RSource.Grammar.Argument
import RSource.Grammar.Statement

/-! # Expressions

An expression is an operand followed by calls, indexings and binary operators, as far as they bind
tightly enough. -/

namespace RSource.Grammar

variable (eof : Nat) (sub : Reader)

/-! ## Bracketed forms and reserved words -/

def condition (s : Cursor) : Bool × List Tree × Cursor :=
  let (e, s₁) := optional sub 0 .bracket s
  let (closed, errors, s₂) := expectCloser eof .closeParen s₁
  (closed, e ++ errors, s₂)

theorem remaining_condition_le (s : Cursor) :
    (condition eof sub s).2.2.remaining ≤ s.remaining :=
  Nat.le_trans (remaining_expectCloser_le ..) (remaining_optional_le ..)

def condition? (s : Cursor) : Bool × List Tree × Cursor :=
  if s.isAt .openParen then condition eof sub s.advance else (true, [], s)

theorem remaining_condition?_le (s : Cursor) :
    (condition? eof sub s).2.2.remaining ≤ s.remaining := by
  unfold condition?
  split
  · exact Nat.le_trans (remaining_condition_le ..) s.remaining_advance_le
  · exact Nat.le_refl _

def parenthesized (opener : Lexeme) (s : Cursor) : Tree × Cursor :=
  let (closed, children, s') := condition eof sub s
  (finish eof .parenthesized opener.span.start closed children s', s')

def block (opener : Lexeme) (s : Cursor) : Tree × Cursor :=
  let (children, s₁) := statements eof sub .brace (some .closeBrace) s
  let closed := s₁.isAt .closeBrace
  let s₂ := if closed then s₁.advance else s₁
  (finish eof .block opener.span.start closed children s₂, s₂)

def functionDefinition (context : Context) (word : Lexeme) (s : Cursor) : Tree × Cursor :=
  let (children, s') :=
    match s.rest with
    | [] => ([], s)
    | x :: xs =>
      if x.kind = .openParen then
        let (formals, s₁) := argumentList eof sub .closeParen x ⟨xs, x.span.stop⟩
        if isClosedList formals then
          let (body, s₂) := optional sub bodyPower context s₁
          (formals :: body, s₂)
        else ([formals], s₁)
      else ([], s)
  (.node .functionDefinition ⟨word.span.start, lastStopD children word.span.stop⟩ children, s')

/-- A conditional behind its `if`. At the top level an `else` must stand on the line where the
consequence ends. -/
def ifExpression (context : Context) (word : Lexeme) (s : Cursor) : Tree × Cursor :=
  let (closed, head, s₁) := condition? eof sub s
  if closed then
    let (children, s') :=
      match sub.run bodyPower context s₁ with
      | none => (head, s₁)
      | some (consequence, s₂) =>
        if s₂.rest.head?.any fun x =>
            x.isWord "else" && (!x.newlineBefore || context != .top) then
          let (alternative, s₃) := optional sub bodyPower context s₂.advance
          (head ++ consequence :: alternative, s₃)
        else (head ++ [consequence], s₂)
    (finish eof .ifExpression word.span.start true children s', s')
  else (finish eof .ifExpression word.span.start false head s₁, s₁)

def loopBody (context : Context) (word : Lexeme) (closed : Bool) (head : List Tree) (s : Cursor) :
    Tree × Cursor :=
  if closed then
    let (body, s') := optional sub bodyPower context s
    (finish eof .loopExpression word.span.start true (head ++ body) s', s')
  else (finish eof .loopExpression word.span.start false head s, s)

def forLoop (context : Context) (word : Lexeme) (s : Cursor) : Tree × Cursor :=
  if s.isAt .openParen then
    let s₁ := s.advance
    let name := s₁.rest.head?.filter fun x => x.kind == .identifier
    let s₂ := if name.isSome then s₁.advance else s₁
    let s₃ := if s₂.rest.head?.any (Lexeme.isWord · "in") then s₂.advance else s₂
    let (closed, head, s₄) := condition eof sub s₃
    loopBody eof sub context word closed ((name.map (·.leaf .identifier)).toList ++ head) s₄
  else (finish eof .loopExpression word.span.start true [] s, s)

def whileLoop (context : Context) (word : Lexeme) (s : Cursor) : Tree × Cursor :=
  let (closed, head, s') := condition? eof sub s
  loopBody eof sub context word closed head s'

def repeatLoop (context : Context) (word : Lexeme) (s : Cursor) : Tree × Cursor :=
  loopBody eof sub context word true [] s

def wordExpression (context : Context) (x : Lexeme) (s : Cursor) : Option (Tree × Cursor) :=
  match x.text with
  | "function" => some (functionDefinition eof sub context x s)
  | "if" => some (ifExpression eof sub context x s)
  | "for" => some (forLoop eof sub context x s)
  | "while" => some (whileLoop eof sub context x s)
  | "repeat" => some (repeatLoop eof sub context x s)
  | "else" | "in" => none
  | "next" | "break" => some (x.leaf .identifier, s)
  | _ => some (x.leaf .literal, s)

def operatorExpression (context : Context) (x : Lexeme) (s : Cursor) : Option (Tree × Cursor) :=
  if x.text = "\\" then some (functionDefinition eof sub context x s)
  else (unaryPower? x.text).map fun power =>
    let (operand, s') := optional sub power context s
    (.node (.unary x.span) ⟨x.span.start, lastStopD operand x.span.stop⟩ operand, s')

/-- The expression that starts with `x`, before calls, indexing and binary operators. `s` is the
place behind `x`. -/
def operand (context : Context) (x : Lexeme) (s : Cursor) : Option (Tree × Cursor) :=
  match x.kind with
  | .identifier => some (x.leaf .identifier, s)
  | .number | .string => some (x.leaf .literal, s)
  | .keyword => wordExpression eof sub context x s
  | .openParen => some (parenthesized eof sub x s)
  | .openBrace => some (block eof sub x s)
  | .operator => operatorExpression eof sub context x s
  | _ => none

/-! ## Calls, indexing and binary operators -/

/-- The binary operator at the lexeme with its powers, if it binds at least as tightly as
`power`. -/
def binaryAt? (power : Nat) (x : Lexeme) : Option Nat :=
  if x.kind = .operator then
    (binaryPower? x.text).bind fun (left, right) => if power ≤ left then some right else none
  else none

/-- Extends the expression `left` by the calls, indexings and binary operators that follow it and
bind at least as tightly as `power`. -/
def extend (power : Nat) (context : Context) (left : Tree) (s : Cursor) : Tree × Cursor :=
  match hs : s.rest with
  | [] => (left, s)
  | x :: xs =>
    have hx : xs.length < s.remaining := by simp [Cursor.remaining, hs]
    let s₁ : Cursor := ⟨xs, x.span.stop⟩
    if x.newlineBefore && context.endsAtNewline then (left, s)
    else if x.kind = .openParen ∧ power ≤ postfixPower then
      let r := argumentList eof sub .closeParen x s₁
      have : r.2.remaining < s.remaining := Nat.lt_of_le_of_lt (remaining_argumentList_le ..) hx
      extend power context (.node .call (left.span.cover r.1.span) [left, r.1]) r.2
    else if x.kind = .openBracket ∧ power ≤ postfixPower then
      let r := index eof sub left x s₁
      have : r.2.remaining < s.remaining := Nat.lt_of_le_of_lt (remaining_index_le ..) hx
      extend power context r.1 r.2
    else
      match binaryAt? power x with
      | none => (left, s)
      | some right =>
        let r := optional sub right context s₁
        have : r.2.remaining < s.remaining := Nat.lt_of_le_of_lt (remaining_optional_le ..) hx
        extend power context
          (.node (.binary x.span) ⟨left.span.start, lastStopD r.1 x.span.stop⟩ (left :: r.1)) r.2
termination_by s.remaining

def expression (power : Nat) (context : Context) (s : Cursor) : Option (Tree × Cursor) :=
  match s.rest with
  | [] => none
  | x :: xs =>
    (operand eof sub context x ⟨xs, x.span.stop⟩).map fun (left, s') =>
      extend eof sub power context left s'

/-! ## Progress -/

theorem remaining_extend_le (power : Nat) (context : Context) (left : Tree) (s : Cursor) :
    (extend eof sub power context left s).2.remaining ≤ s.remaining := by
  fun_induction extend eof sub power context left s with
  | case1 => exact Nat.le_refl _
  | case2 => exact Nat.le_refl _
  | case3 => exact Nat.le_trans (by assumption) (Nat.le_of_lt (by assumption))
  | case4 => exact Nat.le_trans (by assumption) (Nat.le_of_lt (by assumption))
  | case5 => exact Nat.le_refl _
  | case6 => exact Nat.le_trans (by assumption) (Nat.le_of_lt (by assumption))

theorem remaining_block_le (opener : Lexeme) (s : Cursor) :
    (block eof sub opener s).2.remaining ≤ s.remaining := by
  have h := remaining_statements_le eof sub .brace (some .closeBrace) s
  unfold block
  dsimp only
  split
  · exact Nat.le_trans (Cursor.remaining_advance_le _) h
  · exact h

theorem remaining_functionDefinition_le (context : Context) (word : Lexeme) (s : Cursor) :
    (functionDefinition eof sub context word s).2.remaining ≤ s.remaining := by
  unfold functionDefinition
  dsimp only
  split
  · exact Nat.le_refl _
  · rename_i x xs hs
    have hx : xs.length ≤ s.remaining := by simp [Cursor.remaining, hs]
    have hl := remaining_argumentList_le eof sub .closeParen x ⟨xs, x.span.stop⟩
    split
    · split
      · exact Nat.le_trans (remaining_optional_le ..) (Nat.le_trans hl hx)
      · exact Nat.le_trans hl hx
    · exact Nat.le_refl _

theorem remaining_ifExpression_le (context : Context) (word : Lexeme) (s : Cursor) :
    (ifExpression eof sub context word s).2.remaining ≤ s.remaining := by
  have hc := remaining_condition?_le eof sub s
  unfold ifExpression
  dsimp only
  split
  · dsimp only
    split
    · exact hc
    · rename_i t s₂ hr
      have h₂ := Nat.le_trans (Nat.le_of_lt (sub.shorter hr)) hc
      split
      · exact Nat.le_trans (remaining_optional_le ..)
          (Nat.le_trans (Cursor.remaining_advance_le _) h₂)
      · exact h₂
  · exact hc

theorem remaining_loopBody_le (context : Context) (word : Lexeme) (closed : Bool)
    (head : List Tree) (s : Cursor) :
    (loopBody eof sub context word closed head s).2.remaining ≤ s.remaining := by
  unfold loopBody
  split
  · exact remaining_optional_le ..
  · exact Nat.le_refl _

theorem remaining_forLoop_le (context : Context) (word : Lexeme) (s : Cursor) :
    (forLoop eof sub context word s).2.remaining ≤ s.remaining := by
  unfold forLoop
  split
  · dsimp only
    refine Nat.le_trans (remaining_loopBody_le ..) (Nat.le_trans (remaining_condition_le ..) ?_)
    have hadv : ∀ (b : Bool) (u : Cursor),
        (if b then u.advance else u).remaining ≤ u.remaining := by
      intro b u
      cases b
      · exact Nat.le_refl _
      · exact u.remaining_advance_le
    exact Nat.le_trans (hadv _ _) (Nat.le_trans (hadv _ _) s.remaining_advance_le)
  · exact Nat.le_refl _

theorem remaining_wordExpression_le {context : Context} {x : Lexeme} {s s' : Cursor} {t : Tree}
    (h : wordExpression eof sub context x s = some (t, s')) : s'.remaining ≤ s.remaining := by
  unfold wordExpression at h
  split at h <;> simp only [Option.some.injEq, reduceCtorEq] at h
  · exact remaining_le_of_eq h (remaining_functionDefinition_le ..)
  · exact remaining_le_of_eq h (remaining_ifExpression_le ..)
  · exact remaining_le_of_eq h (remaining_forLoop_le ..)
  · exact remaining_le_of_eq h
      (Nat.le_trans (remaining_loopBody_le ..) (remaining_condition?_le ..))
  · exact remaining_le_of_eq h (remaining_loopBody_le ..)
  · exact remaining_le_of_eq h (Nat.le_refl _)
  · exact remaining_le_of_eq h (Nat.le_refl _)
  · exact remaining_le_of_eq h (Nat.le_refl _)

theorem remaining_operatorExpression_le {context : Context} {x : Lexeme} {s s' : Cursor} {t : Tree}
    (h : operatorExpression eof sub context x s = some (t, s')) : s'.remaining ≤ s.remaining := by
  unfold operatorExpression at h
  split at h
  · exact remaining_le_of_eq (Option.some.inj h) (remaining_functionDefinition_le ..)
  · obtain ⟨p, -, he⟩ := Option.map_eq_some_iff.1 h
    exact remaining_le_of_eq he (remaining_optional_le ..)

theorem remaining_operand_le {context : Context} {x : Lexeme} {s s' : Cursor} {t : Tree}
    (h : operand eof sub context x s = some (t, s')) : s'.remaining ≤ s.remaining := by
  unfold operand at h
  split at h
  · exact remaining_le_of_eq (Option.some.inj h) (Nat.le_refl _)
  · exact remaining_le_of_eq (Option.some.inj h) (Nat.le_refl _)
  · exact remaining_le_of_eq (Option.some.inj h) (Nat.le_refl _)
  · exact remaining_wordExpression_le eof sub h
  · exact remaining_le_of_eq (Option.some.inj h) (remaining_condition_le ..)
  · exact remaining_le_of_eq (Option.some.inj h) (remaining_block_le ..)
  · exact remaining_operatorExpression_le eof sub h
  · cases h

theorem remaining_expression_lt {power : Nat} {context : Context} {s s' : Cursor} {t : Tree}
    (h : expression eof sub power context s = some (t, s')) : s'.remaining < s.remaining := by
  unfold expression at h
  split at h
  · cases h
  · rename_i x xs hs
    obtain ⟨⟨left, s₁⟩, ho, he⟩ := Option.map_eq_some_iff.1 h
    have h₁ := remaining_operand_le eof sub ho
    have h₂ := remaining_extend_le eof sub power context left s₁
    rw [show extend eof sub power context left s₁ = (t, s') from he] at h₂
    simp only [Cursor.remaining, hs, List.length_cons] at *
    omega

end RSource.Grammar
