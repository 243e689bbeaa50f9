import RSource.Grammar.Parse

/-!
# Reading one lexeme after the other

What the readers do at the next lexeme, as equations: for the loops over slots, statements and operators one
step each, for the other readers the parts they are put together from.
-/

namespace RSource.Grammar

variable {eof : Nat} {s s' : Cursor} {x : Lexeme} {xs : List Lexeme} {t : Tree} {sub : Reader} {context : Context}
  {closer : Token.Kind} {closer? : Option Token.Kind} {stops : Lexeme → Bool}

namespace Cursor

theorem advance_of_cons (hs : s.rest = x :: xs) : s.advance = ⟨xs, x.span.stop⟩ := by
  rw [advance, hs]

theorem advance_of_nil (hs : s.rest = []) : s.advance = s := by
  rw [advance, hs]

theorem rest_of_head?_filter {p : Lexeme → Bool} (h : s.rest.head?.filter p = some x) :
    ∃ xs, s.rest = x :: xs ∧ p x = true := by
  obtain ⟨hhead, hx⟩ := Option.filter_eq_some_iff.1 h
  obtain ⟨xs, hxs⟩ := List.head?_eq_some_iff.1 hhead
  exact ⟨xs, hxs, hx⟩

end Cursor

/-! ### Recovery -/

/-- A bracket that is still open was not closed before the end. -/
theorem depth_skipLoop_of_rest {depth last : Nat} (h : (skipLoop stops depth last xs).2.rest ≠ []) :
    (skipLoop stops depth last xs).1 = 0 := by
  induction xs generalizing depth last with
  | nil => exact absurd rfl h
  | cons x xs ih =>
    rw [skipLoop] at h ⊢
    split
    · next hstop => exact hstop.1
    · next hgo => exact ih (by rwa [if_neg hgo] at h)

/-! ### Arguments and indexing -/

def isNamed : List Lexeme → Bool
  | x :: equals :: _ => x.canName && equals.isOperator "="
  | _ => false

theorem isNamed_cons (x : Lexeme) (xs : List Lexeme) :
    isNamed (x :: xs) = (x.canName && xs.head?.any (Lexeme.isOperator · "=")) := by
  cases xs with
  | nil => simp [isNamed]
  | cons y ys => rfl

theorem exists_of_isNamed (h : isNamed s.rest = true) :
    ∃ x equals xs, s.rest = x :: equals :: xs ∧ x.canName = true ∧ equals.isOperator "=" = true := by
  rcases hrest : s.rest with _ | ⟨x, _ | ⟨equals, xs⟩⟩
  · simp [isNamed, hrest] at h
  · simp [isNamed, hrest] at h
  · rw [hrest] at h
    exact ⟨x, equals, xs, rfl, Bool.and_eq_true_iff.1 h⟩

theorem argument_of_not_named (h : isNamed s.rest = false) (sub : Reader) :
    argument sub s = (sub.run argumentPower .bracket s).map fun r =>
      (.node (.argument false) r.1.span [r.1], r.2) := by
  unfold argument
  split
  · next x equals rest hs =>
    rw [hs] at h
    rw [if_neg (by simpa [isNamed] using h)]
  · rfl

theorem argument_of_named {equals : Lexeme} (hs : s.rest = x :: equals :: xs)
    (h : isNamed s.rest = true) (sub : Reader) :
    argument sub s = some
      (.node (.argument true)
        ⟨x.span.start, lastStopD (optional sub argumentPower .bracket ⟨xs, equals.span.stop⟩).1
          equals.span.stop⟩
        (x.leaf (if x.kind = .identifier then .identifier else .literal)
          :: (optional sub argumentPower .bracket ⟨xs, equals.span.stop⟩).1),
        (optional sub argumentPower .bracket ⟨xs, equals.span.stop⟩).2) := by
  rw [hs] at h
  simp only [isNamed] at h
  simp only [argument, hs, h, if_true]

theorem slots_of_nil {eof start : Nat} (h : (slot eof sub closer s).2.rest = []) :
    slots eof sub closer start s =
      (⟨(slot eof sub closer s).1.toList, [], false⟩, (slot eof sub closer s).2) := by
  rw [slots]
  split
  · rfl
  · next hr => rw [h] at hr; cases hr

theorem slots_of_cons {eof start : Nat} (h : (slot eof sub closer s).2.rest = x :: xs) :
    slots eof sub closer start s =
      if x.kind = closer then (⟨(slot eof sub closer s).1.toList, [], true⟩, ⟨xs, x.span.stop⟩)
      else
        let r := slots eof sub closer x.span.stop ⟨xs, x.span.stop⟩
        (⟨(slot eof sub closer s).1.getD (.leaf (.argument false) ⟨start, x.span.start⟩) :: r.1.arguments,
          x.span.start :: r.1.separators, r.1.closed⟩, r.2) := by
  rw [slots]
  split
  · next hr => rw [h] at hr; cases hr
  · next y ys hr =>
    rw [h] at hr
    obtain ⟨rfl, rfl⟩ := List.cons.inj hr
    rfl

/-- The bracket right behind the opener of an index. -/
def innerBracket? (opener : Lexeme) (s : Cursor) : Option Lexeme :=
  s.rest.head?.filter fun y => y.kind == .openBracket && y.span.start == opener.span.stop

/-- The index expression of an object and its list, with the second closing bracket of a double one. -/
def closeIndex (eof : Nat) (object : Tree) (double : Bool) (r : Tree × Cursor) : Tree × Cursor :=
  let closed := isClosedList r.1
  let paired := double && closed && r.2.rest.head?.any fun y =>
    y.kind == .closeBracket && y.span.start == r.2.lastStop
  let s' := if paired then r.2.advance else r.2
  (.node (.index double) ⟨object.span.start, if closed then s'.lastStop else eof⟩ [object, r.1], s')

theorem index_eq (eof : Nat) (sub : Reader) (object : Tree) (opener : Lexeme) (s : Cursor) :
    index eof sub object opener s = closeIndex eof object (innerBracket? opener s).isSome
      (match innerBracket? opener s with
        | some y => argumentList eof sub .closeBracket y s.advance
        | none => argumentList eof sub .closeBracket opener s) :=
  rfl

/-! ### Statements -/

theorem statements_of_nil {eof : Nat} (h : s.rest = []) :
    statements eof sub context closer? s = ([], s) := by
  rw [statements]
  split
  · rfl
  · next hs => rw [h] at hs; cases hs

/-- The statements behind one that has been read. -/
def following (eof : Nat) (sub : Reader) (context : Context) (closer? : Option Token.Kind)
    (statement : Tree) (s : Cursor) : List Tree × Cursor :=
  match s.rest with
  | [] => ([statement], s)
  | y :: ys =>
    if endsStatement closer? y then
      (statement :: (statements eof sub context closer? s).1, (statements eof sub context closer? s).2)
    else
      let r := skip eof (endsStatement closer?) y ys
      (statement :: r.1 :: (statements eof sub context closer? r.2).1,
        (statements eof sub context closer? r.2).2)

theorem statements_of_cons {eof : Nat} (h : s.rest = x :: xs) :
    statements eof sub context closer? s =
      if closer? = some x.kind then ([], s)
      else if x.isOperator ";" then statements eof sub context closer? ⟨xs, x.span.stop⟩
      else if x.kind.isCloser then
        (x.leaf (.error false) :: (statements eof sub context closer? ⟨xs, x.span.stop⟩).1,
          (statements eof sub context closer? ⟨xs, x.span.stop⟩).2)
      else
        match sub.run 0 context s with
        | none =>
          let r := skip eof (endsStatement closer?) x xs
          (r.1 :: (statements eof sub context closer? r.2).1, (statements eof sub context closer? r.2).2)
        | some (e, s') =>
          following eof sub context closer? (.node .expressionStatement e.span [e]) s' := by
  rw [statements]
  split
  · next hs => rw [h] at hs; cases hs
  · next y ys hs =>
    rw [h] at hs
    obtain ⟨rfl, rfl⟩ := List.cons.inj hs
    split
    · rfl
    split
    · rfl
    split
    · rfl
    split
    · next hr => rw [hr]
    · next e s' hr =>
      simp only [hr, following]
      split
      · next hnil => simp only [hnil]
      · next hcons => simp only [hcons]

theorem statements_of_none {eof : Nat} (h : s.rest = x :: xs) (hcloser : closer? ≠ some x.kind)
    (hsemi : ¬ x.isOperator ";" = true) (hstray : ¬ x.kind.isCloser = true)
    (hrun : sub.run 0 context s = none) :
    statements eof sub context closer? s =
      ((skip eof (endsStatement closer?) x xs).1 ::
          (statements eof sub context closer? (skip eof (endsStatement closer?) x xs).2).1,
        (statements eof sub context closer? (skip eof (endsStatement closer?) x xs).2).2) := by
  rw [statements_of_cons h, if_neg hcloser, if_neg hsemi, if_neg hstray, hrun]

theorem statements_of_some {eof : Nat} {e : Tree} {s' : Cursor} (h : s.rest = x :: xs)
    (hcloser : closer? ≠ some x.kind) (hsemi : ¬ x.isOperator ";" = true)
    (hstray : ¬ x.kind.isCloser = true) (hrun : sub.run 0 context s = some (e, s')) :
    statements eof sub context closer? s =
      following eof sub context closer? (.node .expressionStatement e.span [e]) s' := by
  rw [statements_of_cons h, if_neg hcloser, if_neg hsemi, if_neg hstray, hrun]

/-- Statements end at their closer or at the end of the text. -/
theorem rest_statements (eof : Nat) (sub : Reader) (context : Context) (closer? : Option Token.Kind)
    (s : Cursor) : (statements eof sub context closer? s).2.rest = [] ∨
      ∃ x xs, (statements eof sub context closer? s).2.rest = x :: xs ∧ closer? = some x.kind := by
  fun_induction statements eof sub context closer? s with
  | case1 s hrest => exact .inl hrest
  | case2 s x xs hrest hx hcloser => exact .inr ⟨x, xs, hrest, hcloser⟩
  | case3 s x xs hrest hx hcloser hsemi ih => exact ih
  | case4 s x xs hrest hx hcloser hsemi hstray ts s' hst ih =>
    rw [hst] at ih
    exact ih
  | case5 s x xs hrest hx hcloser hsemi hstray he r hlt ts s' hst ih =>
    rw [hst] at ih
    exact ih
  | case6 s x xs hrest hx hcloser hsemi hstray e after he hlt statement ha => exact .inl ha
  | case7 s x xs hrest hx hcloser hsemi hstray e after he hlt statement y ys ha hy ts s' hst ih =>
    rw [hst] at ih
    exact ih
  | case8 s x xs hrest hx hcloser hsemi hstray e after he hlt statement y ys ha hy r hr ts s' hst ih =>
    rw [hst] at ih
    exact ih

/-! ### Reserved words -/

/-- The formals and the body of a function definition. -/
def functionParts (eof : Nat) (sub : Reader) (context : Context) (s : Cursor) : List Tree × Cursor :=
  match s.rest with
  | [] => ([], s)
  | x :: xs =>
    if x.kind = .openParen then
      let r := argumentList eof sub .closeParen x ⟨xs, x.span.stop⟩
      if isClosedList r.1 then
        (r.1 :: (optional sub bodyPower context r.2).1, (optional sub bodyPower context r.2).2)
      else ([r.1], r.2)
    else ([], s)

theorem functionDefinition_eq (eof : Nat) (sub : Reader) (context : Context) (word : Lexeme) (s : Cursor) :
    functionDefinition eof sub context word s =
      (.node .functionDefinition
        ⟨word.span.start, lastStopD (functionParts eof sub context s).1 word.span.stop⟩
        (functionParts eof sub context s).1, (functionParts eof sub context s).2) :=
  rfl

theorem functionParts_of_ne {eof : Nat} (h : s.isAt .openParen = false) :
    functionParts eof sub context s = ([], s) := by
  unfold functionParts
  split
  · rfl
  · next x xs hs =>
    have hx : ¬ x.kind = .openParen := by simpa [Cursor.isAt, hs] using h
    rw [if_neg hx]

/-- The next lexeme is an `else` that belongs to the consequence before it. -/
def isElse (context : Context) (s : Cursor) : Bool :=
  s.rest.head?.any fun x => x.isWord "else" && (!x.newlineBefore || context != .top)

/-- The consequence and the alternative of a conditional behind its condition. -/
def branches (sub : Reader) (context : Context) (s : Cursor) : List Tree × Cursor :=
  match sub.run bodyPower context s with
  | none => ([], s)
  | some (t, s₁) =>
    if isElse context s₁ then
      (t :: (optional sub bodyPower context s₁.advance).1, (optional sub bodyPower context s₁.advance).2)
    else ([t], s₁)

theorem ifExpression_eq (eof : Nat) (sub : Reader) (context : Context) (word : Lexeme) (s : Cursor) :
    ifExpression eof sub context word s =
      let r := condition? eof sub s
      if r.1 then
        (finish eof .ifExpression word.span.start true (r.2.1 ++ (branches sub context r.2.2).1)
          (branches sub context r.2.2).2, (branches sub context r.2.2).2)
      else (finish eof .ifExpression word.span.start false r.2.1 r.2.2, r.2.2) := by
  unfold ifExpression branches
  dsimp only
  split
  · cases sub.run bodyPower context (condition? eof sub s).2.2 with
    | none => simp
    | some r =>
      dsimp only
      unfold isElse
      split <;> rfl
  · rfl

theorem loopBody_of_closed (eof : Nat) (sub : Reader) (context : Context) (word : Lexeme) (ts : List Tree)
    (s : Cursor) : loopBody eof sub context word true ts s =
      (finish eof .loopExpression word.span.start true (ts ++ (optional sub bodyPower context s).1)
        (optional sub bodyPower context s).2, (optional sub bodyPower context s).2) :=
  rfl

/-- The place behind the next lexeme, if it is the reserved word `in`. -/
def skipIn (s : Cursor) : Cursor :=
  if s.rest.head?.any (Lexeme.isWord · "in") then s.advance else s

/-- The variable of a `for` loop, if the next lexeme is one, and the place behind it. -/
def loopVariable (s : Cursor) : Option Lexeme × Cursor :=
  let name := s.rest.head?.filter fun x => x.kind == .identifier
  (name, if name.isSome then s.advance else s)

theorem forLoop_eq (eof : Nat) (sub : Reader) (context : Context) (word : Lexeme) (s : Cursor) :
    forLoop eof sub context word s =
      if s.isAt .openParen then
        let v := loopVariable s.advance
        let r := condition eof sub (skipIn v.2)
        loopBody eof sub context word r.1 ((v.1.map (·.leaf .identifier)).toList ++ r.2.1) r.2.2
      else (finish eof .loopExpression word.span.start true [] s, s) :=
  rfl

/-! ### Operators -/

variable {left : Tree} {power : Nat}

theorem extend_of_nil {eof : Nat} (h : s.rest = []) :
    extend eof sub power context left s = (left, s) := by
  rw [extend]
  split
  · rfl
  · next hs => rw [h] at hs; cases hs

theorem extend_of_cons {eof : Nat} (h : s.rest = x :: xs) :
    extend eof sub power context left s =
      if x.newlineBefore && context.endsAtNewline then (left, s)
      else if x.kind = .openParen ∧ power ≤ postfixPower then
        let r := argumentList eof sub .closeParen x ⟨xs, x.span.stop⟩
        extend eof sub power context (.node .call (left.span.cover r.1.span) [left, r.1]) r.2
      else if x.kind = .openBracket ∧ power ≤ postfixPower then
        let r := index eof sub left x ⟨xs, x.span.stop⟩
        extend eof sub power context r.1 r.2
      else
        match binaryAt? power x with
        | none => (left, s)
        | some right =>
          let r := optional sub right context ⟨xs, x.span.stop⟩
          extend eof sub power context
            (.node (.binary x.span) ⟨left.span.start, lastStopD r.1 x.span.stop⟩ (left :: r.1)) r.2 := by
  rw [extend]
  split
  · next hs => rw [h] at hs; cases hs
  · next y ys hs =>
    rw [h] at hs
    obtain ⟨rfl, rfl⟩ := List.cons.inj hs
    rfl

def Lexeme.IsBarrier (x : Lexeme) : Prop :=
  (x.kind = .operator ∧ x.text = ";") ∨ x.kind = .comma ∨ x.kind = .closeParen

theorem isBarrier_of_mem_nil : ∀ y ∈ ([] : List Lexeme).head?, y.IsBarrier :=
  nofun

theorem isBarrier_of_endsSlot (h : endsSlot .closeParen x = true) : ∀ y ∈ (x :: xs).head?, y.IsBarrier := by
  rintro _ ⟨⟩
  exact .inr (by simpa [endsSlot] using h)

theorem beq_kind_of_barrier {k : Token.Kind} (hx : x.IsBarrier)
    (hk : k ≠ .operator ∧ k ≠ .comma ∧ k ≠ .closeParen) : (x.kind == k) = false := by
  rw [beq_eq_false_iff_ne]
  rcases hx with ⟨hx, -⟩ | hx | hx
  · exact fun h => hk.1 (h.symm.trans hx)
  · exact fun h => hk.2.1 (h.symm.trans hx)
  · exact fun h => hk.2.2 (h.symm.trans hx)

theorem binaryAt?_of_barrier (hx : x.IsBarrier) : binaryAt? power x = none := by
  have hpower : binaryPower? ";" = none := by decide
  rcases hx with ⟨hkind, htext⟩ | hkind | hkind
  · simp [binaryAt?, hkind, htext, hpower]
  · simp [binaryAt?, hkind]
  · simp [binaryAt?, hkind]

theorem extend_of_barrier {eof : Nat} (h : ∀ y ∈ s.rest.head?, y.IsBarrier) :
    extend eof sub power context left s = (left, s) := by
  cases hrest : s.rest with
  | nil => exact extend_of_nil hrest
  | cons y ys =>
    have hy : y.IsBarrier := h y (by rw [hrest]; rfl)
    rw [extend_of_cons hrest, binaryAt?_of_barrier hy]
    rcases hy with ⟨hkind, -⟩ | hkind | hkind <;> simp [hkind]

theorem expression_of_cons {eof : Nat} (hrest : s.rest = x :: xs) :
    expression eof sub power context s = (operand eof sub context x ⟨xs, x.span.stop⟩).map fun r =>
      extend eof sub power context r.1 r.2 := by
  rw [expression, hrest]

theorem expression_of_barrier {eof : Nat} (h : ∀ y ∈ s.rest.head?, y.IsBarrier) :
    expression eof sub power context s = none := by
  cases hrest : s.rest with
  | nil => rw [expression, hrest]
  | cons y ys =>
    have hpower : unaryPower? ";" = none := by decide
    rw [expression_of_cons hrest]
    rcases h y (by rw [hrest]; rfl) with ⟨hkind, htext⟩ | hkind | hkind
    · simp [operand, operatorExpression, hkind, htext, hpower]
    · simp [operand, hkind]
    · simp [operand, hkind]

end RSource.Grammar
