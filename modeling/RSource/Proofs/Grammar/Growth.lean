import RSource.Proofs.Grammar.Form

/-!
# Expressions have the known forms

Operands yield their children, and the expression grows from its operand step by step until the next lexeme
does not extend it (`grown_extend`). So all readers yield what they read and stop where nothing goes on
(`run_cases`, `yielding_reader`), and every node of the tree of a token sequence has one of the forms
(`form_of_mem_build`).
-/

namespace RSource.Grammar
open RSource.Tree Cursor

variable {eof : Nat} {all : List Lexeme} {s s' : Cursor} {x : Lexeme} {xs : List Lexeme} {t left : Tree}
  {ts : List Tree} {context : Context} {n power : Nat} {closed : Bool}

/-! ### Bracketed forms and reserved words -/

theorem children_finish (eof : Nat) (k : Tree.Kind) (start : Nat) (closed : Bool) (ts : List Tree)
    (s : Cursor) : (finish eof k start closed ts s).children = ts := by
  cases closed <;> rfl

theorem yields_condition {sub : Reader} (hsub : sub.Yielding eof all) (hs : s.PlaceOf all) :
    Yields eof all (condition eof sub s).2.1 (condition eof sub s).2.2 := by
  have hexpression := yields_optional hsub hs 0 .bracket
  exact hexpression.append (yields_expectCloser hexpression.place)

theorem yields_condition? {sub : Reader} (hsub : sub.Yielding eof all) (hs : s.PlaceOf all) :
    Yields eof all (condition? eof sub s).2.1 (condition? eof sub s).2.2 := by
  unfold condition?
  split
  · exact yields_condition hsub hs.advance
  · exact .nil hs

theorem yields_parenthesized {sub : Reader} (hsub : sub.Yielding eof all) (hs : s.PlaceOf all) :
    Yields eof all (parenthesized eof sub x s).1.children (parenthesized eof sub x s).2 := by
  unfold parenthesized
  rw [children_finish]
  exact yields_condition hsub hs

theorem yields_block {sub : Reader} (hsub : sub.Yielding eof all) (hs : s.PlaceOf all) :
    Yields eof all (block eof sub x s).1.children (block eof sub x s).2 := by
  have hstatements := yields_statements hsub hs .brace (some .closeBrace)
  unfold block
  rw [children_finish]
  exact ⟨hstatements.place.advanceIf _, hstatements.forms⟩

theorem yields_functionDefinition (hsub : (reader eof n).Yielding eof all) (hs : s.PlaceOf all) :
    Yields eof all (functionDefinition eof (reader eof n) context x s).1.children
      (functionDefinition eof (reader eof n) context x s).2 := by
  unfold functionDefinition
  dsimp only [Tree.children]
  split
  · exact .nil hs
  · rename_i y ys hrest
    split
    · rename_i hy
      have hformals := yields_argumentList hsub hs hrest (.inl ⟨hy, rfl⟩)
      split
      · exact hformals.append (yields_optional hsub hformals.place bodyPower context)
      · exact hformals
    · exact .nil hs

theorem yields_ifExpression {sub : Reader} (hsub : sub.Yielding eof all) (hs : s.PlaceOf all) :
    Yields eof all (ifExpression eof sub context x s).1.children (ifExpression eof sub context x s).2 := by
  have hhead := yields_condition? hsub hs
  unfold ifExpression
  dsimp only
  split
  · rw [children_finish]
    dsimp only
    split
    · exact hhead
    · rename_i consequence s₂ hrun
      have hconsequence := hhead.append (hsub hhead.place hrun)
      split
      · have halternative := yields_optional hsub hconsequence.place.advance bodyPower context
        have hall := hconsequence.append halternative
        rw [List.append_assoc] at hall
        exact hall
      · exact hconsequence
  · rw [children_finish]
    exact hhead

theorem yields_loopBody {sub : Reader} (hsub : sub.Yielding eof all) (hhead : Yields eof all ts s) :
    Yields eof all (loopBody eof sub context x closed ts s).1.children
      (loopBody eof sub context x closed ts s).2 := by
  unfold loopBody
  split
  · rw [children_finish]
    exact hhead.append (yields_optional hsub hhead.place bodyPower context)
  · rw [children_finish]
    exact hhead

theorem yields_forLoop {sub : Reader} (hsub : sub.Yielding eof all) (hs : s.PlaceOf all) :
    Yields eof all (forLoop eof sub context x s).1.children (forLoop eof sub context x s).2 := by
  unfold forLoop
  split
  · dsimp only
    -- the name, if there is one, stands behind the opener
    have hname : Yields eof all
        (((s.advance.rest.head?.filter fun x => x.kind == .identifier).map (·.leaf .identifier)).toList)
        (if (s.advance.rest.head?.filter fun x => x.kind == .identifier).isSome then s.advance.advance
          else s.advance) := by
      cases hfilter : s.advance.rest.head?.filter fun x => x.kind == .identifier with
      | none => exact .nil hs.advance
      | some y =>
        obtain ⟨ys, hys, -⟩ := rest_of_head?_filter hfilter
        have hleaf : Yields eof all [y.leaf .identifier] ⟨ys, y.span.stop⟩ :=
          yields_leaf hs.advance hys (.inl rfl)
        simpa [advance_of_cons hys] using hleaf
    exact yields_loopBody hsub (hname.append (yields_condition hsub (hname.place.advanceIf _)))
  · rw [children_finish]
    exact .nil hs

theorem yields_whileLoop {sub : Reader} (hsub : sub.Yielding eof all) (hs : s.PlaceOf all) :
    Yields eof all (whileLoop eof sub context x s).1.children (whileLoop eof sub context x s).2 :=
  yields_loopBody hsub (yields_condition? hsub hs)

/-! ### Operands -/

theorem Yields.of_eq {r : Tree × Cursor} (hr : Yields eof all r.1.children r.2) (h : r = (t, s)) :
    Yields eof all t.children s := by
  subst h
  exact hr

theorem yields_wordExpression (hsub : (reader eof n).Yielding eof all) (hs : s.PlaceOf all)
    (h : wordExpression eof (reader eof n) context x s = some (t, s')) : Yields eof all t.children s' := by
  unfold wordExpression at h
  split at h <;> simp only [Option.some.injEq, reduceCtorEq] at h
  · exact (yields_functionDefinition hsub hs).of_eq h
  · exact (yields_ifExpression hsub hs).of_eq h
  · exact (yields_forLoop hsub hs).of_eq h
  · exact (yields_whileLoop hsub hs).of_eq h
  · exact (yields_loopBody hsub (.nil hs)).of_eq h
  · exact Yields.of_eq (.nil hs) h
  · exact Yields.of_eq (.nil hs) h
  · exact Yields.of_eq (.nil hs) h

theorem yields_operatorExpression (hsub : (reader eof n).Yielding eof all) (hs : s.PlaceOf all)
    (h : operatorExpression eof (reader eof n) context x s = some (t, s')) :
    Yields eof all t.children s' := by
  unfold operatorExpression at h
  split at h
  · exact (yields_functionDefinition hsub hs).of_eq (Option.some.inj h)
  · obtain ⟨p, -, heq⟩ := Option.map_eq_some_iff.1 h
    obtain ⟨rfl, rfl⟩ := Prod.mk.inj heq
    exact yields_optional hsub hs p context

theorem yields_operand (hsub : (reader eof n).Yielding eof all) (hs : s.PlaceOf all)
    (h : operand eof (reader eof n) context x s = some (t, s')) : Yields eof all t.children s' := by
  unfold operand at h
  split at h
  · exact Yields.of_eq (.nil hs) (Option.some.inj h)
  · exact Yields.of_eq (.nil hs) (Option.some.inj h)
  · exact Yields.of_eq (.nil hs) (Option.some.inj h)
  · exact yields_wordExpression hsub hs h
  · exact (yields_parenthesized hsub hs).of_eq (Option.some.inj h)
  · exact (yields_block hsub hs).of_eq (Option.some.inj h)
  · exact yields_operatorExpression hsub hs h
  · cases h

/-- The kinds of operands without an operator in front. -/
def isPlain : Tree.Kind → Bool
  | .identifier | .literal | .parenthesized | .block | .functionDefinition | .ifExpression
  | .loopExpression | .error _ => true
  | _ => false

theorem isPlain_finish (k : Tree.Kind) {start : Nat} {closed : Bool} {ts : List Tree}
    (hk : isPlain k = true) : isPlain (finish eof k start closed ts s).kind = true := by
  cases closed with
  | false => rfl
  | true => exact hk

theorem isPlain_loopBody {sub : Reader} {closed : Bool} {ts : List Tree} :
    isPlain (loopBody eof sub context x closed ts s).1.kind = true := by
  unfold loopBody
  split <;> rfl

theorem isPlain_wordExpression {sub : Reader}
    (h : wordExpression eof sub context x s = some (t, s')) : isPlain t.kind = true := by
  have hkind : ∀ {r : Tree × Cursor}, isPlain r.1.kind = true → r = (t, s') → isPlain t.kind = true := by
    rintro r hr rfl
    exact hr
  unfold wordExpression at h
  split at h <;> simp only [Option.some.injEq, reduceCtorEq] at h
  · exact hkind rfl h
  · refine hkind ?_ h
    unfold ifExpression
    dsimp only
    split <;> rfl
  · refine hkind ?_ h
    unfold forLoop
    split
    · exact isPlain_loopBody
    · rfl
  · exact hkind isPlain_loopBody h
  · exact hkind isPlain_loopBody h
  · exact hkind rfl h
  · exact hkind rfl h
  · exact hkind rfl h

/-- An operand is plain, or it is an operator in front of what is read with its power. -/
theorem operand_cases {sub : Reader} (h : operand eof sub context x s = some (t, s')) :
    isPlain t.kind = true ∨ ∃ q, unaryPower? x.text = some q ∧ t.kind = .unary x.span ∧
      t.children = (optional sub q context s).1 ∧ s' = (optional sub q context s).2 := by
  unfold operand at h
  split at h
  · cases h
    exact .inl rfl
  · cases h
    exact .inl rfl
  · cases h
    exact .inl rfl
  · exact .inl (isPlain_wordExpression h)
  · cases h
    exact .inl (isPlain_finish .parenthesized rfl)
  · cases h
    exact .inl (isPlain_finish .block rfl)
  · unfold operatorExpression at h
    split at h
    · cases h
      exact .inl rfl
    · obtain ⟨q, hq, heq⟩ := Option.map_eq_some_iff.1 h
      obtain ⟨rfl, rfl⟩ := Prod.mk.inj heq
      exact .inr ⟨q, hq, rfl, rfl, rfl⟩
  · cases h

/-! ### Growth -/

/-- An expression that is read with the power `power` ends here. -/
def Cursor.Stops (power : Nat) (context : Context) (s : Cursor) : Prop :=
  ∀ x ∈ s.rest.head?, goesOn power context x = false

theorem Grown.yields (hsub : (reader eof n).Yielding eof all)
    (h : Grown eof all (reader eof n) power context t s) : Yields eof all [t] s := by
  have hform : Form eof all t := .expression h
  refine Yields.node ?_ hform
  clear hform
  induction h with
  | operand hs hrest h => exact yields_operand hsub (hs.next hrest) h
  | call h hrest hx hkind ih =>
    have hlist := yields_argumentList hsub ih.place hrest (.inl ⟨hkind, rfl⟩)
    exact (ih.node (.expression h)).append hlist
  | index h hrest hx hkind ih => exact yields_index hsub ih.place hrest hkind (ih.node (.expression h))
  | binary h hrest hx hright ih =>
    exact (ih.node (.expression h)).append (yields_optional hsub (ih.place.next hrest) _ context)

/-- Extending an expression is growing it until nothing goes on. -/
theorem grown_extend {sub : Reader} (h : Grown eof all sub power context left s) :
    Grown eof all sub power context (extend eof sub power context left s).1
        (extend eof sub power context left s).2 ∧
      (extend eof sub power context left s).2.Stops power context := by
  fun_induction extend eof sub power context left s with
  | case1 left s hrest =>
    refine ⟨h, fun x hx => ?_⟩
    rw [hrest] at hx
    cases hx
  | case2 left s x xs hrest _ hline =>
    refine ⟨h, fun y hy => ?_⟩
    rw [hrest] at hy
    obtain rfl : x = y := Option.some.inj hy
    simp [goesOn, hline]
  | case3 left s x xs hrest _ s₁ hline hx r _ ih =>
    refine ih (.call h hrest ?_ hx.1)
    simp [goesOn, hline, hx.1, hx.2]
  | case4 left s x xs hrest _ s₁ hline _ hx r _ ih =>
    refine ih (.index h hrest ?_ hx.1)
    simp [goesOn, hline, hx.1, hx.2]
  | case5 left s x xs hrest _ hline hparen hbracket hnone =>
    refine ⟨h, fun y hy => ?_⟩
    rw [hrest] at hy
    obtain rfl : x = y := Option.some.inj hy
    simp only [goesOn, hnone, Bool.and_eq_false_iff, Bool.or_eq_false_iff]
    refine .inr ⟨?_, rfl⟩
    simp only [beq_eq_false_iff_ne, decide_eq_false_iff_not]
    by_cases hpower : power ≤ postfixPower
    · exact .inl ⟨fun hk => hparen ⟨hk, hpower⟩, fun hk => hbracket ⟨hk, hpower⟩⟩
    · exact .inr hpower
  | case6 left s x xs hrest _ s₁ hline _ _ right hright r _ ih =>
    refine ih (.binary h hrest ?_ hright)
    simp [goesOn, hline, hright]

/-! ### Readers -/

theorem placeOf_getLast (h : Cursor.PlaceOf all ⟨xs, x.span.stop⟩) :
    Cursor.PlaceOf all ⟨[], (xs.getLast?.getD x).span.stop⟩ := by
  induction xs generalizing x with
  | nil => exact h
  | cons y ys ih =>
    have hlast : ((y :: ys).getLast?.getD x).span.stop = (ys.getLast?.getD y).span.stop := by
      rw [List.getLast?_cons, Option.getD_some]
    rw [hlast]
    exact ih (h.next rfl)

/-- What a reader reads: all that is left as an error at the deepest level, else an expression that has
grown until nothing goes on. -/
theorem run_cases (hs : s.PlaceOf all) (h : (reader eof n).run power context s = some (t, s')) :
    (∃ start, t = errorTree eof start eof true ∧ s'.rest = [] ∧ s'.PlaceOf all) ∨
      ∃ m, n = m + 1 ∧ Grown eof all (reader eof m) power context t s' ∧ s'.Stops power context := by
  cases n with
  | zero =>
    have h : bailOut eof s = some (t, s') := h
    unfold bailOut at h
    split at h
    · cases h
    · rename_i x xs hrest
      obtain ⟨rfl, rfl⟩ := Prod.mk.inj (Option.some.inj h)
      exact .inl ⟨_, rfl, rfl, placeOf_getLast (hs.next hrest)⟩
  | succ m =>
    have h : expression eof (reader eof m) power context s = some (t, s') := h
    unfold expression at h
    split at h
    · cases h
    · rename_i x xs hrest
      obtain ⟨⟨left, s₁⟩, hoperand, hextend⟩ := Option.map_eq_some_iff.1 h
      have hleft : Grown eof all (reader eof m) power context left s₁ := .operand hs hrest hoperand
      have hgrown := grown_extend hleft
      rw [show extend eof (reader eof m) power context left s₁ = (t, s') from hextend] at hgrown
      exact .inr ⟨m, rfl, hgrown⟩

theorem yielding_reader (eof : Nat) (all : List Lexeme) (n : Nat) :
    (reader eof n).Yielding eof all := by
  induction n with
  | zero =>
    intro power context s s' t hs h
    rcases run_cases hs h with ⟨start, rfl, -, hplace⟩ | ⟨m, hm, -⟩
    · exact (Yields.nil hplace).node (.error ..)
    · cases hm
  | succ n ih =>
    intro power context s s' t hs h
    rcases run_cases hs h with ⟨start, rfl, -, hplace⟩ | ⟨m, hm, hgrown, -⟩
    · exact (Yields.nil hplace).node (.error ..)
    · cases hm
      exact hgrown.yields ih

/-! ### The whole tree -/

theorem token_of_mem_lexemesFrom {source : Text} {tokens : List Token} {total : Nat} {newline : Bool}
    (h : x ∈ lexemesFrom source total newline tokens) :
    ∃ t ∈ tokens, isSilent t.kind = false ∧ x.kind = t.kind ∧ x.span = t.span ∧
      x.text = String.ofList (t.text source) := by
  induction tokens generalizing newline with
  | nil => cases h
  | cons t ts ih =>
    rw [lexemesFrom] at h
    split at h
    · cases h
    · split at h
      · obtain ⟨u, hu, hx⟩ := ih h
        exact ⟨u, List.mem_cons_of_mem _ hu, hx⟩
      · rename_i hkind
        rcases List.mem_cons.1 h with rfl | h
        · exact ⟨t, List.mem_cons_self, by simpa using hkind, rfl, rfl, rfl⟩
        · obtain ⟨u, hu, hx⟩ := ih h
          exact ⟨u, List.mem_cons_of_mem _ hu, hx⟩

/-- A node of the tree of a token sequence is the root or has one of the forms. -/
theorem form_of_mem_build {source : Text} {tokens : List Token} {u : Tree}
    (h : u ∈ (build source tokens).nodes) :
    u = build source tokens ∨ Form source.byteLength (lexemes source tokens) u := by
  have hyields := yields_statements (yielding_reader source.byteLength (lexemes source tokens) maxNesting)
    .start .top none
  rcases mem_nodes.1 h with rfl | ⟨c, hc, hu⟩
  · exact .inl rfl
  · exact .inr (hyields.forms c hc u hu)

end RSource.Grammar
