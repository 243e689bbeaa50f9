import RSource.Proofs.Grammar.Shape
import RSource.Proofs.Token.LineEnd

/-!
# No token is lost

Each part of the grammar gives its node an end of its own: the last child, the last lexeme read, an operator
or the end of the text. Whichever it is, the node covers every lexeme that was read for it (`Fills`). So the
children of the root take up all meaningful tokens of a text, each token in exactly one of them; only a `;`
between statements may stand outside (`countP_contains_parse`).
-/

namespace RSource.Grammar
open RSource.Tree Cursor

variable {eof a b : Nat} {all : List Lexeme} {sub : Reader} {s s' : Cursor} {x y : Lexeme} {xs : List Lexeme}
  {t left : Tree} {ts : List Tree} {context : Context} {n power : Nat} {closed : Bool} {closer : Token.Kind}

/-! ### Ends of nodes -/

/-- The tree covers the lexemes from one place to the other. -/
structure Fills (s : Cursor) (t : Tree) (s' : Cursor) : Prop where
  start_le : ∀ x ∈ s.rest.head?, t.span.start ≤ x.span.start
  lastStop_le : s'.lastStop ≤ t.span.stop

theorem Fills.of_cons (hrest : s.rest = x :: xs) (hstart : t.span.start ≤ x.span.start)
    (hstop : s'.lastStop ≤ t.span.stop) : Fills s t s' := by
  refine ⟨fun y hy => ?_, hstop⟩
  rw [hrest] at hy
  obtain rfl : x = y := Option.some.inj hy
  exact hstart

theorem Fills.statement (h : Fills s t s') : Fills s (.node .expressionStatement t.span [t]) s' :=
  ⟨h.start_le, h.lastStop_le⟩

/-- What the reader reads covers the lexemes that it takes. -/
def Reader.Filling (eof : Nat) (sub : Reader) : Prop :=
  ∀ {power : Nat} {context : Context} {s s' : Cursor} {t : Tree}, s.Ordered eof →
    sub.run power context s = some (t, s') → Fills s t s'

theorem lastStop_optional_le (hsub : sub.Filling eof) (hs : s.Ordered eof) (power : Nat) (context : Context) :
    (optional sub power context s).2.lastStop ≤ lastStopD (optional sub power context s).1 s.lastStop := by
  unfold optional
  split
  · exact (hsub hs ‹_›).lastStop_le
  · exact Nat.le_refl _

theorem lastStop_le_finish (hs : s.Ordered eof) (k : Tree.Kind) (closed : Bool) (ts : List Tree) :
    s.lastStop ≤ (finish eof k a closed ts s).span.stop := by
  cases closed with
  | true =>
    show s.lastStop ≤ max (max s.lastStop (lastStopD ts a)) a
    omega
  | false => exact InOrder.le hs

theorem lastStop_le_argumentList (hsub : sub.InOrder eof) (hx : Behind eof x s) (closer : Token.Kind) :
    (argumentList eof sub closer x s).2.lastStop ≤ (argumentList eof sub closer x s).1.span.stop := by
  obtain ⟨h1, h2, -⟩ := @argumentList_spec _ _ _ closer hsub _ hx
  rw [h2]
  split
  · exact Nat.le_refl _
  · exact InOrder.le h1.ordered

theorem lastStop_le_closeIndex {object : Tree} {double : Bool} {r : Tree × Cursor}
    (h : (closeIndex eof object double r).2.Ordered eof) :
    (closeIndex eof object double r).2.lastStop ≤
      (closeIndex eof object double r).1.span.stop := by
  have hle := InOrder.le h
  unfold closeIndex at hle ⊢
  dsimp only [Tree.span] at hle ⊢
  cases hclosed : isClosedList r.1 with
  | true => exact Nat.le_refl _
  | false =>
    rw [hclosed] at hle
    exact hle

/-! ### Operands -/

/-- A definition ends with its body, with its formals or with its reserved word. -/
theorem lastStop_le_functionDefinition (hsub : sub.Filling eof) (horder : sub.InOrder eof)
    (hx : Behind eof x s) :
    (functionDefinition eof sub context x s).2.lastStop ≤
      (functionDefinition eof sub context x s).1.span.stop := by
  unfold functionDefinition
  dsimp only [Tree.span]
  split
  · exact Nat.le_of_eq hx.stop_eq.symm
  · rename_i y ys hrest
    split
    · have hy := (hx.ordered.next hrest).2
      have hlist := lastStop_le_argumentList horder hy .closeParen
      obtain ⟨h1, h2, -⟩ := @argumentList_spec _ _ _ .closeParen horder _ hy
      split
      · rename_i hclosed
        rw [hclosed, if_pos rfl] at h2
        have hbody := lastStop_optional_le hsub h1.ordered bodyPower context
        unfold optional at hbody ⊢
        split
        · rename_i hrun
          rw [hrun] at hbody
          exact hbody
        · exact hlist
      · exact hlist
    · exact Nat.le_of_eq hx.stop_eq.symm

theorem lastStop_le_ifExpression (h : (ifExpression eof sub context x s).2.Ordered eof) :
    (ifExpression eof sub context x s).2.lastStop ≤ (ifExpression eof sub context x s).1.span.stop := by
  rw [ifExpression_eq] at h ⊢
  cases hclosed : (condition? eof sub s).1 with
  | true =>
    simp only [hclosed, if_true] at h ⊢
    exact lastStop_le_finish h ..
  | false =>
    simp only [hclosed, Bool.false_eq_true, if_false] at h ⊢
    exact lastStop_le_finish h ..

theorem lastStop_le_loopBody (h : (loopBody eof sub context x closed ts s).2.Ordered eof) :
    (loopBody eof sub context x closed ts s).2.lastStop ≤
      (loopBody eof sub context x closed ts s).1.span.stop := by
  cases closed with
  | true => exact lastStop_le_finish h .loopExpression true _
  | false => exact lastStop_le_finish h .loopExpression false _

theorem lastStop_le_forLoop (h : (forLoop eof sub context x s).2.Ordered eof) :
    (forLoop eof sub context x s).2.lastStop ≤ (forLoop eof sub context x s).1.span.stop := by
  unfold forLoop at h ⊢
  split
  · rename_i hopen
    rw [if_pos hopen] at h
    exact lastStop_le_loopBody h
  · rename_i hopen
    rw [if_neg hopen] at h
    exact lastStop_le_finish h .loopExpression true _

theorem lastStop_le_of_eq {r : Tree × Cursor} (h : r = (t, s')) (hr : r.2.lastStop ≤ r.1.span.stop) :
    s'.lastStop ≤ t.span.stop := by
  subst h
  exact hr

theorem lastStop_le_wordExpression (hsub : sub.Filling eof) (horder : sub.InOrder eof)
    (hx : Behind eof x s) (h : wordExpression eof sub context x s = some (t, s')) :
    s'.lastStop ≤ t.span.stop := by
  unfold wordExpression at h
  split at h <;> simp only [Option.some.injEq, reduceCtorEq] at h
  · exact lastStop_le_of_eq h (lastStop_le_functionDefinition hsub horder hx)
  · exact lastStop_le_of_eq h (lastStop_le_ifExpression (stands_ifExpression horder hx).ordered)
  · exact lastStop_le_of_eq h (lastStop_le_forLoop (stands_forLoop horder hx).ordered)
  · exact lastStop_le_of_eq h (lastStop_le_loopBody (stands_whileLoop horder hx).ordered)
  · exact lastStop_le_of_eq h (lastStop_le_loopBody (stands_repeatLoop horder hx).ordered)
  · exact lastStop_le_of_eq h (Nat.le_of_eq hx.stop_eq.symm)
  · exact lastStop_le_of_eq h (Nat.le_of_eq hx.stop_eq.symm)
  · exact lastStop_le_of_eq h (Nat.le_of_eq hx.stop_eq.symm)

theorem lastStop_le_operand (hsub : sub.Filling eof) (horder : sub.InOrder eof) (hx : Behind eof x s)
    (h : operand eof sub context x s = some (t, s')) : s'.lastStop ≤ t.span.stop := by
  unfold operand at h
  split at h
  · exact lastStop_le_of_eq (Option.some.inj h) (Nat.le_of_eq hx.stop_eq.symm)
  · exact lastStop_le_of_eq (Option.some.inj h) (Nat.le_of_eq hx.stop_eq.symm)
  · exact lastStop_le_of_eq (Option.some.inj h) (Nat.le_of_eq hx.stop_eq.symm)
  · exact lastStop_le_wordExpression hsub horder hx h
  · exact lastStop_le_of_eq (Option.some.inj h) (lastStop_le_finish (stands_parenthesized horder hx).ordered ..)
  · exact lastStop_le_of_eq (Option.some.inj h) (lastStop_le_finish (stands_block horder hx).ordered ..)
  · unfold operatorExpression at h
    split at h
    · exact lastStop_le_of_eq (Option.some.inj h) (lastStop_le_functionDefinition hsub horder hx)
    · obtain ⟨q, -, heq⟩ := Option.map_eq_some_iff.1 h
      refine lastStop_le_of_eq heq ?_
      dsimp only [Tree.span]
      rw [hx.stop_eq]
      exact lastStop_optional_le hsub hx.ordered ..
  · cases h

/-! ### Readers -/

/-- An expression that is extended covers what it is extended by. -/
theorem lastStop_le_extend (hsub : sub.Filling eof) (horder : sub.InOrder eof) (hleft : Stands eof a left s)
    (h : s.lastStop ≤ left.span.stop) :
    (extend eof sub power context left s).2.lastStop ≤ (extend eof sub power context left s).1.span.stop := by
  fun_induction extend eof sub power context left s with
  | case1 | case2 | case5 => exact h
  | case3 left s x xs hs _ s₁ _ _ r _ ih =>
    obtain ⟨h1, hx⟩ := hleft.ordered.next hs
    have hlist : Stands eof x.span.start r.1 r.2 := (argumentList_spec horder hx).1
    refine ih (hleft.call hlist (Nat.le_trans hleft.stop_le h1)) ?_
    exact Nat.le_trans (lastStop_le_argumentList horder hx _) (Nat.le_max_right ..)
  | case4 left s x xs hs _ s₁ _ _ _ r _ ih =>
    obtain ⟨h1, hx⟩ := hleft.ordered.next hs
    have hindex : Stands eof left.span.start r.1 r.2 :=
      stands_index horder hx hleft.sound (Nat.le_trans hleft.stop_le h1)
    exact ih (hleft.start_eq ▸ hindex) (lastStop_le_closeIndex hindex.ordered)
  | case6 left s x xs hs _ s₁ _ _ _ right _ r _ ih =>
    obtain ⟨h1, hx⟩ := hleft.ordered.next hs
    have hright : Reads eof s₁ r.1 r.2 := reads_optional horder hx.ordered right context
    have hnode : Stands eof left.span.start
        (.node (.binary x.span) ⟨left.span.start, lastStopD r.1 x.span.stop⟩ (left :: r.1)) r.2 :=
      hright.node_cons hx.stop_le_reach hleft.sound
        (Nat.le_trans hleft.stop_le (Nat.le_trans h1 hx.start_le_stop))
    exact ih (hleft.start_eq ▸ hnode) (lastStop_optional_le hsub hx.ordered ..)

theorem fills_expression (hsub : sub.Filling eof) (horder : sub.InOrder eof) (hs : s.Ordered eof)
    (h : expression eof sub power context s = some (t, s')) : Fills s t s' := by
  unfold expression at h
  split at h
  · cases h
  · rename_i x xs hrest
    have hx := (hs.next hrest).2
    obtain ⟨⟨left, s₁⟩, hoperand, hextend⟩ := Option.map_eq_some_iff.1 h
    have hleft := stands_operand horder hx hoperand
    have hstart := ((stands_extend horder hleft).of_eq hextend).start_eq
    have hstop : s'.lastStop ≤ t.span.stop := lastStop_le_of_eq hextend
      (lastStop_le_extend hsub horder hleft (lastStop_le_operand hsub horder hx hoperand))
    exact .of_cons hrest (Nat.le_of_eq hstart) hstop

/-- The readers of all depths read nothing that they do not cover. -/
theorem filling_reader (eof levels : Nat) : (reader eof levels).Filling eof := by
  induction levels with
  | zero =>
    intro power context s s' t hs h
    have hle := InOrder.le (reads_bailOut hs h).ordered
    have h : bailOut eof s = some (t, s') := h
    unfold bailOut at h
    split at h
    · cases h
    · rename_i x xs hrest
      obtain ⟨rfl, rfl⟩ := Prod.mk.inj (Option.some.inj h)
      exact .of_cons hrest (Nat.le_refl _) hle
  | succ levels ih => exact fills_expression ih (inOrder_reader eof levels)

/-! ### Statements -/

/-- The lexeme lies in one of the trees, or it is a `;` apart from all of them. -/
def Accounted (ts : List Tree) (x : Lexeme) : Prop :=
  (∃ t ∈ ts, t.span.contains x.span = true) ∨
    (x.isOperator ";" = true ∧ ∀ t ∈ ts, t.span.stop ≤ x.span.start ∨ x.span.stop ≤ t.span.start)

/-- A lexeme is still to come at a place or lies before it. -/
theorem Cursor.PlaceOf.mem_or_stop_le (h : s.PlaceOf all) (hall : InOrder eof 0 all) (hy : y ∈ all) :
    y ∈ s.rest ∨ y.span.stop ≤ s.lastStop := by
  induction h with
  | start => exact .inl hy
  | @advance s h ih =>
    cases hrest : s.rest with
    | nil =>
      rw [advance_of_nil hrest]
      exact ih
    | cons x xs =>
      rw [advance_of_cons hrest]
      rw [hrest] at ih
      obtain ⟨h1, h2⟩ := (h.ordered hall).next hrest
      rcases ih with hmem | hle
      · rcases List.mem_cons.1 hmem with rfl | hmem
        · exact .inr (Nat.le_refl _)
        · exact .inl hmem
      · have hlast := (h.ordered hall).lastStop_le_reach
        exact .inr (Nat.le_trans hle (Nat.le_trans hlast (Nat.le_trans h1 h2.start_le_stop)))

/-- Behind a tree that covers what was read for it, the trees that follow account for the rest. -/
theorem accounted_cons (hall : InOrder eof 0 all) (hs : s.PlaceOf all) (hs' : s'.PlaceOf all)
    (hreads : Reads eof s [t] s') (hfills : Fills s t s') (h : ∀ y ∈ s'.rest, Accounted ts y) :
    ∀ y ∈ s.rest, Accounted (t :: ts) y := by
  intro y hy
  rcases hs'.mem_or_stop_le hall (hs.suffix.subset hy) with hrest | hstop
  · rcases h y hrest with ⟨u, hu, hin⟩ | ⟨hsemi, hapart⟩
    · exact .inl ⟨u, List.mem_cons_of_mem _ hu, hin⟩
    · refine .inr ⟨hsemi, List.forall_mem_cons.2 ⟨.inl ?_, hapart⟩⟩
      have hreach : s'.reach eof = s'.lastStop := if_neg (List.ne_nil_of_mem hrest)
      have hle : t.span.stop ≤ s'.reach eof := forest_nil.1 (forest_cons.1 hreads.forest).2.2
      exact Nat.le_trans (hreach ▸ hle) (InOrder.le_start_of_mem hreads.ordered hrest)
  · refine .inl ⟨t, List.mem_cons_self, ?_⟩
    have hstart : t.span.start ≤ y.span.start := by
      cases hrest : s.rest with
      | nil =>
        rw [hrest] at hy
        cases hy
      | cons x xs =>
        have hfirst : t.span.start ≤ x.span.start := hfills.start_le x (by rw [hrest]; rfl)
        rw [hrest] at hy
        rcases List.mem_cons.1 hy with rfl | hy
        · exact hfirst
        · obtain ⟨-, h2⟩ := (hs.ordered hall).next hrest
          exact Nat.le_trans hfirst (Nat.le_trans h2.start_le_stop (InOrder.le_start_of_mem h2.ordered hy))
    simp only [Span.contains, Bool.and_eq_true, decide_eq_true_eq]
    exact ⟨hstart, Nat.le_trans hstop hfills.lastStop_le⟩

theorem fills_skip {stops : Lexeme → Bool} (hs : s.Ordered eof) (hrest : s.rest = x :: xs) :
    Fills s (skip eof stops x xs).1 (skip eof stops x xs).2 := by
  have hle := InOrder.le (@stands_skip _ _ _ _ stops hs hrest).ordered
  refine .of_cons hrest (Nat.le_refl _) ?_
  unfold skip at hle ⊢
  dsimp only [errorTree, Tree.leaf, Tree.span] at hle ⊢
  cases decide (0 < (skipLoop stops (if x.kind.isOpener then 1 else 0) x.span.stop xs).1) with
  | true => exact hle
  | false => exact Nat.le_refl _

/-- The statements up to the end of the text account for all lexemes. -/
theorem accounted_statements (hall : InOrder eof 0 all) (hs : s.PlaceOf all) (context : Context) :
    ∀ y ∈ s.rest, Accounted (statements eof (reader eof n) context none s).1 y := by
  have horder : (reader eof n).InOrder eof := inOrder_reader eof n
  have hyields : (reader eof n).Yielding eof all := yielding_reader eof all n
  have hfilling : (reader eof n).Filling eof := filling_reader eof n
  generalize hcloser : (none : Option Token.Kind) = closer
  fun_induction statements eof (reader eof n) context closer s with
  | case1 s hrest =>
    rw [hrest]
    exact List.forall_mem_nil _
  | case2 s x xs hrest _ hx =>
    subst hcloser
    cases hx
  | case3 s x xs hrest _ _ hsemi ih =>
    obtain ⟨-, h2⟩ := (hs.ordered hall).next hrest
    rw [hrest]
    refine List.forall_mem_cons.2 ⟨.inr ⟨hsemi, fun t ht => .inr ?_⟩, ih (hs.next hrest)⟩
    have hforest := (reads_statements horder h2.ordered context closer).1.forest
    exact Nat.le_trans h2.stop_le_reach (start_of_mem_forest hforest ht)
  | case4 s x xs hrest _ _ _ _ ts s' hst ih =>
    rw [hst] at ih
    obtain ⟨h1, h2⟩ := (hs.ordered hall).next hrest
    have hstray := (Stands.leaf h2 (.error false)).reads h1
    have hfills : Fills s (x.leaf (.error false)) ⟨xs, x.span.stop⟩ :=
      .of_cons hrest (Nat.le_refl _) (Nat.le_refl _)
    exact accounted_cons hall hs (hs.next hrest) hstray hfills (ih (hs.next hrest))
  | case5 s x xs hrest _ _ _ _ _ r _ ts s' hst ih =>
    rw [hst] at ih
    have hordered := hs.ordered hall
    have hplace : r.2.PlaceOf all := (yields_skip hs hrest : Yields eof all _ r.2).place
    exact accounted_cons hall hs hplace (reads_skip hordered hrest) (fills_skip hordered hrest) (ih hplace)
  | case6 s x xs hrest _ _ _ _ e after he _ statement ha =>
    have hordered := hs.ordered hall
    have hstatement := (hfilling hordered he).statement
    refine accounted_cons hall hs (hyields hs he).place (horder hordered he).wrap hstatement ?_
    rw [ha]
    exact List.forall_mem_nil _
  | case7 s x xs hrest _ _ _ _ e after he _ statement y ys ha _ ts s' hst ih =>
    rw [hst] at ih
    have hordered := hs.ordered hall
    have hplace := (hyields hs he).place
    have hstatement := (hfilling hordered he).statement
    exact accounted_cons hall hs hplace (horder hordered he).wrap hstatement (ih hplace)
  | case8 s x xs hrest _ _ _ _ e after he _ statement y ys ha _ r _ ts s' hst ih =>
    rw [hst] at ih
    have hordered := hs.ordered hall
    have hplace := (hyields hs he).place
    have hplace' : r.2.PlaceOf all := (yields_skip hplace ha : Yields eof all _ r.2).place
    have hstatement := (hfilling hordered he).statement
    refine accounted_cons hall hs hplace (horder hordered he).wrap hstatement ?_
    have hordered' := hplace.ordered hall
    exact accounted_cons hall hplace hplace' (reads_skip hordered' ha) (fills_skip hordered' ha) (ih hplace')

/-! ### Tokens -/

/-- Trees in order do not overlap, so what lies in one of them lies in no other. -/
theorem countP_contains {c : Span} (h : Forest a b ts) (hc : c.start < c.stop)
    (hin : ∃ t ∈ ts, t.span.contains c = true) : ts.countP (·.span.contains c) = 1 := by
  induction ts generalizing a with
  | nil => simp at hin
  | cons t ts ih =>
    obtain ⟨-, -, h3⟩ := forest_cons.1 h
    have hbehind : ∀ u ∈ ts, t.span.contains c = true → u.span.contains c = false := by
      intro u hu ht
      have hstart := start_of_mem_forest h3 hu
      simp only [Span.contains, Bool.and_eq_true, decide_eq_true_eq] at ht
      simp only [Span.contains, Bool.and_eq_false_iff, decide_eq_false_iff_not]
      omega
    rw [List.countP_cons]
    cases ht : t.span.contains c with
    | true =>
      have hnone : ts.countP (·.span.contains c) = 0 :=
        List.countP_eq_zero.2 fun u hu => by simp [hbehind u hu ht]
      simp [hnone]
    | false =>
      obtain ⟨u, hu, hin⟩ := hin
      rcases List.mem_cons.1 hu with rfl | hu
      · rw [ht] at hin
        cases hin
      · simpa using ih h3 ⟨u, hu, hin⟩

/-- A meaningful token of the text is a lexeme. -/
theorem exists_lexeme {source : Text} {tokens : List Token} {total : Nat} {newline : Bool} {token : Token}
    (htokens : ∀ t ∈ tokens, t.stop ≤ total) (h : token ∈ tokens) (hkind : isSilent token.kind = false) :
    ∃ x ∈ lexemesFrom source total newline tokens, x.kind = token.kind ∧ x.span = token.span ∧
      x.text = String.ofList (token.text source) := by
  induction tokens generalizing newline with
  | nil => cases h
  | cons t ts ih =>
    obtain ⟨ht, hts⟩ := List.forall_mem_cons.1 htokens
    rw [lexemesFrom, if_neg (Nat.not_lt.2 ht)]
    rcases List.mem_cons.1 h with rfl | h
    · rw [if_neg (by simp [hkind])]
      exact ⟨_, List.mem_cons_self, rfl, rfl, rfl⟩
    · split
      · exact ih hts h
      · obtain ⟨x, hx, hspec⟩ := @ih false hts h
        exact ⟨x, List.mem_cons_of_mem _ hx, hspec⟩

theorem stop_le_of_mem_tokenizeAll {source : Text} {token : Token} (h : token ∈ Token.tokenizeAll source) :
    token.stop ≤ source.byteLength := by
  rw [Token.tokenizeAll_eq, List.mem_append, List.mem_singleton] at h
  rcases h with h | rfl
  · have hcovers := Token.covers_tokensFrom 0 source
    rw [Nat.zero_add] at hcovers
    exact hcovers.stop_le token h
  · exact Nat.le_refl _

/-- Every meaningful token of a text lies in exactly one child of the root, but for a `;`, which may also stand
apart from all of them. -/
theorem countP_contains_parse (source : Text) (token : Token) (h : token ∈ Token.tokenizeAll source)
    (hkind : isSilent token.kind = false) :
    (parse source).children.countP (·.span.contains token.span) = 1 ∨
      token.kind = .operator ∧ token.text source = ";".toList ∧
        ∀ c ∈ (parse source).children, c.span.stop ≤ token.start ∨ token.stop ≤ c.span.start := by
  have hall := inOrder_lexemes_tokenizeAll source
  obtain ⟨x, hx, hxkind, hspan, htext⟩ :=
    @exists_lexeme source _ source.byteLength false _ (fun t => stop_le_of_mem_tokenizeAll) h hkind
  rcases accounted_statements (n := maxNesting) hall .start .top x hx with hin | ⟨hsemi, hapart⟩
  · refine .inl (countP_contains (sound_iff.1 (sound_parse source)) ?_ (hspan ▸ hin))
    refine Nat.lt_add_of_pos_right (Token.length_pos_of_mem h fun heq => ?_)
    rw [heq] at hkind
    cases hkind
  · simp only [Lexeme.isOperator, Bool.and_eq_true, beq_iff_eq] at hsemi
    refine .inr ⟨hxkind ▸ hsemi.1, ?_, fun c hc => ?_⟩
    · rw [← String.ofList_inj, ← htext, hsemi.2]
      rfl
    · have hc := hapart c hc
      rwa [hspan] at hc

/-- The `c` behind a complete argument, in a call that is never closed, lies in one of the five children. -/
theorem countP_contains_parse_junk :
    let source : Text := "a; ) x y; f(b c, if".toList
    let token : Token := ⟨.identifier, 14, 1⟩
    token ∈ Token.tokenizeAll source ∧ (parse source).children.length = 5 ∧
      ((parse source).children.countP (·.span.contains token.span) = 1 ∨
        token.kind = .operator ∧ token.text source = ";".toList ∧
          ∀ c ∈ (parse source).children, c.span.stop ≤ token.start ∨ token.stop ≤ c.span.start) := by
  intro source token
  have hmem : token ∈ Token.tokenizeAll source := by decide +kernel
  exact ⟨hmem, by decide +kernel, countP_contains_parse source token hmem rfl⟩

end RSource.Grammar
