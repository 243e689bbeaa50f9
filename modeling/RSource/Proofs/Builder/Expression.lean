import RSource.Builder.Expression
import RSource.Proofs.Arena.Sound
import RSource.Proofs.Builder.Argument
import RSource.Proofs.Grammar.Soundness

/-!
# The builder holds the tree that the readers read

For each form of expression the builder adds the tree the reader gives, and the loops over statements and
over operators take the reader's turns one by one. So the fillers of all nesting depths find what the
readers do (`fills_filler`), and the arena of a token sequence holds its tree (`holds_fill`): no cell is
left over. That the arena passes its check is then a matter of the tree alone (`sound_fill`).
-/

namespace RSource.Builder
open Grammar Cursor

variable {eof : Nat} {sub : Filler} {reader : Reader} {b b₁ b₂ : Builder} {s s₁ s₂ : Cursor}
  {is : List Nat} {i : Nat} {t left : Tree} {ts : List Tree} {x : Lexeme} {xs : List Lexeme}
  {context : Context} {closer? : Option Token.Kind} {power : Nat}

/-! ### Statements -/

theorem junk_ends (reader : Reader) (context : Context) (closer? : Option Token.Kind)
    (h : Adds b b₁ [i] [t] s) : (junk eof closer?).Ends b₁ fun js b' => ∃ us s',
      Adds b b' (i :: js) (t :: us) s' ∧ following eof reader context closer? t s =
        (t :: us ++ (Grammar.statements eof reader context closer? s').1,
          (Grammar.statements eof reader context closer? s').2) := by
  unfold junk following
  refine ends_look ?_
  rw [h.place]
  rcases hs : s.rest with _ | ⟨y, ys⟩
  · exact ends_pure ⟨[], s, h, by rw [statements_of_nil hs]; rfl⟩
  · dsimp only
    split
    · exact ends_pure ⟨[], s, h, rfl⟩
    · exact (skip_ends _ (.refl h.place) hs).bind fun e b₂ h₂ =>
        ends_pure ⟨[_], _, h.trans h₂, rfl⟩

/-- One turn of the loop over statements, which begins with the lexeme `x`. -/
theorem item_ends (hsub : Fills sub reader) (hb : b.place = s) (hs : s.rest = x :: xs)
    (hx : closer? ≠ some x.kind) :
    (item eof sub context closer? x).Ends b fun is b' => ∃ ts s', Adds b b' is ts s' ∧
      Grammar.statements eof reader context closer? s =
        (ts ++ (Grammar.statements eof reader context closer? s').1,
          (Grammar.statements eof reader context closer? s').2) := by
  unfold item
  split
  · rename_i hsemi
    refine (Adds.refl hb).advance.bind fun _ b₁ h₁ => ends_pure ⟨[], _, h₁, ?_⟩
    rw [statements_of_cons hs, if_neg hx, if_pos hsemi, advance_of_cons hs]
    rfl
  rename_i hsemi
  split
  · rename_i hstray
    refine (Adds.refl hb).advance.bind fun _ b₁ h₁ => ?_
    refine (leaf_ends h₁ _ x).bind fun e b₂ h₂ => ends_pure ⟨_, _, h₂, ?_⟩
    rw [statements_of_cons hs, if_neg hx, if_neg hsemi, if_pos hstray, advance_of_cons hs]
    rfl
  rename_i hstray
  refine (hsub 0 context hb).bind fun e? b₁ h => ?_
  generalize hrun : reader.run 0 context s = r at h
  cases h with
  | none =>
    refine (skip_ends _ (.refl hb) hs).bind fun e b₂ h₂ => ends_pure ⟨_, _, h₂, ?_⟩
    exact statements_of_none hs hx hsemi hstray hrun
  | some h =>
    refine ends_look ?_
    rw [h.spanAt]
    refine (h.alloc _ _).bind fun i b₂ h₂ => ?_
    refine (junk_ends reader context closer? h₂).bind fun js b₃ ⟨us, s', h₃, hfollowing⟩ => ?_
    refine ends_pure ⟨_, _, h₃, ?_⟩
    rw [statements_of_some hs hx hsemi hstray hrun, hfollowing]

theorem statements_ends (hsub : Fills sub reader) (context : Context) (closer? : Option Token.Kind)
    (hb : b.place = s) : Step.Ends (statements eof sub context closer?) b fun is b' =>
      Adds b b' is (Grammar.statements eof reader context closer? s).1
        (Grammar.statements eof reader context closer? s).2 := by
  subst hb
  dsimp only [Step.Ends]
  fun_induction statements eof sub context closer? b with
  | case1 b hs =>
    rw [statements_of_nil hs]
    exact .refl rfl
  | case2 b x xs hs hx =>
    rw [statements_of_cons hs, if_pos hx]
    exact .refl rfl
  | case3 b x xs hs hx r hlt more ih =>
    obtain ⟨ts, s', hr, hstatements⟩ := item_ends hsub rfl hs hx
    rw [hstatements]
    have hplace : r.2.1.place = s' := hr.place
    rw [hplace] at ih
    exact hr.trans ih

/-! ### Bracketed forms and reserved words -/

theorem condition_ends (hsub : Fills sub reader) (hb : b.place = s) :
    (condition eof sub).Ends b fun r b' => r.1 = (Grammar.condition eof reader s).1 ∧
      Adds b b' r.2 (Grammar.condition eof reader s).2.1 (Grammar.condition eof reader s).2.2 := by
  refine (optional_ends hsub 0 .bracket hb).bind fun e b₁ h₁ => ?_
  exact (expectCloser_ends .closeParen (.refl h₁.place)).bind fun r b₂ ⟨hclosed, h₂⟩ =>
    ends_pure ⟨hclosed, h₁.trans h₂⟩

theorem condition?_ends (hsub : Fills sub reader) (hb : b.place = s) :
    (condition? eof sub).Ends b fun r b' => r.1 = (Grammar.condition? eof reader s).1 ∧
      Adds b b' r.2 (Grammar.condition? eof reader s).2.1 (Grammar.condition? eof reader s).2.2 := by
  unfold condition? Grammar.condition?
  refine ends_look ?_
  rw [hb]
  split
  · refine (Adds.refl hb).advance.bind fun _ b₁ h₁ => ?_
    exact (condition_ends hsub h₁.place).mono fun r b₂ ⟨hclosed, h₂⟩ => ⟨hclosed, h₁.trans h₂⟩
  · exact ends_pure ⟨rfl, .refl hb⟩

/-- From the place `s` the step adds one tree and comes to the place behind it. -/
def Step.Makes (m : Step Nat) (s : Cursor) (r : Tree × Cursor) : Prop :=
  ∀ b : Builder, b.place = s → m.Ends b fun i b' => Adds b b' [i] [r.1] r.2

theorem leaf_makes (kind : Tree.Kind) (x : Lexeme) (s : Cursor) : (leaf kind x).Makes s (x.leaf kind, s) :=
  fun _ hb => leaf_ends (.refl hb) kind x

theorem parenthesized_makes (hsub : Fills sub reader) (opener : Lexeme) (s : Cursor) :
    (parenthesized eof sub opener).Makes s (Grammar.parenthesized eof reader opener s) := by
  intro b hb
  refine (condition_ends hsub hb).bind fun r b₁ ⟨hclosed, h₁⟩ => ?_
  dsimp only
  rw [hclosed]
  exact finish_ends h₁ _ _ _

theorem block_makes (hsub : Fills sub reader) (opener : Lexeme) (s : Cursor) :
    (block eof sub opener).Makes s (Grammar.block eof reader opener s) := by
  intro b hb
  refine (statements_ends hsub .brace (some .closeBrace) hb).bind fun is b₁ h₁ => ends_look ?_
  rw [h₁.place]
  exact (h₁.advanceIf _).bind fun _ b₂ h₂ => finish_ends h₂ _ _ _

theorem functionParts_ends (hsub : Fills sub reader) (context : Context) (hb : b.place = s) :
    (functionParts eof sub context).Ends b fun is b' =>
      Adds b b' is (Grammar.functionParts eof reader context s).1
        (Grammar.functionParts eof reader context s).2 := by
  unfold functionParts Grammar.functionParts
  refine ends_look ?_
  rw [hb]
  rcases hs : s.rest with _ | ⟨x, xs⟩
  · exact ends_pure (.refl hb)
  · dsimp only
    split
    · refine (Adds.refl hb).advance.bind fun _ b₁ h₁ => ?_
      rw [advance_of_cons hs] at h₁
      refine (argumentList_ends hsub .closeParen x h₁.place).bind fun i b₂ h₂ => ends_look ?_
      rw [h₂.isClosedListAt]
      split
      · exact (optional_ends hsub _ _ h₂.place).bind fun is b₃ h₃ =>
          ends_pure (h₁.trans (h₂.trans h₃))
      · exact ends_pure (h₁.trans h₂)
    · exact ends_pure (.refl hb)

theorem functionDefinition_makes (hsub : Fills sub reader) (context : Context) (word : Lexeme)
    (s : Cursor) :
    (functionDefinition eof sub context word).Makes s
      (Grammar.functionDefinition eof reader context word s) := by
  intro b hb
  refine (functionParts_ends hsub context hb).bind fun is b₁ h₁ => ends_look ?_
  rw [h₁.lastStopD]
  exact h₁.alloc _ _

theorem branches_ends (hsub : Fills sub reader) (context : Context) (hb : b.place = s) :
    (branches sub context).Ends b fun is b' =>
      Adds b b' is (Grammar.branches reader context s).1 (Grammar.branches reader context s).2 := by
  unfold Grammar.branches
  refine (hsub bodyPower context hb).bind fun e? b₁ h => ?_
  generalize reader.run bodyPower context s = r at h
  cases h with
  | none => exact ends_pure (.refl hb)
  | @some b₁ i t s₁ h =>
    refine ends_look ?_
    rw [h.place]
    show Step.Ends (if isElse context s₁ then _ else _) _ _
    dsimp only
    split
    · refine h.advance.bind fun _ b₂ h₂ => ?_
      exact (optional_ends hsub _ _ h₂.place).bind fun is b₃ h₃ => ends_pure (h₂.trans h₃)
    · exact ends_pure h

theorem ifExpression_makes (hsub : Fills sub reader) (context : Context) (word : Lexeme) (s : Cursor) :
    (ifExpression eof sub context word).Makes s (Grammar.ifExpression eof reader context word s) := by
  intro b hb
  rw [ifExpression_eq]
  refine (condition?_ends hsub hb).bind fun r b₁ ⟨hclosed, h₁⟩ => ?_
  dsimp only
  rw [hclosed]
  split
  · exact (branches_ends hsub context h₁.place).bind fun is b₂ h₂ => finish_ends (h₁.trans h₂) _ _ _
  · exact finish_ends h₁ _ _ _

theorem loopBody_ends (hsub : Fills sub reader) (context : Context) (word : Lexeme) (closed : Bool)
    (h : Adds b b₁ is ts s) : (loopBody eof sub context word closed is).Ends b₁ fun i b' =>
      Adds b b' [i] [(Grammar.loopBody eof reader context word closed ts s).1]
        (Grammar.loopBody eof reader context word closed ts s).2 := by
  unfold loopBody Grammar.loopBody
  split
  · exact (optional_ends hsub _ _ h.place).bind fun js b₂ h₂ => finish_ends (h.trans h₂) _ _ _
  · exact finish_ends h _ _ _

theorem loopVariable_ends (h : Adds b b₁ [] [] s) : loopVariable.Ends b₁ fun is b' =>
    Adds b b' is ((Grammar.loopVariable s).1.map (·.leaf .identifier)).toList
      (Grammar.loopVariable s).2 := by
  unfold loopVariable Grammar.loopVariable
  refine ends_look ?_
  rw [h.place]
  dsimp only
  cases s.rest.head?.filter fun x => x.kind == .identifier with
  | none => exact ends_pure h
  | some x => exact h.advance.bind fun _ b₂ h₂ => (leaf_ends h₂ _ x).bind fun i b₃ h₃ => ends_pure h₃

theorem forLoop_makes (hsub : Fills sub reader) (context : Context) (word : Lexeme) (s : Cursor) :
    (forLoop eof sub context word).Makes s (Grammar.forLoop eof reader context word s) := by
  intro b hb
  rw [forLoop_eq]
  refine ends_look ?_
  rw [hb]
  split
  · refine (Adds.refl hb).advance.bind fun _ b₁ h₁ => ?_
    refine (loopVariable_ends h₁).bind fun name b₂ h₂ => ends_look ?_
    rw [h₂.place]
    refine (h₂.advanceIf _).bind fun _ b₃ h₃ => ?_
    refine (condition_ends hsub h₃.place).bind fun r b₄ ⟨hclosed, h₄⟩ => ?_
    dsimp only
    rw [hclosed]
    exact loopBody_ends hsub context word _ (h₃.trans h₄)
  · exact finish_ends (.refl hb) _ _ _

theorem whileLoop_makes (hsub : Fills sub reader) (context : Context) (word : Lexeme) (s : Cursor) :
    (whileLoop eof sub context word).Makes s (Grammar.whileLoop eof reader context word s) := by
  intro b hb
  refine (condition?_ends hsub hb).bind fun r b₁ ⟨hclosed, h₁⟩ => ?_
  dsimp only
  rw [hclosed]
  exact loopBody_ends hsub context word _ h₁

/-! ### Operands -/

/-- The lexeme an expression starts with is taken before the rest of it is read. -/
theorem Step.Makes.behind {m : Step Nat} {r : Tree × Cursor} (hm : m.Makes ⟨xs, x.span.stop⟩ r)
    (hb : b.place = s) (hs : s.rest = x :: xs) : (behind m).Ends b (Finds b (some r)) := by
  refine (Adds.refl hb).advance.bind fun _ b₁ h₁ => ?_
  rw [advance_of_cons hs] at h₁
  exact (hm b₁ h₁.place).bind fun i b₂ h₂ => ends_pure (.some (h₁.trans h₂))

theorem wordExpression_ends (hsub : Fills sub reader) (context : Context) (hb : b.place = s)
    (hs : s.rest = x :: xs) : (wordExpression eof sub context x).Ends b
      (Finds b (Grammar.wordExpression eof reader context x ⟨xs, x.span.stop⟩)) := by
  unfold Grammar.wordExpression
  split
  case h_10 =>
    unfold wordExpression
    split
    case h_10 => exact (leaf_makes _ x _).behind hb hs
    all_goals contradiction
  all_goals
    rename_i htext
    simp only [wordExpression, htext]
  · exact (functionDefinition_makes hsub context x _).behind hb hs
  · exact (ifExpression_makes hsub context x _).behind hb hs
  · exact (forLoop_makes hsub context x _).behind hb hs
  · exact (whileLoop_makes hsub context x _).behind hb hs
  · exact Step.Makes.behind (fun b hb => loopBody_ends hsub context x true (.refl hb)) hb hs
  · exact ends_pure .none
  · exact ends_pure .none
  · exact (leaf_makes _ x _).behind hb hs
  · exact (leaf_makes _ x _).behind hb hs

theorem operatorExpression_ends (hsub : Fills sub reader) (context : Context) (hb : b.place = s)
    (hs : s.rest = x :: xs) : (operatorExpression eof sub context x).Ends b
      (Finds b (Grammar.operatorExpression eof reader context x ⟨xs, x.span.stop⟩)) := by
  unfold operatorExpression Grammar.operatorExpression
  split
  · exact (functionDefinition_makes hsub context x _).behind hb hs
  · cases unaryPower? x.text with
    | none => exact ends_pure .none
    | some power =>
      refine Step.Makes.behind (fun b hb => ?_) hb hs
      refine (optional_ends hsub power context hb).bind fun is b₁ h₁ => ends_look ?_
      rw [h₁.lastStopD]
      exact h₁.alloc _ _

theorem operand_ends (hsub : Fills sub reader) (context : Context) (hb : b.place = s)
    (hs : s.rest = x :: xs) : (operand eof sub context x).Ends b
      (Finds b (Grammar.operand eof reader context x ⟨xs, x.span.stop⟩)) := by
  unfold operand Grammar.operand
  generalize x.kind = kind
  cases kind
  case identifier | number | string => exact (leaf_makes _ x _).behind hb hs
  case keyword => exact wordExpression_ends hsub context hb hs
  case openParen => exact (parenthesized_makes hsub x _).behind hb hs
  case openBrace => exact (block_makes hsub x _).behind hb hs
  case operator => exact operatorExpression_ends hsub context hb hs
  all_goals exact ends_pure .none

/-! ### Calls, indexing and binary operators -/

theorem call_ends (hsub : Fills sub reader) (opener : Lexeme) (h : Adds b b₁ [i] [left] s) :
    let r := Grammar.argumentList eof reader .closeParen opener s
    (call eof sub i opener).Ends b₁ fun j b' =>
      Adds b b' [j] [.node .call (left.span.cover r.1.span) [left, r.1]] r.2 := by
  refine (argumentList_ends hsub .closeParen opener h.place).bind fun list b₂ h₂ => ends_look (ends_look ?_)
  have hspans := (h.trans h₂).grows.spans
  obtain ⟨hcallee, hlist⟩ := List.cons.inj hspans
  rw [hcallee, h₂.spanAt]
  exact (h.trans h₂).alloc _ _

theorem binary_ends (hsub : Fills sub reader) (context : Context) (x : Lexeme) (right : Nat)
    (h : Adds b b₁ [i] [left] s) :
    let r := Grammar.optional reader right context s
    (binary sub context i x right).Ends b₁ fun j b' => Adds b b' [j]
      [.node (.binary x.span) ⟨left.span.start, Grammar.lastStopD r.1 x.span.stop⟩ (left :: r.1)] r.2 := by
  refine (optional_ends hsub right context h.place).bind fun is b₂ h₂ => ends_look (ends_look ?_)
  have hleft : Arena.spanAt b₂.cells i = left.span := (List.cons.inj (h.trans h₂).grows.spans).1
  rw [h₂.lastStopD, hleft]
  exact (h.trans h₂).alloc _ _

/-- One turn of the loop over operators, which begins with the lexeme `x`. -/
theorem extension?_ends (eof : Nat) (hsub : Fills sub reader) (power : Nat) (context : Context)
    (h : Adds b b₁ [i] [left] s) (hs : s.rest = x :: xs) :
    (extension? eof sub power context i x).elim
      (Grammar.extend eof reader power context left s = (left, s))
      fun m => m.Ends (advance b₁).2.1 fun j b' => ∃ t s', Adds b b' [j] [t] s' ∧
        Grammar.extend eof reader power context left s = Grammar.extend eof reader power context t s' := by
  have h₁ : Adds b (advance b₁).2.1 [i] [left] ⟨xs, x.span.stop⟩ := by
    rw [← advance_of_cons hs]
    exact h.advance
  rw [extend_of_cons hs]
  unfold extension?
  split
  · rfl
  split
  · rw [Option.elim_some]
    exact (call_ends hsub x h₁).mono fun j b' h' => ⟨_, _, h', rfl⟩
  split
  · rw [Option.elim_some]
    exact (index_ends hsub x h₁).mono fun j b' h' => ⟨_, _, h', rfl⟩
  · cases binaryAt? power x with
    | none => rfl
    | some right =>
      rw [Option.map_some, Option.elim_some]
      exact (binary_ends hsub context x right h₁).mono fun j b' h' => ⟨_, _, h', rfl⟩

theorem extend_ends (hsub : Fills sub reader) (power : Nat) (context : Context)
    (h : Adds b b₁ [i] [left] s) : Step.Ends (extend eof sub power context i) b₁ fun j b' =>
      Adds b b' [j] [(Grammar.extend eof reader power context left s).1]
        (Grammar.extend eof reader power context left s).2 := by
  dsimp only [Step.Ends]
  fun_induction extend eof sub power context i b₁ generalizing left s with
  | case1 i b₁ hs =>
    rw [h.place] at hs
    rw [extend_of_nil hs]
    exact h
  | case2 i b₁ x xs hs hnone =>
    rw [h.place] at hs
    have hstep := extension?_ends eof hsub power context h hs
    rw [hnone] at hstep
    rw [hstep]
    exact h
  | case3 i b₁ x xs hs m hsome b₂ r hlt =>
    rename_i ih
    rw [h.place] at hs
    have hstep := extension?_ends eof hsub power context h hs
    rw [hsome] at hstep
    obtain ⟨t, s', ht, hextend⟩ := hstep
    rw [hextend]
    exact ih ht

/-! ### Expressions of all depths -/

theorem expression_ends (hsub : Fills sub reader) (power : Nat) (context : Context) (hb : b.place = s) :
    (expression eof sub power context).Ends b
      (Finds b (Grammar.expression eof reader power context s)) := by
  unfold expression
  refine ends_look ?_
  rw [hb]
  rcases hs : s.rest with _ | ⟨x, xs⟩
  · rw [Grammar.expression, hs]
    exact ends_pure .none
  · rw [expression_of_cons hs]
    refine (operand_ends hsub context hb hs).bind fun left? b₁ h => ?_
    generalize Grammar.operand eof reader context x ⟨xs, x.span.stop⟩ = r at h
    cases h with
    | none => exact ends_pure .none
    | some h => exact (extend_ends hsub power context h).bind fun i b₂ h₂ => ends_pure (.some h₂)

theorem bailOut_ends (hb : b.place = s) : (bailOut eof).Ends b (Finds b (Grammar.bailOut eof s)) := by
  unfold bailOut Grammar.bailOut
  refine ends_look ?_
  rw [hb]
  rcases hs : s.rest with _ | ⟨x, xs⟩
  · exact ends_pure .none
  · refine Step.Makes.behind (fun b₁ hb₁ => ?_) hb hs
    have hlast : (xs.getLast?.map (·.span.stop)).getD x.span.stop = (xs.getLast?.getD x).span.stop := by
      cases xs.getLast? <;> rfl
    have hempty : Adds b₁ (takeAll b₁).2.1 [] [] ⟨[], (xs.getLast?.getD x).span.stop⟩ := by
      rw [← hlast]
      refine ⟨?_, .refl _⟩
      show Cursor.mk _ _ = _
      rw [hb₁]
    exact hempty.alloc _ _

theorem fills_filler (eof levels : Nat) : Fills (filler eof levels) (Grammar.reader eof levels) := by
  induction levels with
  | zero => exact fun _ _ _ _ hb => bailOut_ends hb
  | succ levels ih => exact fun power context _ _ hb => expression_ends ih power context hb

/-! ### The whole text -/

/-- The arena of a token sequence holds its tree and no other cell. -/
theorem holds_fill (source : Text) (tokens : List Token) :
    (fill source tokens).Holds (build source tokens) := by
  have h : (program source.byteLength).Ends ⟨⟨lexemes source tokens, 0⟩, #[]⟩ fun i b' =>
      ∃ s, Adds ⟨⟨lexemes source tokens, 0⟩, #[]⟩ b' [i] [build source tokens] s :=
    (statements_ends (fills_filler _ maxNesting) .top none rfl).bind fun is b₁ h₁ =>
      (h₁.alloc _ _).mono fun i b₂ h₂ => ⟨_, h₂⟩
  obtain ⟨s, hadds⟩ := h
  obtain ⟨order, hstand, hperm⟩ := hadds.grows.stand
  refine ⟨order, hstand, ?_⟩
  rw [List.range_eq_range']
  exact hperm

/-- The arena over any tokens that follow one another, of the text itself or of another one, holds the tree
over these tokens and passes its check: with the links to parents and the walk over all cells. -/
theorem sound_fill (source : Text) (tokens : List Token)
    (h : tokens.IsChain fun t u => t.stop ≤ u.start) :
    (fill source tokens).Holds (build source tokens) ∧
      (fill source tokens).Sound source.byteLength ∧
      (fill source tokens).flaw? source.byteLength = none :=
  have hholds := holds_fill source tokens
  have hsound := hholds.sound (sound_build h) rfl
  ⟨hholds, hsound, hsound.flaw?_eq_none⟩

/-- The tokens of an unclosed call, read over a text that is shorter than they are. -/
theorem sound_fill_unclosed :
    let tokens : List Token :=
      [⟨.identifier, 0, 1⟩, ⟨.openParen, 1, 1⟩, ⟨.number, 3, 2⟩, ⟨.comma, 5, 1⟩]
    (tokens.IsChain fun t u => t.stop ≤ u.start) ∧
      (fill "f(é2".toList tokens).Holds (build "f(é2".toList tokens) ∧
      (fill "f(é2".toList tokens).Sound 5 ∧ (fill "f(é2".toList tokens).flaw? 5 = none := by
  have h : List.IsChain (fun t u : Token => t.stop ≤ u.start)
      [⟨.identifier, 0, 1⟩, ⟨.openParen, 1, 1⟩, ⟨.number, 3, 2⟩, ⟨.comma, 5, 1⟩] := by decide
  exact ⟨h, sound_fill "f(é2".toList _ h⟩

end RSource.Builder
