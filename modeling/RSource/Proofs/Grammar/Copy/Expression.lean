import RSource.Proofs.Grammar.Copy.Contents

/-!
# Expressions of a copy

One lemma for each part of the grammar: what it reads of the copy is what it reads of the lexemes, as far as the
condition holds. So a reader of one more level reads the copy alike (`Guard.Agrees.succ`), and readers of any
number of levels do if those of no level do (`Guard.Agrees.add`).
-/

namespace RSource.Grammar.Copy
open RSource.Tree Cursor Guard

variable {c : Copy} {g : c.Guard} {n m : Nat} {sub sub' : Reader} {s s' s₁ : Cursor} {x : Lexeme} {xs : List Lexeme}
  {t left : Tree} {ts : List Tree} {context : Context} {power : Nat} {closed : Bool}

/-! ### Bracketed forms -/

theorem condition_place (h : g.Agrees n sub') (hs : c.Here s)
    (hclosed : c.IsLast ∨ (condition c.eof (reader c.eof n) s).1 = true)
    (hg : g.Holds n .bracket s (condition c.eof (reader c.eof n) s).2.1 (condition c.eof (reader c.eof n) s).2.2) :
    condition c.newEof sub' (c.place s) =
      ((condition c.eof (reader c.eof n) s).1, c.several (condition c.eof (reader c.eof n) s).2) := by
  have hexpression := passage_optional n hs.place c.inOrder 0 .bracket
  have hsuffix := suffix_of_le hexpression.end (@yields_expectCloser c.eof _ _ .closeParen hexpression.end).place
    (remaining_expectCloser_le ..)
  have hinner := g.inner hg List.suffix_rfl hsuffix (List.subset_append_left _ _)
  have hcloser := expectCloser_place (here hinner hexpression.end) hclosed (g.le hg)
  simp only [condition, optional_place h hs hinner, several]
  rw [hcloser]
  simp [several]

theorem condition?_place (h : g.Agrees n sub') (hs : c.Here s)
    (hclosed : c.IsLast ∨ (condition? c.eof (reader c.eof n) s).1 = true)
    (hg : g.Holds n .bracket s (condition? c.eof (reader c.eof n) s).2.1
      (condition? c.eof (reader c.eof n) s).2.2) :
    condition? c.newEof sub' (c.place s) =
      ((condition? c.eof (reader c.eof n) s).1, c.several (condition? c.eof (reader c.eof n) s).2) := by
  obtain ⟨hat, hadvance⟩ := hs.isAt (.inl rfl)
  unfold condition? at hclosed hg ⊢
  rw [hat]
  split
  · next hopen =>
    rw [if_pos hopen] at hclosed hg
    obtain ⟨hhere, hadvance⟩ := hadvance hopen
    rw [hadvance]
    exact condition_place h hhere hclosed (later hg (Passage.refl hs.place c.inOrder).advanced)
  · rfl

theorem parenthesized_place (h : g.Agrees n sub') (hs : c.Here s)
    (hb : g.Behind n context s (parenthesized c.eof (reader c.eof n) x s).1
      (parenthesized c.eof (reader c.eof n) x s).2) :
    parenthesized c.newEof sub' (c.lexeme x) (c.place s) = c.pair (parenthesized c.eof (reader c.eof n) x s) := by
  have hclosed := hb.finished
  have hinner := hb.bracket
  unfold parenthesized at hinner ⊢
  rw [children_finish] at hinner
  rw [condition_place h hs hclosed hinner]
  exact Prod.ext (finish_place hclosed rfl x.span.start _ _) rfl

/-- A block that was closed has its closing brace before the end of the copied lexemes. -/
theorem block_place (h : g.Agrees n sub') (hs : c.Here s)
    (hb : g.Behind n context s (block c.eof (reader c.eof n) x s).1 (block c.eof (reader c.eof n) x s).2)
    (hg : g.Holds n .brace s (statements c.eof (reader c.eof n) .brace (some .closeBrace) s).1
      (statements c.eof (reader c.eof n) .brace (some .closeBrace) s).2) :
    block c.newEof sub' (c.lexeme x) (c.place s) = c.pair (block c.eof (reader c.eof n) x s) := by
  have hplace := (passage_statements n hs.place c.inOrder .brace (some .closeBrace)).end
  have hstatements : _ → statements c.newEof sub' .brace (some .closeBrace) (c.place s) = _ := fun hend =>
    statements_place_closed h (deep hg) (by decide) hs hend (g.succ hg)
  unfold block at hb ⊢
  generalize statements c.eof (reader c.eof n) .brace (some .closeBrace) s = r at *
  obtain ⟨ts, s₁⟩ := r
  have hclosed : c.IsLast ∨ s₁.isAt .closeBrace = true := hb.finished
  obtain ⟨hat, hadvance⟩ := (here hg hplace).isAt (.inr rfl)
  have hend : c.IsLast ∨ c.tail.length < s₁.remaining := by
    refine hclosed.imp_right fun hat => ?_
    cases hrest : s₁.rest with
    | nil => simp [Cursor.isAt, hrest] at hat
    | cons y ys =>
      have hle := (hadvance hat).1.le
      rw [advance_of_cons hrest] at hle
      rw [remaining, hrest]
      exact Nat.lt_succ_of_le hle
  have hbehind : (if s₁.isAt .closeBrace then (c.place s₁).advance else c.place s₁) =
      c.place (if s₁.isAt .closeBrace then s₁.advance else s₁) := by
    split
    · next hat => exact (hadvance hat).2
    · rfl
  rw [hstatements hend]
  simp only [several, hat, hbehind]
  exact Prod.ext (finish_place hclosed rfl x.span.start ts _) rfl

/-! ### Reserved words -/

theorem functionParts_place (h : g.Agrees n sub') (hs : c.Here s)
    (hg : g.Holds n context s (functionParts c.eof (reader c.eof n) context s).1
      (functionParts c.eof (reader c.eof n) context s).2) :
    functionParts c.newEof sub' context (c.place s) =
      c.several (functionParts c.eof (reader c.eof n) context s) := by
  obtain ⟨hat, -⟩ := hs.isAt (.inl rfl)
  cases hopen : s.isAt .openParen with
  | false =>
    rw [functionParts_of_ne hopen, functionParts_of_ne (hat.trans hopen)]
    rfl
  | true =>
    cases hrest : s.rest with
    | nil => simp [Cursor.isAt, hrest] at hopen
    | cons x xs =>
      have hx : x.kind = .openParen := by simpa [Cursor.isAt, hrest] using hopen
      have hin := hs.inside_of_not_barrier hrest fun hbarrier => by simp [Lexeme.IsBarrier, hx] at hbarrier
      have hnext := passage_next hs.place c.inOrder hrest
      have hformals := @passage_argumentList c.eof n c.all s x xs .closeParen hs.place c.inOrder hrest (.inl ⟨hx, rfl⟩)
      obtain ⟨r, hr⟩ : ∃ r, argumentList c.eof (reader c.eof n) .closeParen x ⟨xs, x.span.stop⟩ = r := ⟨_, rfl⟩
      have hlist : g.Holds n context s [r.1] r.2 → argumentList c.newEof sub' .closeParen (c.lexeme x)
          ⟨(c.place ⟨xs, x.span.stop⟩).rest, (x.span.relocate c.move).stop⟩ = c.pair r := by
        intro hg
        have hb := behind (g.succ hg) hnext
        rw [← hr] at hb ⊢
        exact argumentList_place h hin.here hb
      rw [hr] at hformals
      simp only [functionParts, hrest, hx, if_true, hr] at hg
      simp only [functionParts, hrest, hin.place, kind_lexeme, hx, if_true, hr]
      cases hclosed : isClosedList r.1 with
      | false =>
        simp only [hclosed, Bool.false_eq_true, if_false] at hg
        simp [hlist hg, pair, several, isClosedList_relocate, hclosed]
      | true =>
        simp only [hclosed, if_true] at hg
        have hfirst := first hg (passage_optional n hformals.end c.inOrder bodyPower context)
        have hbody := optional_place h (here hfirst hformals.end) (others hg hformals)
        simp [hlist hfirst, pair, several, isClosedList_relocate, hclosed, hbody]

theorem functionDefinition_place (h : g.Agrees n sub') (hs : c.Here s)
    (hb : g.Behind n context s (functionDefinition c.eof (reader c.eof n) context x s).1
      (functionDefinition c.eof (reader c.eof n) context x s).2) :
    functionDefinition c.newEof sub' context (c.lexeme x) (c.place s) =
      c.pair (functionDefinition c.eof (reader c.eof n) context x s) := by
  have hparts := functionParts_place h hs (hb.context rfl)
  rw [functionDefinition_eq, hparts, functionDefinition_eq]
  simp [pair, several, lastStopD_map, Kind.relocate, Span.relocate]

theorem not_isWord_of_barrier (word : String) (hx : x.IsBarrier) : x.isWord word = false := by
  rcases hx with ⟨hx, -⟩ | hx | hx <;> simp [Lexeme.isWord, hx]

/-- Whether an `else` belongs to the consequence before it is told by the line break where one counts. -/
theorem isElse_place (hs : c.Here s') (hg : g.Holds n context s ts s') (hp : Passage c.eof c.all s ts s')
    (hless : s'.remaining < s.remaining) : isElse context (c.place s') = isElse context s' := by
  refine hs.any_head? (fun y ys hin => ?_) fun y hy => by simp [not_isWord_of_barrier "else" hy]
  have hword : (c.lexeme y).isWord "else" = y.isWord "else" := rfl
  rw [hword]
  cases context with
  | top => rw [newlineBefore_lexeme (g.next hg (by decide) hp hless hin.rest)]
  | brace | bracket =>
    show (y.isWord "else" && (!(c.lexeme y).newlineBefore || true)) =
      (y.isWord "else" && (!y.newlineBefore || true))
    rw [Bool.or_true, Bool.or_true]

theorem branches_place (h : g.Agrees n sub') (hdeep : g.Deep n) (hs : c.Here s)
    (hg : g.Holds n context s (branches (reader c.eof n) context s).1 (branches (reader c.eof n) context s).2) :
    branches sub' context (c.place s) = c.several (branches (reader c.eof n) context s) := by
  cases hrun : (reader c.eof n).run bodyPower context s with
  | none =>
    simp only [branches, hrun, h.none hdeep hs hrun]
    rfl
  | some r =>
    obtain ⟨t, s₁⟩ := r
    have hp := passage_run hs.place c.inOrder hrun
    have hless := (reader c.eof n).shorter hrun
    cases helse : isElse context s₁ with
    | false =>
      simp only [branches, hrun, helse, Bool.false_eq_true, if_false] at hg
      have hsame := isElse_place (here hg hp.end) hg hp hless
      simp only [branches, hrun, h.some hs hrun hg, pair, hsame, helse]
      rfl
    | true =>
      simp only [branches, hrun, helse, if_true] at hg
      have hafter := (Passage.refl hp.end c.inOrder).advanced
      have hfirst : g.Holds n context s [t] s₁ :=
        first hg (hafter.trans (passage_optional n hafter.end c.inOrder bodyPower context))
      have hsame := isElse_place (here hfirst hp.end) hfirst hp hless
      obtain ⟨hhere, hadvance⟩ := (here hfirst hp.end).advance_of_any
        (fun y hy => by simp [not_isWord_of_barrier "else" hy]) helse
      have halternative := optional_place h hhere (others hg hp.advanced)
      simp only [branches, hrun, h.some hs hrun hfirst, pair, hsame, helse, if_true, hadvance, halternative]
      rfl

theorem ifExpression_place (h : g.Agrees n sub') (hs : c.Here s)
    (hb : g.Behind n context s (ifExpression c.eof (reader c.eof n) context x s).1
      (ifExpression c.eof (reader c.eof n) context x s).2) :
    ifExpression c.newEof sub' context (c.lexeme x) (c.place s) =
      c.pair (ifExpression c.eof (reader c.eof n) context x s) := by
  have hhead := passage_condition? n hs.place c.inOrder
  have hcondition := condition?_place h hs
  rw [ifExpression_eq] at hb ⊢
  rw [ifExpression_eq]
  generalize condition? c.eof (reader c.eof n) s = r at *
  obtain ⟨closed, head, s₁⟩ := r
  cases closed with
  | false =>
    have hb : g.Behind n context s (finish c.eof .ifExpression x.span.start false head s₁) s₁ := hb
    rw [hcondition hb.finished (hb.part (List.Subset.refl _) List.suffix_rfl)]
    exact Prod.ext (finish_place (k := .ifExpression) hb.finished rfl x.span.start head s₁) rfl
  | true =>
    have hb : g.Behind n context s (finish c.eof .ifExpression x.span.start true
        (head ++ (branches (reader c.eof n) context s₁).1) (branches (reader c.eof n) context s₁).2)
        (branches (reader c.eof n) context s₁).2 := hb
    have hbranches := passage_branches n hhead.end c.inOrder context
    have hinner := hb.part (List.subset_append_left ..) hbranches.suffix
    have hall : g.Holds n context s (head ++ (branches (reader c.eof n) context s₁).1) _ := hb.context rfl
    have hbehind := branches_place h (deep hinner) (here hinner hhead.end) (g.right hall hhead)
    rw [hcondition (.inr rfl) hinner]
    simp only [several, if_true, hbehind, ← List.map_append]
    exact Prod.ext (finish_place (.inr rfl) rfl x.span.start _ _) rfl

/-- The body of a loop, behind a head that was read in the copy too. -/
theorem loopBody_place (h : g.Agrees n sub') (hs₁ : c.Here s₁) (hhead : Passage c.eof c.all s ts s₁)
    (hb : g.Behind n context s (loopBody c.eof (reader c.eof n) context x closed ts s₁).1
      (loopBody c.eof (reader c.eof n) context x closed ts s₁).2) :
    loopBody c.newEof sub' context (c.lexeme x) closed (ts.map (relocate c.move)) (c.place s₁) =
      c.pair (loopBody c.eof (reader c.eof n) context x closed ts s₁) := by
  cases closed with
  | false =>
    have hb : g.Behind n context s (finish c.eof .loopExpression x.span.start false ts s₁) s₁ := hb
    exact Prod.ext (finish_place (k := .loopExpression) hb.finished rfl x.span.start ts s₁) rfl
  | true =>
    rw [loopBody_of_closed] at hb ⊢
    have hall : g.Holds n context s (ts ++ (optional (reader c.eof n) bodyPower context s₁).1) _ := hb.context rfl
    rw [loopBody_of_closed, optional_place h hs₁ (g.right hall hhead)]
    simp only [several, ← List.map_append]
    exact Prod.ext (finish_place (.inr rfl) rfl x.span.start _ _) rfl

theorem Guard.Behind.loopHead
    (hb : g.Behind n context s (loopBody c.eof (reader c.eof n) context x closed ts s₁).1
      (loopBody c.eof (reader c.eof n) context x closed ts s₁).2) (hs₁ : s₁.PlaceOf c.all) :
    (c.IsLast ∨ closed = true) ∧ g.Holds n .bracket s ts s₁ := by
  cases closed with
  | false =>
    have hb : g.Behind n context s (finish c.eof .loopExpression x.span.start false ts s₁) s₁ := hb
    exact ⟨hb.finished, hb.part (List.Subset.refl _) List.suffix_rfl⟩
  | true =>
    rw [loopBody_of_closed] at hb
    exact ⟨.inr rfl, hb.part (List.subset_append_left ..) (passage_optional n hs₁ c.inOrder bodyPower context).suffix⟩

theorem whileLoop_place (h : g.Agrees n sub') (hs : c.Here s)
    (hb : g.Behind n context s (whileLoop c.eof (reader c.eof n) context x s).1
      (whileLoop c.eof (reader c.eof n) context x s).2) :
    whileLoop c.newEof sub' context (c.lexeme x) (c.place s) =
      c.pair (whileLoop c.eof (reader c.eof n) context x s) := by
  have hhead := passage_condition? n hs.place c.inOrder
  have hb : g.Behind n context s (loopBody c.eof (reader c.eof n) context x (condition? c.eof (reader c.eof n) s).1
      (condition? c.eof (reader c.eof n) s).2.1 (condition? c.eof (reader c.eof n) s).2.2).1 _ := hb
  obtain ⟨hclosed, hinner⟩ := hb.loopHead hhead.end
  simp only [whileLoop, condition?_place h hs hclosed hinner, several]
  exact loopBody_place h (here hinner hhead.end) hhead hb

theorem skipIn_place (hs : c.Here s) : c.Here (skipIn s) ∧ skipIn (c.place s) = c.place (skipIn s) := by
  have hany : (c.place s).rest.head?.any (Lexeme.isWord · "in") = s.rest.head?.any (Lexeme.isWord · "in") :=
    hs.any_head? (fun _ _ _ => rfl) fun y hy => ⟨not_isWord_of_barrier "in" hy, not_isWord_of_barrier "in" hy⟩
  unfold skipIn
  rw [hany]
  split
  · next hin => exact hs.advance_of_any (fun y hy => not_isWord_of_barrier "in" hy) hin
  · exact ⟨hs, rfl⟩

theorem loopVariable_place (hs : c.Here s) :
    c.Here (loopVariable s).2 ∧
      loopVariable (c.place s) = ((loopVariable s).1.map c.lexeme, c.place (loopVariable s).2) := by
  have hbarrier : ∀ y : Lexeme, y.IsBarrier → (y.kind == .identifier) = false :=
    fun y hy => beq_kind_of_barrier hy (by decide)
  have hname : (c.place s).rest.head?.filter (·.kind == .identifier) =
      (s.rest.head?.filter (·.kind == .identifier)).map c.lexeme :=
    hs.filter_head? (fun _ _ _ => rfl) fun y hy => ⟨hbarrier y hy, hbarrier y hy⟩
  unfold loopVariable
  dsimp only
  rw [hname, Option.isSome_map]
  split
  · next hsome =>
    rw [Option.isSome_filter] at hsome
    obtain ⟨hhere, hadvance⟩ := hs.advance_of_any hbarrier hsome
    rw [hadvance]
    exact ⟨hhere, rfl⟩
  · exact ⟨hs, rfl⟩

theorem forLoop_place (h : g.Agrees n sub') (hs : c.Here s)
    (hb : g.Behind n context s (forLoop c.eof (reader c.eof n) context x s).1
      (forLoop c.eof (reader c.eof n) context x s).2) :
    forLoop c.newEof sub' context (c.lexeme x) (c.place s) =
      c.pair (forLoop c.eof (reader c.eof n) context x s) := by
  obtain ⟨hat, hadvance⟩ := hs.isAt (.inl rfl)
  rw [forLoop_eq] at hb ⊢
  rw [forLoop_eq, hat]
  cases hopen : s.isAt .openParen with
  | false =>
    simp only [Bool.false_eq_true, if_false]
    exact Prod.ext (finish_place (.inr rfl) rfl x.span.start [] s) rfl
  | true =>
    simp only [hopen, if_true] at hb ⊢
    obtain ⟨hhere, hadvance⟩ := hadvance hopen
    obtain ⟨hvariable, hvariable'⟩ := loopVariable_place hhere
    obtain ⟨hin, hin'⟩ := skipIn_place hvariable
    have hp : Passage c.eof c.all s ((loopVariable s.advance).1.map (·.leaf .identifier)).toList
        (skipIn (loopVariable s.advance).2) := ((Passage.refl hs.place c.inOrder).advanced.trans
        (passage_loopVariable hhere.place c.inOrder)).advancedIf _
    have hhead := hp.trans (passage_condition n hin.place c.inOrder)
    obtain ⟨hclosed, hinner⟩ := hb.loopHead hhead.end
    have hcondition := condition_place h hin hclosed (g.right hinner hp)
    have hname : (((loopVariable s.advance).1.map c.lexeme).map (·.leaf .identifier)).toList =
        ((loopVariable s.advance).1.map (·.leaf .identifier)).toList.map (relocate c.move) := by
      cases (loopVariable s.advance).1 with
      | none => rfl
      | some x => exact congrArg (fun t => [t]) (leaf_lexeme rfl)
    rw [hadvance, hvariable', hin', hcondition, ← loopBody_place h (here hinner hhead.end) hhead hb]
    simp only [several, hname, List.map_append]

/-! ### Operands -/

theorem wordExpression_place (h : g.Agrees n sub') (hs : c.Here s)
    (hb : ∀ r ∈ wordExpression c.eof (reader c.eof n) context x s, g.Behind n context s r.1 r.2) :
    wordExpression c.newEof sub' context (c.lexeme x) (c.place s) =
      (wordExpression c.eof (reader c.eof n) context x s).map c.pair := by
  unfold wordExpression at hb ⊢
  rw [text_lexeme]
  split at hb
  · exact congrArg some (functionDefinition_place h hs (hb _ rfl))
  · exact congrArg some (ifExpression_place h hs (hb _ rfl))
  · exact congrArg some (forLoop_place h hs (hb _ rfl))
  · exact congrArg some (whileLoop_place h hs (hb _ rfl))
  · exact congrArg some (loopBody_place h hs (.refl hs.place c.inOrder) (hb _ rfl))
  · rfl
  · rfl
  · exact congrArg (fun t => some (t, c.place s)) (leaf_lexeme rfl)
  · exact congrArg (fun t => some (t, c.place s)) (leaf_lexeme rfl)
  · exact congrArg (fun t => some (t, c.place s)) (leaf_lexeme rfl)

theorem operatorExpression_place (h : g.Agrees n sub') (hs : c.Here s)
    (hb : ∀ r ∈ operatorExpression c.eof (reader c.eof n) context x s, g.Behind n context s r.1 r.2) :
    operatorExpression c.newEof sub' context (c.lexeme x) (c.place s) =
      (operatorExpression c.eof (reader c.eof n) context x s).map c.pair := by
  unfold operatorExpression at hb ⊢
  rw [text_lexeme]
  by_cases hlambda : x.text = "\\"
  · rw [if_pos hlambda] at hb
    rw [if_pos hlambda, if_pos hlambda]
    exact congrArg some (functionDefinition_place h hs (hb _ rfl))
  · rw [if_neg hlambda] at hb
    rw [if_neg hlambda, if_neg hlambda]
    cases hpower : unaryPower? x.text with
    | none => rfl
    | some power =>
      rw [hpower] at hb
      have hoperand := optional_place h hs ((hb _ rfl).context rfl)
      simp [hoperand, several, pair, lastStopD_map, Kind.relocate, Span.relocate]

theorem operand_place (h : g.Agrees n sub') (hs : c.Here s) (hin : c.Inside s x xs)
    (hg : ∀ r ∈ operand c.eof (reader c.eof n) context x ⟨xs, x.span.stop⟩, g.Holds (n + 1) context s [r.1] r.2) :
    operand c.newEof sub' context (c.lexeme x) (c.place ⟨xs, x.span.stop⟩) =
      (operand c.eof (reader c.eof n) context x ⟨xs, x.span.stop⟩).map c.pair := by
  have hnext := passage_next hs.place c.inOrder hin.rest
  have hleaf : ∀ k : Tree.Kind, k.relocate c.move = k →
      some ((c.lexeme x).leaf k, c.place ⟨xs, x.span.stop⟩) = some (c.pair (x.leaf k, ⟨xs, x.span.stop⟩)) :=
    fun k hk => congrArg (fun t => some (t, c.place ⟨xs, x.span.stop⟩)) (leaf_lexeme hk)
  unfold operand at hg ⊢
  rw [kind_lexeme]
  split at hg
  · exact hleaf _ rfl
  · exact hleaf _ rfl
  · exact hleaf _ rfl
  · exact wordExpression_place h hin.here fun r hr => behind (hg r hr) hnext
  · exact congrArg some (parenthesized_place h hin.here (behind (hg _ rfl) hnext))
  · exact congrArg some
      (block_place h hin.here (behind (hg _ rfl) hnext) (g.block hs.place hin.rest (hg _ rfl)))
  · exact operatorExpression_place h hin.here fun r hr => behind (hg r hr) hnext
  · rfl

/-! ### Operators -/

theorem extend_lexeme (hin : c.Inside s x xs) :
    extend c.newEof sub' power context left (c.place s) =
      if (c.lexeme x).newlineBefore && context.endsAtNewline then (left, c.place s)
      else if x.kind = .openParen ∧ power ≤ postfixPower then
        let r := argumentList c.newEof sub' .closeParen (c.lexeme x) (c.place ⟨xs, x.span.stop⟩)
        extend c.newEof sub' power context (.node .call (left.span.cover r.1.span) [left, r.1]) r.2
      else if x.kind = .openBracket ∧ power ≤ postfixPower then
        let r := index c.newEof sub' left (c.lexeme x) (c.place ⟨xs, x.span.stop⟩)
        extend c.newEof sub' power context r.1 r.2
      else
        match binaryAt? power x with
        | none => (left, c.place s)
        | some right =>
          let r := optional sub' right context (c.place ⟨xs, x.span.stop⟩)
          extend c.newEof sub' power context
            (.node (.binary (x.span.relocate c.move)) ⟨left.span.start, lastStopD r.1 (c.move x.span.stop)⟩
              (left :: r.1)) r.2 := by
  rw [extend_of_cons hin.place]
  rfl

theorem newlineBefore_of_lexeme {b : Bool} (h : ¬ (x.newlineBefore && b) = true) :
    ¬ ((c.lexeme x).newlineBefore && b) = true := by
  simp only [lexeme, Bool.and_eq_true] at h ⊢
  exact fun hx => h ⟨hx.1.1, hx.2⟩

/-- The expression so far is part of the whole one, so the condition holds of it if it holds of that. -/
theorem extend_place (h : g.Agrees n sub') (hs : s.PlaceOf c.all)
    (hgrown : Grown c.eof c.all (reader c.eof n) power context left s₁) (hstart : s.reach c.eof ≤ left.span.start)
    (hless : s₁.remaining < s.remaining)
    (hg : g.Holds (n + 1) context s [(extend c.eof (reader c.eof n) power context left s₁).1]
      (extend c.eof (reader c.eof n) power context left s₁).2) :
    g.Holds (n + 1) context s [left] s₁ ∧
      extend c.newEof sub' power context (left.relocate c.move) (c.place s₁) =
        c.pair (extend c.eof (reader c.eof n) power context left s₁) := by
  have hall := c.inOrder
  fun_induction extend c.eof (reader c.eof n) power context left s₁ with
  | case1 left s₁ hrest => exact ⟨hg, extend_of_barrier (rest_place_of_nil (c := c) hrest ▸ c.newEnds)⟩
  | case2 left s₁ x xs hrest _ hline =>
    refine ⟨hg, ?_⟩
    have hcontext : context ≠ .bracket := by
      rintro rfl
      simp [Context.endsAtNewline] at hline
    have hleft := passage_grown hall hs hgrown hstart hless
    have hkeeps := g.next hg hcontext hleft hless hrest
    rcases (here hg hleft.end).cases with ⟨y, ys, hin⟩ | hend
    · obtain ⟨rfl, rfl⟩ := List.cons.inj (hin.rest.symm.trans hrest)
      rw [extend_lexeme hin, newlineBefore_lexeme hkeeps, if_pos hline]
      rfl
    · exact extend_of_barrier hend.new
  | case3 left s₁ x xs hrest _ p hline hx r hlt ih =>
    have hleft := passage_grown hall hs hgrown hstart hless
    have hlist : Passage c.eof c.all s₁ [r.1] r.2 := passage_argumentList hleft.end hall hrest (.inl ⟨hx.1, rfl⟩)
    have hgo : goesOn power context x = true := by simp [goesOn, hline, hx.1, hx.2]
    have hreach : s.reach c.eof ≤ (left.span.cover r.1.span).start :=
      Nat.le_min.2 ⟨hstart, Nat.le_trans hleft.reads.reach_le ((hleft.end.ordered hall).next hrest).1⟩
    obtain ⟨hcall, heq⟩ := ih (.call hgrown hrest hgo hx.1) hreach (Nat.lt_trans hlt hless) hg
    have hparts : g.Holds n context s [left, r.1] r.2 := g.children hcall rfl
    have hfirst := first hparts hlist
    have hin := (here hfirst hleft.end).inside_of_not_barrier hrest
      fun hbarrier => by simp [Lexeme.IsBarrier, hx.1] at hbarrier
    have hplace : argumentList c.newEof sub' .closeParen (c.lexeme x) (c.place p) = c.pair r :=
      argumentList_place h hin.here
        (behind (g.succ (others hparts hleft)) (passage_next hleft.end hall hrest))
    refine ⟨g.succ hfirst, ?_⟩
    rw [extend_lexeme hin, if_neg (newlineBefore_of_lexeme hline), if_pos hx, hplace, ← heq]
    simp [pair, cover_relocate, Kind.relocate]
  | case4 left s₁ x xs hrest _ p hline hparen hx r hlt ih =>
    have hleft := passage_grown hall hs hgrown hstart hless
    have hgo : goesOn power context x = true := by simp [goesOn, hline, hx.1, hx.2]
    obtain ⟨list, hchildren, hlist⟩ := @passage_index c.eof n c.all s₁ x xs left hleft.end hall hrest hx.1
    obtain ⟨hindex, heq⟩ := ih (.index hgrown hrest hgo hx.1) hstart (Nat.lt_trans hlt hless) hg
    have hparts : g.Holds n context s r.1.children r.2 := g.children hindex rfl
    rw [hchildren] at hparts
    have hfirst := first hparts hlist
    have hin := (here hfirst hleft.end).inside_of_not_barrier hrest
      fun hbarrier => by simp [Lexeme.IsBarrier, hx.1] at hbarrier
    have hplace : index c.newEof sub' (left.relocate c.move) (c.lexeme x) (c.place p) = c.pair r := by
      have hbehind := passage_next hleft.end hall hrest
      exact index_place h (here hfirst hleft.end) hin
        (g.below hindex (hbehind.suffix.trans hleft.suffix) List.suffix_rfl (List.Subset.refl _))
    refine ⟨g.succ hfirst, ?_⟩
    rw [extend_lexeme hin, if_neg (newlineBefore_of_lexeme hline), if_neg hparen, if_pos hx, hplace]
    exact heq
  | case5 left s₁ x xs hrest _ hline hparen hbracket hbinary =>
    refine ⟨hg, ?_⟩
    rcases (here hg (passage_grown hall hs hgrown hstart hless).end).cases with ⟨y, ys, hin⟩ | hend
    · obtain ⟨rfl, rfl⟩ := List.cons.inj (hin.rest.symm.trans hrest)
      rw [extend_lexeme hin, if_neg (newlineBefore_of_lexeme hline), if_neg hparen, if_neg hbracket, hbinary]
      rfl
    · exact extend_of_barrier hend.new
  | case6 left s₁ x xs hrest _ p hline hparen hbracket right hbinary r hlt ih =>
    have hleft := passage_grown hall hs hgrown hstart hless
    have hbehind := passage_next hleft.end hall hrest
    have hright : Passage c.eof c.all s₁ r.1 r.2 :=
      hbehind.trans (passage_optional n hbehind.end hall right context)
    have hgo : goesOn power context x = true := by simp [goesOn, hline, hbinary]
    obtain ⟨hnode, heq⟩ := ih (.binary hgrown hrest hgo hbinary) hstart (Nat.lt_trans hlt hless) hg
    have hparts : g.Holds n context s (left :: r.1) r.2 := g.children hnode rfl
    have hfirst := first hparts hright
    have hin := (here hfirst hleft.end).inside_of_not_barrier hrest fun hbarrier => by
      rw [binaryAt?_of_barrier hbarrier] at hbinary
      cases hbinary
    have hplace : optional sub' right context (c.place p) = c.several r :=
      optional_place h hin.here (later (others hparts hleft) hbehind)
    refine ⟨g.succ hfirst, ?_⟩
    rw [extend_lexeme hin, if_neg (newlineBefore_of_lexeme hline), if_neg hparen, if_neg hbracket, hbinary]
    dsimp only
    rw [hplace, ← heq]
    simp [several, lastStopD_map, Kind.relocate, Span.relocate]

/-! ### Readers -/

theorem expression_place (h : g.Agrees n sub') (hs : c.Here s)
    (hg : ∀ r ∈ expression c.eof (reader c.eof n) power context s, g.Holds (n + 1) context s [r.1] r.2) :
    expression c.newEof sub' power context (c.place s) =
      (expression c.eof (reader c.eof n) power context s).map c.pair := by
  rcases hs.cases with ⟨x, xs, hin⟩ | hend
  · have hoperand : _ → operand c.newEof sub' context (c.lexeme x) (c.place ⟨xs, x.span.stop⟩) = _ :=
      operand_place h hs hin
    have hplace : expression c.newEof sub' power context (c.place s) =
        (operand c.newEof sub' context (c.lexeme x) (c.place ⟨xs, x.span.stop⟩)).map fun r =>
          extend c.newEof sub' power context r.1 r.2 := expression_of_cons hin.place
    rw [expression_of_cons hin.rest] at hg ⊢
    rw [hplace]
    cases hr : operand c.eof (reader c.eof n) context x ⟨xs, x.span.stop⟩ with
    | none =>
      rw [hoperand (by simp [hr]), hr]
      rfl
    | some r =>
      obtain ⟨left, s₁⟩ := r
      have hsub : (reader c.eof n).InOrder c.eof := inOrder_reader c.eof n
      obtain ⟨h1, h2⟩ := (hs.place.ordered c.inOrder).next hin.rest
      have hstart : s.reach c.eof ≤ left.span.start := (stands_operand hsub h2 hr).start_eq ▸ h1
      have hless : s₁.remaining < s.remaining := by
        have hle := remaining_operand_le c.eof (reader c.eof n) hr
        simp only [remaining, hin.rest, List.length_cons] at hle ⊢
        omega
      rw [hr] at hg hoperand
      obtain ⟨hleft, heq⟩ := extend_place h hs.place (.operand hs.place hin.rest hr) hstart hless (hg _ rfl)
      rw [hoperand (by simpa using hleft)]
      exact congrArg some heq
  · rw [expression_of_barrier hend.old, expression_of_barrier hend.new]
    rfl

theorem bailOut_place (hlast : c.IsLast) (s : Cursor) :
    bailOut c.newEof (c.place s) = (bailOut c.eof s).map c.pair := by
  have hplace : (c.place s).rest = s.rest.map c.lexeme := by rw [hlast.place_eq]
  cases hrest : s.rest with
  | nil =>
    rw [hrest] at hplace
    simp [bailOut, hrest, hplace]
  | cons x xs =>
    have hstop : ((xs.map c.lexeme).getLast?.getD (c.lexeme x)).span.stop = c.move (xs.getLast?.getD x).span.stop := by
      rw [List.getLast?_map]
      cases xs.getLast? <;> rfl
    rw [hrest, List.map_cons] at hplace
    simp only [bailOut, hrest, hplace, hstop, Option.map_some, pair, ← errorTree_place (.inl hlast), hlast.newEof]
    simp [place, hlast.newTail, span_lexeme, Span.relocate]

theorem Guard.Agrees.succ (h : g.Agrees n (reader c.newEof m)) : g.Agrees (n + 1) (reader c.newEof (m + 1)) := by
  refine fun {power context s} hs hg => expression_place h hs fun r hr => ?_
  have hr : (reader c.eof (n + 1)).run power context s = .some r := hr
  simpa only [optional, hr] using hg

/-- Readers read the copy alike at every level if they do where expressions may not nest at all. -/
theorem Guard.Agrees.add (h : g.Agrees 0 (reader c.newEof m)) (n : Nat) : g.Agrees n (reader c.newEof (m + n)) := by
  induction n with
  | zero => exact h
  | succ n ih => exact ih.succ

theorem Guard.agrees_zero (hlast : c.IsLast) : g.Agrees 0 (reader c.newEof 0) :=
  fun {_ _ s} _ _ => bailOut_place hlast s

end RSource.Grammar.Copy
