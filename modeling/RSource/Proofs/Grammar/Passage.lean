import RSource.Proofs.Grammar.Shape
import RSource.Proofs.Grammar.Soundness

/-!
# From place to place

A `Passage` is what a reader makes of the lexemes between two places of them: trees in order, all of known
forms. Passages can be put behind one another, and each part of the grammar is one.
-/

namespace RSource.Grammar
open RSource.Tree Cursor

variable {eof n : Nat} {all : List Lexeme} {s s' s₁ s₂ : Cursor} {x : Lexeme} {xs : List Lexeme}
  {t left : Tree} {ts us : List Tree} {context : Context} {closer : Token.Kind} {power : Nat}
  {stops : Lexeme → Bool}

/-! ### Places -/

theorem suffix_of_le (hs : s.PlaceOf all) (hs' : s'.PlaceOf all) (hle : s'.remaining ≤ s.remaining) :
    s'.rest <:+ s.rest :=
  List.suffix_of_suffix_length_le hs'.suffix hs.suffix hle

/-- A place is the beginning, or a lexeme ends there. -/
theorem Cursor.PlaceOf.lastStop_eq (h : s.PlaceOf all) :
    s.lastStop = 0 ∨ ∃ y ∈ all, y.span.stop = s.lastStop := by
  induction h with
  | start => exact .inl rfl
  | @advance s h ih =>
    cases hrest : s.rest with
    | nil => rwa [advance_of_nil hrest]
    | cons x xs =>
      rw [advance_of_cons hrest]
      exact .inr ⟨x, h.mem hrest, rfl⟩

/-- A place but the first one is right behind one of the lexemes. -/
theorem Cursor.PlaceOf.exists_last (hs : s.PlaceOf all)
    (hlt : s.remaining < all.length) : ∃ P x, all = P ++ x :: s.rest ∧ s.lastStop = x.span.stop := by
  induction hs with
  | start => exact absurd hlt (Nat.lt_irrefl _)
  | @advance s hs ih =>
    cases hrest : s.rest with
    | nil =>
      rw [advance_of_nil hrest] at hlt ⊢
      exact ih hlt
    | cons x xs =>
      rw [advance_of_cons hrest]
      obtain ⟨P, hP⟩ := hs.suffix
      exact ⟨P, x, by rw [← hP, hrest], rfl⟩

/-! ### Passages -/

/-- The trees were read on the way from one place of the lexemes to another. -/
structure Passage (eof : Nat) (all : List Lexeme) (s : Cursor) (ts : List Tree) (s' : Cursor) : Prop where
  place : s.PlaceOf all
  reads : Reads eof s ts s'
  yields : Yields eof all ts s'
  suffix : s'.rest <:+ s.rest

theorem Passage.of_le (hs : s.PlaceOf all) (hreads : Reads eof s ts s') (hyields : Yields eof all ts s')
    (hle : s'.remaining ≤ s.remaining) : Passage eof all s ts s' :=
  ⟨hs, hreads, hyields, suffix_of_le hs hyields.place hle⟩

theorem Passage.end (h : Passage eof all s ts s') : s'.PlaceOf all :=
  h.yields.place

theorem Passage.trans (h : Passage eof all s ts s₁) (h' : Passage eof all s₁ us s₂) :
    Passage eof all s (ts ++ us) s₂ :=
  ⟨h.place, h.reads.trans h'.reads, h.yields.append h'.yields, h'.suffix.trans h.suffix⟩

theorem suffix_advance (s : Cursor) : s.advance.rest <:+ s.rest := by
  cases hrest : s.rest with
  | nil =>
    simp only [advance_of_nil hrest, hrest, List.suffix_rfl]
  | cons x xs =>
    rw [advance_of_cons hrest]
    exact List.suffix_cons x xs

theorem suffix_skipLoop (depth last : Nat) (xs : List Lexeme) :
    (skipLoop stops depth last xs).2.rest <:+ xs := by
  induction xs generalizing depth last with
  | nil => exact List.suffix_rfl
  | cons x xs ih =>
    rw [skipLoop]
    split
    · exact List.suffix_rfl
    · exact (ih ..).trans (List.suffix_cons x xs)

theorem Passage.refl (hs : s.PlaceOf all) (hall : InOrder eof 0 all) : Passage eof all s [] s :=
  ⟨hs, .refl (hs.ordered hall), .nil hs, List.suffix_rfl⟩

theorem Passage.advanced (h : Passage eof all s ts s') : Passage eof all s ts s'.advance :=
  ⟨h.place, h.reads.advanced, h.yields.advanced, (suffix_advance s').trans h.suffix⟩

theorem Passage.advancedIf (h : Passage eof all s ts s') (b : Bool) :
    Passage eof all s ts (if b then s'.advance else s') := by
  cases b with
  | false => exact h
  | true => exact h.advanced

/-! ### Passages of the readers -/

theorem passage_next (hs : s.PlaceOf all) (hall : InOrder eof 0 all) (hrest : s.rest = x :: xs) :
    Passage eof all s [] ⟨xs, x.span.stop⟩ := by
  refine ⟨hs, .next (hs.ordered hall) hrest, .nil (hs.next hrest), ?_⟩
  rw [hrest]
  exact List.suffix_cons x xs

theorem passage_run (hs : s.PlaceOf all) (hall : InOrder eof 0 all)
    (h : (reader eof n).run power context s = some (t, s')) : Passage eof all s [t] s' := by
  have horder : (reader eof n).InOrder eof := inOrder_reader eof n
  have hyields : (reader eof n).Yielding eof all := yielding_reader eof all n
  exact .of_le hs (horder (hs.ordered hall) h) (hyields hs h) (Nat.le_of_lt ((reader eof n).shorter h))

theorem passage_optional (n : Nat) (hs : s.PlaceOf all) (hall : InOrder eof 0 all) (power : Nat)
    (context : Context) :
    Passage eof all s (optional (reader eof n) power context s).1 (optional (reader eof n) power context s).2 := by
  have horder : (reader eof n).InOrder eof := inOrder_reader eof n
  have hyields : (reader eof n).Yielding eof all := yielding_reader eof all n
  exact .of_le hs (reads_optional horder (hs.ordered hall) power context)
    (yields_optional hyields hs power context) (remaining_optional_le ..)

theorem passage_leaf (hs : s.PlaceOf all) (hall : InOrder eof 0 all) (hrest : s.rest = x :: xs)
    {k : Tree.Kind} (hk : k = .identifier ∨ k = .literal ∨ k = .error false) :
    Passage eof all s [x.leaf k] ⟨xs, x.span.stop⟩ := by
  obtain ⟨h1, h2⟩ := (hs.ordered hall).next hrest
  refine ⟨hs, (Stands.leaf h2 k).reads h1, yields_leaf hs hrest hk, ?_⟩
  rw [hrest]
  exact List.suffix_cons x xs

theorem passage_skip (hs : s.PlaceOf all) (hall : InOrder eof 0 all) (hrest : s.rest = x :: xs) :
    Passage eof all s [(skip eof stops x xs).1] (skip eof stops x xs).2 := by
  refine ⟨hs, reads_skip (hs.ordered hall) hrest, yields_skip hs hrest, ?_⟩
  rw [hrest]
  exact (suffix_skipLoop ..).trans (List.suffix_cons x xs)

theorem passage_statements (n : Nat) (hs : s.PlaceOf all) (hall : InOrder eof 0 all) (context : Context)
    (closer : Option Token.Kind) :
    Passage eof all s (statements eof (reader eof n) context closer s).1
      (statements eof (reader eof n) context closer s).2 := by
  have horder : (reader eof n).InOrder eof := inOrder_reader eof n
  have hyields : (reader eof n).Yielding eof all := yielding_reader eof all n
  exact .of_le hs (reads_statements horder (hs.ordered hall) context closer).1
    (yields_statements hyields hs context closer) (remaining_statements_le ..)

theorem Passage.statement (h : Passage eof all s [t] s') :
    Passage eof all s [.node .expressionStatement t.span [t]] s' :=
  ⟨h.place, h.reads.wrap, yields_statement h.yields, h.suffix⟩

theorem passage_condition (n : Nat) (hs : s.PlaceOf all) (hall : InOrder eof 0 all) :
    Passage eof all s (condition eof (reader eof n) s).2.1 (condition eof (reader eof n) s).2.2 := by
  have horder : (reader eof n).InOrder eof := inOrder_reader eof n
  have hyields : (reader eof n).Yielding eof all := yielding_reader eof all n
  exact .of_le hs (reads_condition horder (hs.ordered hall)).1 (yields_condition hyields hs)
    (remaining_condition_le ..)

theorem passage_condition? (n : Nat) (hs : s.PlaceOf all) (hall : InOrder eof 0 all) :
    Passage eof all s (condition? eof (reader eof n) s).2.1 (condition? eof (reader eof n) s).2.2 := by
  have horder : (reader eof n).InOrder eof := inOrder_reader eof n
  have hyields : (reader eof n).Yielding eof all := yielding_reader eof all n
  exact .of_le hs (reads_condition? horder (hs.ordered hall)).1 (yields_condition? hyields hs)
    (remaining_condition?_le ..)

theorem passage_argumentList (hs : s.PlaceOf all) (hall : InOrder eof 0 all) (hrest : s.rest = x :: xs)
    (hx : x.kind = .openParen ∧ closer = .closeParen ∨ x.kind = .openBracket ∧ closer = .closeBracket) :
    Passage eof all s [(argumentList eof (reader eof n) closer x ⟨xs, x.span.stop⟩).1]
      (argumentList eof (reader eof n) closer x ⟨xs, x.span.stop⟩).2 := by
  have horder : (reader eof n).InOrder eof := inOrder_reader eof n
  obtain ⟨h1, h2⟩ := (hs.ordered hall).next hrest
  refine .of_le hs ((@argumentList_spec _ _ _ closer horder _ h2).1.reads h1)
    (yields_argumentList (yielding_reader eof all n) hs hrest hx) ?_
  have hle := remaining_argumentList_le eof (reader eof n) closer x ⟨xs, x.span.stop⟩
  simp only [remaining, hrest, List.length_cons] at hle ⊢
  omega

theorem passage_branches (n : Nat) (hs : s.PlaceOf all) (hall : InOrder eof 0 all) (context : Context) :
    Passage eof all s (branches (reader eof n) context s).1 (branches (reader eof n) context s).2 := by
  unfold branches
  cases hrun : (reader eof n).run bodyPower context s with
  | none => exact .refl hs hall
  | some r =>
    have hconsequence := passage_run hs hall hrun
    dsimp only
    split
    · exact hconsequence.advanced.trans (passage_optional n hconsequence.advanced.end hall bodyPower context)
    · exact hconsequence

theorem passage_loopVariable (hs : s.PlaceOf all) (hall : InOrder eof 0 all) :
    Passage eof all s ((loopVariable s).1.map (·.leaf .identifier)).toList (loopVariable s).2 := by
  unfold loopVariable
  dsimp only
  cases hfilter : s.rest.head?.filter fun x => x.kind == .identifier with
  | none => exact .refl hs hall
  | some y =>
    obtain ⟨ys, hys, -⟩ := rest_of_head?_filter hfilter
    have hleaf := passage_leaf hs hall hys (.inl rfl)
    rw [← advance_of_cons hys] at hleaf
    exact hleaf

theorem passage_index {object : Tree} (hs : s.PlaceOf all) (hall : InOrder eof 0 all) (hrest : s.rest = x :: xs)
    (hx : x.kind = .openBracket) :
    ∃ list, (index eof (reader eof n) object x ⟨xs, x.span.stop⟩).1.children = [object, list] ∧
      Passage eof all s [list] (index eof (reader eof n) object x ⟨xs, x.span.stop⟩).2 := by
  rw [index_eq]
  refine ⟨_, rfl, ?_⟩
  unfold closeIndex
  refine Passage.advancedIf ?_ _
  split
  · rename_i y hy
    obtain ⟨ys, hys, hy'⟩ := rest_of_head?_filter hy
    simp only [Bool.and_eq_true, beq_iff_eq] at hy'
    rw [advance_of_cons hys]
    exact (passage_next hs hall hrest).trans
      (passage_argumentList (hs.next hrest) hall hys (.inr ⟨hy'.1, rfl⟩))
  · exact passage_argumentList hs hall hrest (.inr ⟨hx, rfl⟩)

/-- An expression as far as it is read is what a reader has passed. -/
theorem passage_grown (hall : InOrder eof 0 all) (hs : s.PlaceOf all)
    (h : Grown eof all (reader eof n) power context left s₁) (hstart : s.reach eof ≤ left.span.start)
    (hless : s₁.remaining < s.remaining) : Passage eof all s [left] s₁ := by
  have hyields : Yields eof all [left] s₁ := h.yields (yielding_reader eof all n)
  exact .of_le hs ((h.stands hall).reads hstart) hyields (Nat.le_of_lt hless)

end RSource.Grammar
