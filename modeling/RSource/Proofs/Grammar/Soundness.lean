import Mathlib.Data.List.Chain
import RSource.Grammar.Parse
import RSource.Proofs.Grammar.Contents
import RSource.Proofs.Token.Stream
import RSource.Proofs.Tree.Sound

/-!
# Every tree that is built is sound

Each form of expression stands behind the lexeme it starts with, whatever is missing in it, and the
extension of an expression by calls, indexing and operators starts where the expression does. So the
readers of all nesting depths read in order (`inOrder_reader`), and the tree over any sequence of
tokens that follow one another is sound (`sound_build`).
-/

namespace RSource.Grammar
open RSource.Tree Cursor

variable {eof : Nat} {sub : Reader} {s s' : Cursor} {x : Lexeme} {xs : List Lexeme} {t : Tree}
  {ts : List Tree} {context : Context} {power : Nat} {closed : Bool}

/-! ### Bracketed forms and reserved words -/

theorem reads_condition (hsub : sub.InOrder eof) (hs : s.Ordered eof) :
    Reads eof s (condition eof sub s).2.1 (condition eof sub s).2.2 ∧
      ((condition eof sub s).1 = false → (condition eof sub s).2.2.rest = []) := by
  have hexpression := reads_optional hsub hs 0 .bracket
  obtain ⟨h1, h2⟩ := @reads_expectCloser eof _ .closeParen hexpression.ordered
  exact ⟨hexpression.trans h1, h2⟩

theorem reads_condition? (hsub : sub.InOrder eof) (hs : s.Ordered eof) :
    Reads eof s (condition? eof sub s).2.1 (condition? eof sub s).2.2 ∧
      ((condition? eof sub s).1 = false → (condition? eof sub s).2.2.rest = []) := by
  unfold condition?
  split
  · obtain ⟨h1, h2⟩ := reads_condition hsub (Reads.advance hs).ordered
    exact ⟨(Reads.advance hs).trans h1, h2⟩
  · exact ⟨.refl hs, nofun⟩

theorem stands_parenthesized (hsub : sub.InOrder eof) (hx : Behind eof x s) :
    Stands eof x.span.start (parenthesized eof sub x s).1 (parenthesized eof sub x s).2 := by
  obtain ⟨h1, h2⟩ := reads_condition hsub hx.ordered
  exact h1.finish hx.start_le_reach h2

theorem stands_block (hsub : sub.InOrder eof) (hx : Behind eof x s) :
    Stands eof x.span.start (block eof sub x s).1 (block eof sub x s).2 := by
  obtain ⟨h1, h2⟩ := reads_statements hsub hx.ordered .brace (some .closeBrace)
  unfold block
  dsimp only
  split
  · rename_i hclosed
    rw [hclosed]
    exact h1.advanced.finish_closed hx.start_le_reach
  · rename_i hopen
    refine h1.finish hx.start_le_reach fun _ => ?_
    rcases h2 with h2 | ⟨y, ys, hy, hclose⟩
    · exact h2
    · -- the statements do not end before a closer without standing at it
      have hkind : y.kind = .closeBrace := (Option.some.inj hclose).symm
      exact absurd (by simp [isAt, hy, hkind]) hopen

theorem stands_functionDefinition (hsub : sub.InOrder eof) (hx : Behind eof x s) :
    Stands eof x.span.start (functionDefinition eof sub context x s).1
      (functionDefinition eof sub context x s).2 := by
  have hnode : ∀ {ts : List Tree} {s' : Cursor}, Reads eof s ts s' → Stands eof x.span.start
      (.node .functionDefinition ⟨x.span.start, lastStopD ts x.span.stop⟩ ts) s' :=
    fun h => h.node hx.stop_le_reach hx.start_le_stop
  unfold functionDefinition
  dsimp only
  split
  · exact hnode (.refl hx.ordered)
  · rename_i y ys hrest
    obtain ⟨h1, hy⟩ := hx.ordered.next hrest
    split
    · obtain ⟨i1, -, -⟩ := @argumentList_spec eof sub _ .closeParen hsub y hy
      have hformals := i1.reads h1
      split
      · exact hnode (hformals.trans (reads_optional hsub i1.ordered bodyPower context))
      · exact hnode hformals
    · exact hnode (.refl hx.ordered)

theorem stands_ifExpression (hsub : sub.InOrder eof) (hx : Behind eof x s) :
    Stands eof x.span.start (ifExpression eof sub context x s).1 (ifExpression eof sub context x s).2 := by
  obtain ⟨h1, h2⟩ := reads_condition? hsub hx.ordered
  unfold ifExpression
  dsimp only
  split
  · dsimp only
    split
    · exact h1.finish_closed hx.start_le_reach
    · rename_i consequence s₂ hrun
      have hconsequence := h1.trans (hsub h1.ordered hrun)
      split
      · have helse := Reads.advance hconsequence.ordered
        have halternative := reads_optional hsub helse.ordered bodyPower context
        have hall := hconsequence.trans (helse.trans halternative)
        rw [List.append_assoc] at hall
        exact hall.finish_closed hx.start_le_reach
      · exact hconsequence.finish_closed hx.start_le_reach
  · rename_i hopen
    exact h1.finish_open .ifExpression hx.start_le_reach (h2 (by simpa using hopen))

theorem stands_loopBody (hsub : sub.InOrder eof) {s₀ : Cursor} (hx : Behind eof x s₀)
    (hhead : Reads eof s₀ ts s) (hopen : closed = false → s.rest = []) :
    Stands eof x.span.start (loopBody eof sub context x closed ts s).1
      (loopBody eof sub context x closed ts s).2 := by
  unfold loopBody
  cases closed with
  | true =>
    have hbody := hhead.trans (reads_optional hsub hhead.ordered bodyPower context)
    exact hbody.finish_closed hx.start_le_reach
  | false => exact hhead.finish_open .loopExpression hx.start_le_reach (hopen rfl)

theorem stands_forLoop (hsub : sub.InOrder eof) (hx : Behind eof x s) :
    Stands eof x.span.start (forLoop eof sub context x s).1 (forLoop eof sub context x s).2 := by
  have hskip : ∀ {ts : List Tree} {s' : Cursor} (b : Bool), Reads eof s ts s' →
      Reads eof s ts (if b then s'.advance else s') := by
    intro ts s' b h
    cases b
    · exact h
    · exact h.advanced
  unfold forLoop
  split
  · have hopener := Reads.advance hx.ordered
    dsimp only
    -- the name, if there is one, stands behind the opener
    have hname : Reads eof s
        (((s.advance.rest.head?.filter fun x => x.kind == .identifier).map (·.leaf .identifier)).toList)
        (if (s.advance.rest.head?.filter fun x => x.kind == .identifier).isSome then s.advance.advance
          else s.advance) := by
      cases hfilter : s.advance.rest.head?.filter fun x => x.kind == .identifier with
      | none => exact hopener
      | some y =>
        obtain ⟨ys, hys, -⟩ := rest_of_head?_filter hfilter
        obtain ⟨h1, hy⟩ := hopener.ordered.next hys
        have hleaf := hopener.trans ((Stands.leaf hy .identifier).reads h1)
        simpa [advance_of_cons hys] using hleaf
    have hin := hskip ((if (s.advance.rest.head?.filter fun x => x.kind == .identifier).isSome then
      s.advance.advance else s.advance).rest.head?.any (Lexeme.isWord · "in")) hname
    obtain ⟨h1, h2⟩ := reads_condition hsub hin.ordered
    exact stands_loopBody hsub hx (hin.trans h1) h2
  · exact (Reads.refl hx.ordered).finish_closed hx.start_le_reach

theorem stands_whileLoop (hsub : sub.InOrder eof) (hx : Behind eof x s) :
    Stands eof x.span.start (whileLoop eof sub context x s).1 (whileLoop eof sub context x s).2 := by
  obtain ⟨h1, h2⟩ := reads_condition? hsub hx.ordered
  exact stands_loopBody hsub hx h1 h2

theorem stands_repeatLoop (hsub : sub.InOrder eof) (hx : Behind eof x s) :
    Stands eof x.span.start (repeatLoop eof sub context x s).1 (repeatLoop eof sub context x s).2 :=
  stands_loopBody hsub hx (.refl hx.ordered) nofun

/-! ### Operands -/

theorem stands_wordExpression (hsub : sub.InOrder eof) (hx : Behind eof x s)
    (h : wordExpression eof sub context x s = some (t, s')) : Stands eof x.span.start t s' := by
  unfold wordExpression at h
  split at h <;> simp only [Option.some.injEq, reduceCtorEq] at h
  · exact (stands_functionDefinition hsub hx).of_eq h
  · exact (stands_ifExpression hsub hx).of_eq h
  · exact (stands_forLoop hsub hx).of_eq h
  · exact (stands_whileLoop hsub hx).of_eq h
  · exact (stands_repeatLoop hsub hx).of_eq h
  · exact (Stands.leaf hx .identifier).of_eq h
  · exact (Stands.leaf hx .identifier).of_eq h
  · exact (Stands.leaf hx .literal).of_eq h

theorem stands_operatorExpression (hsub : sub.InOrder eof) (hx : Behind eof x s)
    (h : operatorExpression eof sub context x s = some (t, s')) : Stands eof x.span.start t s' := by
  unfold operatorExpression at h
  split at h
  · exact (stands_functionDefinition hsub hx).of_eq (Option.some.inj h)
  · obtain ⟨p, -, heq⟩ := Option.map_eq_some_iff.1 h
    obtain ⟨rfl, rfl⟩ := Prod.mk.inj heq
    exact (reads_optional hsub hx.ordered p context).node hx.stop_le_reach hx.start_le_stop

theorem stands_operand (hsub : sub.InOrder eof) (hx : Behind eof x s)
    (h : operand eof sub context x s = some (t, s')) : Stands eof x.span.start t s' := by
  unfold operand at h
  split at h
  · exact (Stands.leaf hx .identifier).of_eq (Option.some.inj h)
  · exact (Stands.leaf hx .literal).of_eq (Option.some.inj h)
  · exact (Stands.leaf hx .literal).of_eq (Option.some.inj h)
  · exact stands_wordExpression hsub hx h
  · exact (stands_parenthesized hsub hx).of_eq (Option.some.inj h)
  · exact (stands_block hsub hx).of_eq (Option.some.inj h)
  · exact stands_operatorExpression hsub hx h
  · cases h

/-! ### Calls, indexing and binary operators -/

/-- A call of what stands before its argument list. -/
theorem Stands.call {a b : Nat} {callee list : Tree} (h : Stands eof a callee s)
    (hlist : Stands eof b list s') (hb : callee.span.stop ≤ b) :
    Stands eof a (.node .call (callee.span.cover list.span) [callee, list]) s' := by
  have hcallee := h.sound.start_le_stop
  have hstop := hlist.sound.start_le_stop
  have hb' : callee.span.stop ≤ list.span.start := hlist.start_eq ▸ hb
  have hcover : callee.span.cover list.span = ⟨a, list.span.stop⟩ := by
    rw [Span.cover, Nat.min_eq_left (by omega), Nat.max_eq_right (by omega), h.start_eq]
  rw [hcover]
  refine .node hlist.ordered (forest_cons.2 ⟨Nat.le_of_eq h.start_eq.symm, h.sound, ?_⟩) hlist.stop_le
  exact forest_singleton hb' hlist.sound (Nat.le_refl _)

/-- An expression that is extended starts where it did. -/
theorem stands_extend (hsub : sub.InOrder eof) {left : Tree} {a : Nat} (h : Stands eof a left s) :
    Stands eof a (extend eof sub power context left s).1 (extend eof sub power context left s).2 := by
  fun_induction extend eof sub power context left s with
  | case1 | case2 | case5 => exact h
  | case3 left s x xs hs _ s₁ _ _ r _ ih =>
    obtain ⟨h1, hx⟩ := h.ordered.next hs
    have hlist : Stands eof x.span.start r.1 r.2 := (argumentList_spec hsub hx).1
    refine ih (.call h hlist (Nat.le_trans h.stop_le h1))
  | case4 left s x xs hs _ s₁ _ _ _ r _ ih =>
    obtain ⟨h1, hx⟩ := h.ordered.next hs
    refine ih (h.start_eq ▸ stands_index hsub hx h.sound (Nat.le_trans h.stop_le h1))
  | case6 left s x xs hs _ s₁ _ _ _ right _ r _ ih =>
    obtain ⟨h1, hx⟩ := h.ordered.next hs
    have hright : Reads eof s₁ r.1 r.2 := reads_optional hsub hx.ordered right context
    have hleft : left.span.stop ≤ x.span.stop :=
      Nat.le_trans h.stop_le (Nat.le_trans h1 hx.start_le_stop)
    refine ih ?_
    rw [← h.start_eq]
    exact hright.node_cons hx.stop_le_reach h.sound hleft

/-! ### Readers -/

theorem reads_expression (hsub : sub.InOrder eof) (hs : s.Ordered eof)
    (h : expression eof sub power context s = some (t, s')) : Reads eof s [t] s' := by
  unfold expression at h
  split at h
  · cases h
  · rename_i x xs hrest
    obtain ⟨h1, hx⟩ := hs.next hrest
    obtain ⟨⟨left, s₁⟩, hoperand, hextend⟩ := Option.map_eq_some_iff.1 h
    have hleft := stands_operand hsub hx hoperand
    exact ((stands_extend hsub hleft).of_eq hextend).reads h1

theorem reads_bailOut (hs : s.Ordered eof) (h : bailOut eof s = some (t, s')) :
    Reads eof s [t] s' := by
  unfold bailOut at h
  split at h
  · cases h
  · rename_i x xs hrest
    obtain ⟨rfl, rfl⟩ := Prod.mk.inj (Option.some.inj h)
    obtain ⟨h1, hx⟩ := hs.next hrest
    have hlast : (xs.getLast?.getD x).span.stop ≤ eof := by
      cases hxs : xs.getLast? with
      | none => exact hx.ordered.le
      | some y => exact hx.ordered.stop_le_of_mem (List.mem_of_getLast? hxs)
    refine (Stands.node ?_ (forest_nil.2 ?_) ?_).reads h1
    · exact hlast
    · exact Nat.le_trans hx.start_le_stop hx.ordered.le
    · exact Nat.le_refl _

theorem inOrder_reader (eof levels : Nat) : (reader eof levels).InOrder eof := by
  induction levels with
  | zero => exact reads_bailOut
  | succ levels ih => exact reads_expression ih

/-! ### The whole tree -/

theorem inOrder_lexemesFrom {source : Text} {total last : Nat} {newline : Bool} {tokens : List Token}
    (h : tokens.IsChain fun t u => t.stop ≤ u.start) (hlast : last ≤ total)
    (hhead : ∀ t ∈ tokens.head?, last ≤ t.start) :
    InOrder total last (lexemesFrom source total newline tokens) := by
  induction tokens generalizing last newline with
  | nil => exact hlast
  | cons t ts ih =>
    obtain ⟨hnext, hchain⟩ := List.isChain_cons.1 h
    have hstart : last ≤ t.start := hhead t rfl
    have hstop : t.start ≤ t.stop := Nat.le_add_right ..
    rw [lexemesFrom]
    split
    · exact hlast
    · split
      · exact ih hchain hlast fun u hu => Nat.le_trans hstart (Nat.le_trans hstop (hnext u hu))
      · exact ⟨hstart, hstop, ih hchain (Nat.le_of_not_lt ‹_›) hnext⟩

theorem inOrder_lexemes (source : Text) {tokens : List Token}
    (h : tokens.IsChain fun t u => t.stop ≤ u.start) :
    InOrder source.byteLength 0 (lexemes source tokens) :=
  inOrder_lexemesFrom h (Nat.zero_le _) fun _ _ => Nat.zero_le _

theorem inOrder_lexemes_tokenizeAll (source : Text) :
    InOrder source.byteLength 0 (lexemes source (Token.tokenizeAll source)) :=
  inOrder_lexemes source (Token.isChain_tokenizeAll source)

/-- The tree over tokens that follow one another is sound, whatever their kinds. -/
theorem sound_build {source : Text} {tokens : List Token}
    (h : tokens.IsChain fun t u => t.stop ≤ u.start) : (build source tokens).Sound := by
  have hs : Cursor.Ordered source.byteLength ⟨lexemes source tokens, 0⟩ := inOrder_lexemes source h
  have hread := (reads_statements (inOrder_reader _ maxNesting) hs .top none).1
  exact sound_iff.2 ((hread.forest.start_le (Nat.zero_le _)).le_stop hread.ordered.reach_le)

theorem sound_parse (source : Text) : (parse source).Sound :=
  sound_build (Token.isChain_tokenizeAll source)

end RSource.Grammar
