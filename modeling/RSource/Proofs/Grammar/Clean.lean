import RSource.Proofs.Grammar.Growth
import RSource.Proofs.Grammar.Step
import RSource.Proofs.Tree.Relocate

/-!
# Readings without errors

Where the trees that were read have no error and nothing was left open (`Clean`), recovery did not run: brackets
were closed, and a slot holds nothing or one argument. So every lexeme was taken by a part of the grammar that
asked for its kind, and none of them is of no known kind (`discerning_reader`).
-/

namespace RSource.Grammar
open RSource.Tree Cursor

variable {eof start last power : Nat} {s s' : Cursor} {x word : Lexeme} {xs : List Lexeme} {t left : Tree}
  {ts : List Tree} {k : Tree.Kind} {closed : Bool} {closer : Token.Kind} {context : Context} {sub : Reader}

def Clean (t : Tree) : Prop :=
  t.kind.isError = false ∧ t.kind.isOpen = false

theorem not_error_of_clean (h : Everywhere Clean ts) (ht : t ∈ ts) :
    t.kind.isError = false :=
  (h t ht t (mem_nodes.2 (.inl rfl))).1

/-- An argument list without errors was closed. -/
theorem closed_of_clean_argumentList {opener : Lexeme} (h : Clean (argumentList eof sub closer opener s).1) :
    (slots eof sub closer opener.span.stop s).1.closed = true :=
  Bool.not_eq_eq_eq_not.1 h.2

theorem isError_skip {stops : Lexeme → Bool} : (skip eof stops x xs).1.kind.isError = true :=
  rfl

/-- A slot without an error holds nothing, or an argument up to a comma or the closer. -/
theorem slot_of_clean (hrest : s.rest = x :: xs)
    (hclean : Everywhere Clean (slot eof sub closer s).1.toList) :
    (endsSlot closer x = true ∧ slot eof sub closer s = (none, s)) ∨
      (endsSlot closer x = false ∧ ∃ a s₁, argument sub s = some (a, s₁) ∧ slot eof sub closer s = (some a, s₁) ∧
        ∀ y ∈ s₁.rest.head?, endsSlot closer y = true) := by
  cases hx : endsSlot closer x with
  | true => exact .inl ⟨rfl, by simp [slot, hrest, hx]⟩
  | false =>
    refine .inr ⟨rfl, ?_⟩
    -- what recovery skips would be an error below the argument
    have hskip : ∀ (t : Tree) (y : Lexeme) (ys : List Lexeme), (slot eof sub closer s).1 = some t →
        (skip eof (endsSlot closer) y ys).1 ∉ t.children := by
      intro t y ys ht hmem
      rw [ht] at hclean
      have hbelow := not_error_of_clean hclean.children hmem
      rw [isError_skip] at hbelow
      cases hbelow
    cases ha : argument sub s with
    | none =>
      refine absurd List.mem_cons_self (hskip (.node (.argument false) (skip eof (endsSlot closer) x xs).1.span
        [(skip eof (endsSlot closer) x xs).1]) x xs ?_)
      simp [slot, hrest, hx, ha]
    | some r =>
      obtain ⟨a, s₁⟩ := r
      refine ⟨a, s₁, rfl, ?_⟩
      cases hrest₁ : s₁.rest with
      | nil => exact ⟨by simp [slot, hrest, hx, ha, hrest₁], by simp⟩
      | cons y ys =>
        cases hy : endsSlot closer y with
        | true => exact ⟨by simp [slot, hrest, hx, ha, hrest₁, hy], by simpa using hy⟩
        | false =>
          refine absurd ?_ (hskip (a.adopt (skip eof (endsSlot closer) y ys).1) y ys ?_)
          · exact List.mem_append_right _ List.mem_cons_self
          · simp [slot, hrest, hx, ha, hrest₁, hy]

/-! ### Unknown lexemes -/

/-- How many of the lexemes that are left are of no known kind. -/
def Cursor.unknowns (s : Cursor) : Nat :=
  s.rest.countP (·.kind == .unknown)

theorem unknowns_next (hrest : s.rest = x :: xs) (hx : x.kind ≠ .unknown) (last : Nat) :
    Cursor.unknowns ⟨xs, last⟩ = s.unknowns := by
  rw [Cursor.unknowns, Cursor.unknowns, hrest, List.countP_cons_of_neg (by simpa using hx)]

theorem unknowns_advance {p : Lexeme → Bool} (hp : ∀ x : Lexeme, p x = true → x.kind ≠ .unknown)
    (h : s.rest.head?.any p = true) : s.advance.unknowns = s.unknowns := by
  cases hrest : s.rest with
  | nil => simp [hrest] at h
  | cons x xs =>
    rw [advance_of_cons hrest]
    exact unknowns_next hrest (hp x (by simpa [hrest] using h)) _

theorem unknowns_advance_of_isAt {k : Token.Kind} (hk : k ≠ .unknown) (h : s.isAt k = true) :
    s.advance.unknowns = s.unknowns := by
  refine unknowns_advance (fun x hx => ?_) h
  rw [beq_iff_eq.1 hx]
  exact hk

/-- What the reader reads without errors holds no lexeme of unknown kind. -/
def Reader.Discerning (sub : Reader) : Prop :=
  ∀ {power : Nat} {context : Context} {s s' : Cursor} {t : Tree}, sub.run power context s = some (t, s') →
    Everywhere Clean [t] → s'.unknowns = s.unknowns

theorem unknowns_optional (h : sub.Discerning) (hclean : Everywhere Clean (optional sub power context s).1) :
    (optional sub power context s).2.unknowns = s.unknowns := by
  unfold optional at hclean ⊢
  cases hr : sub.run power context s with
  | none => rfl
  | some r =>
    rw [hr] at hclean
    exact h hr hclean

theorem unknowns_expectCloser (hcloser : closer ≠ .unknown)
    (hclean : Everywhere Clean (expectCloser eof closer s).2.1) :
    (expectCloser eof closer s).2.2.unknowns = s.unknowns := by
  cases hrest : s.rest with
  | nil => simp [expectCloser, hrest]
  | cons x xs =>
    by_cases hx : x.kind = closer
    · simp only [expectCloser, hrest, hx, if_true]
      exact unknowns_advance_of_isAt hcloser (by simp [Cursor.isAt, hrest, hx])
    · have herror := not_error_of_clean (t := (skip eof (·.kind == closer) x xs).1) hclean
        (by simp [expectCloser, hrest, hx])
      rw [isError_skip] at herror
      cases herror

/-! ### Arguments and statements -/

theorem unknowns_argument (h : sub.Discerning) (hr : argument sub s = some (t, s'))
    (hclean : Everywhere Clean [t]) : s'.unknowns = s.unknowns := by
  cases hnamed : isNamed s.rest with
  | false =>
    rw [argument_of_not_named hnamed] at hr
    obtain ⟨⟨value, s₁⟩, hrun, heq⟩ := Option.map_eq_some_iff.1 hr
    obtain ⟨rfl, rfl⟩ := Prod.mk.inj heq
    exact h hrun hclean.children
  | true =>
    obtain ⟨x, equals, xs, hrest, hx, hequals⟩ := exists_of_isNamed hnamed
    rw [argument_of_named hrest hnamed] at hr
    obtain ⟨rfl, rfl⟩ := Prod.mk.inj (Option.some.inj hr)
    have hx : x.kind ≠ .unknown := by
      intro hkind
      simp [Lexeme.canName, Lexeme.isWord, hkind] at hx
    have hequals : equals.kind ≠ .unknown := by
      intro hkind
      simp [Lexeme.isOperator, hkind] at hequals
    calc _ = _ := unknowns_optional h (hclean.children.subset (List.subset_cons_self _ _))
      _ = Cursor.unknowns ⟨equals :: xs, x.span.stop⟩ := unknowns_next rfl hequals _
      _ = _ := unknowns_next hrest hx _

theorem unknowns_slot (h : sub.Discerning) (hclean : Everywhere Clean (slot eof sub closer s).1.toList) :
    (slot eof sub closer s).2.unknowns = s.unknowns ∧
      ∀ y ∈ (slot eof sub closer s).2.rest.head?, endsSlot closer y = true := by
  cases hrest : s.rest with
  | nil => simp [slot, hrest]
  | cons x xs =>
    rcases slot_of_clean hrest hclean with ⟨hx, hslot⟩ | ⟨hx, a, s₁, ha, hslot, hends⟩
    · rw [hslot]
      refine ⟨rfl, fun y hy => ?_⟩
      rw [hrest] at hy
      cases hy
      exact hx
    · rw [hslot] at hclean ⊢
      exact ⟨unknowns_argument h ha hclean, hends⟩

theorem unknowns_slots (h : sub.Discerning) (hcloser : closer ≠ .unknown)
    (hclean : Everywhere Clean (slots eof sub closer start s).1.arguments) :
    (slots eof sub closer start s).2.unknowns = s.unknowns := by
  fun_induction slots eof sub closer start s with
  | case1 start s r hr => exact (unknowns_slot h hclean).1
  | case2 start s r x xs hr hx =>
    rw [← (unknowns_slot h hclean).1]
    exact unknowns_next hr (hx ▸ hcloser) _
  | case3 start s r x xs hr hx _ more s' hm first ih =>
    have hfirst : Everywhere Clean r.1.toList := by
      intro t ht
      have ht : first = t := by simp [first, Option.mem_toList.1 ht]
      exact hclean t (by simp [ht])
    obtain ⟨hslot, hends⟩ := unknowns_slot h hfirst
    rw [hm] at ih
    have hx : x.kind ≠ .unknown := by
      have hkind : x.kind = .comma := by simpa [endsSlot, hx] using hends x (by rw [hr]; rfl)
      simp [hkind]
    exact (ih (hclean.subset (List.subset_cons_self _ _))).trans ((unknowns_next hr hx _).trans hslot)

theorem unknowns_closeIndex {object : Tree} {double : Bool} {r : Tree × Cursor} :
    (closeIndex eof object double r).2.unknowns = r.2.unknowns := by
  unfold closeIndex
  dsimp only
  split
  · next hpaired =>
    refine unknowns_advance (fun y hy => ?_) (Bool.and_eq_true_iff.1 hpaired).2
    rw [beq_iff_eq.1 (Bool.and_eq_true_iff.1 hy).1]
    simp
  · rfl

theorem unknowns_index {object : Tree} (h : sub.Discerning)
    (hclean : Everywhere Clean [(index eof sub object x s).1]) :
    (index eof sub object x s).2.unknowns = s.unknowns := by
  rw [index_eq] at hclean ⊢
  rw [unknowns_closeIndex]
  have hlist := (hclean.children.subset (List.subset_cons_self _ _)).children
  cases hinner : innerBracket? x s with
  | none =>
    rw [hinner] at hlist
    exact unknowns_slots h (by decide) hlist
  | some y =>
    rw [hinner] at hlist
    obtain ⟨hhead, hy⟩ := Option.filter_eq_some_iff.1 hinner
    refine (unknowns_slots h (by decide) hlist).trans (unknowns_advance_of_isAt (k := .openBracket) (by decide) ?_)
    rw [Cursor.isAt, hhead]
    exact (Bool.and_eq_true_iff.1 hy).1

theorem unknowns_statements {closer? : Option Token.Kind} (h : sub.Discerning)
    (hclean : Everywhere Clean (statements eof sub context closer? s).1) :
    (statements eof sub context closer? s).2.unknowns = s.unknowns := by
  fun_induction statements eof sub context closer? s with
  | case1 | case2 => rfl
  | case3 s x xs hrest _ _ hsemi ih =>
    refine (ih hclean).trans (unknowns_next hrest ?_ _)
    simp only [Lexeme.isOperator, Bool.and_eq_true, beq_iff_eq] at hsemi
    simp [hsemi.1]
  | case4 s x xs =>
    exact absurd (not_error_of_clean hclean List.mem_cons_self)
      (by simp [Lexeme.leaf, Tree.leaf, Tree.kind, Kind.isError])
  | case5 s x xs _ _ _ _ _ _ r =>
    exact absurd (not_error_of_clean hclean List.mem_cons_self) (by simp [r, isError_skip])
  | case6 s x xs _ _ _ _ _ e after he _ statement _ =>
    exact h he (hclean.children (t := statement))
  | case7 s x xs _ _ _ _ _ e after he _ statement y ys _ _ ts s' hst ih =>
    rw [hst] at ih
    have hstatement : Everywhere Clean [statement] := hclean.subset (by simp)
    exact (ih (hclean.subset (List.subset_cons_self _ _))).trans (h he hstatement.children)
  | case8 s x xs _ _ _ _ _ e after he _ statement y ys _ _ r =>
    exact absurd (not_error_of_clean hclean (List.mem_cons_of_mem _ List.mem_cons_self))
      (by simp [r, isError_skip])

/-! ### Operands -/

theorem unknowns_condition (h : sub.Discerning) (hclean : Everywhere Clean (condition eof sub s).2.1) :
    (condition eof sub s).2.2.unknowns = s.unknowns :=
  (unknowns_expectCloser (by decide) (hclean.subset (List.subset_append_right _ _))).trans
    (unknowns_optional h (hclean.subset (List.subset_append_left _ _)))

theorem unknowns_condition? (h : sub.Discerning) (hclean : Everywhere Clean (condition? eof sub s).2.1) :
    (condition? eof sub s).2.2.unknowns = s.unknowns := by
  unfold condition? at hclean ⊢
  split
  · next hopen =>
    rw [if_pos hopen] at hclean
    exact (unknowns_condition h hclean).trans (unknowns_advance_of_isAt (by decide) hopen)
  · rfl

theorem unknowns_parenthesized (h : sub.Discerning) (hclean : Everywhere Clean [(parenthesized eof sub x s).1]) :
    (parenthesized eof sub x s).2.unknowns = s.unknowns := by
  have hchildren := hclean.children
  unfold parenthesized at hchildren
  rw [children_finish] at hchildren
  exact unknowns_condition h hchildren

theorem unknowns_block (h : sub.Discerning) (hclean : Everywhere Clean [(block eof sub x s).1]) :
    (block eof sub x s).2.unknowns = s.unknowns := by
  have hchildren := hclean.children
  unfold block at hchildren ⊢
  rw [children_finish] at hchildren
  have hstatements := unknowns_statements h hchildren
  dsimp only
  split
  · next hclosed => exact (unknowns_advance_of_isAt (by decide) hclosed).trans hstatements
  · exact hstatements

theorem unknowns_functionParts (h : sub.Discerning)
    (hclean : Everywhere Clean (functionParts eof sub context s).1) :
    (functionParts eof sub context s).2.unknowns = s.unknowns := by
  unfold functionParts at hclean ⊢
  split
  · rfl
  · next x xs hrest =>
    simp only [hrest] at hclean
    split
    · next hx =>
      rw [if_pos hx] at hclean
      have hx : Cursor.unknowns ⟨xs, x.span.stop⟩ = s.unknowns := unknowns_next hrest (by simp [hx]) _
      dsimp only at hclean ⊢
      split
      · next hclosed =>
        rw [if_pos hclosed] at hclean
        have hlist : Everywhere Clean [(argumentList eof sub .closeParen x ⟨xs, x.span.stop⟩).1] :=
          hclean.subset (by simp)
        exact (unknowns_optional h (hclean.subset (List.subset_cons_self _ _))).trans
          ((unknowns_slots h (by decide) hlist.children).trans hx)
      · next hclosed =>
        rw [if_neg hclosed] at hclean
        exact (unknowns_slots h (by decide) hclean.children).trans hx
    · rfl

theorem unknowns_branches (h : sub.Discerning) (hclean : Everywhere Clean (branches sub context s).1) :
    (branches sub context s).2.unknowns = s.unknowns := by
  unfold branches at hclean ⊢
  split
  · rfl
  · next t s₁ hr =>
    simp only [hr] at hclean
    split
    · next helse =>
      rw [if_pos helse] at hclean
      have hconsequence := h hr (hclean.subset (by simp))
      have hword : s₁.advance.unknowns = s₁.unknowns := by
        refine unknowns_advance (fun x hx => ?_) helse
        simp only [Lexeme.isWord, Bool.and_eq_true, beq_iff_eq] at hx
        simp [hx.1.1]
      exact (unknowns_optional h (hclean.subset (List.subset_cons_self _ _))).trans (hword.trans hconsequence)
    · next helse =>
      rw [if_neg helse] at hclean
      exact h hr hclean

theorem unknowns_ifExpression (h : sub.Discerning)
    (hclean : Everywhere Clean [(ifExpression eof sub context x s).1]) :
    (ifExpression eof sub context x s).2.unknowns = s.unknowns := by
  have hchildren := hclean.children
  rw [ifExpression_eq] at hchildren ⊢
  cases hclosed : (condition? eof sub s).1 with
  | false =>
    simp only [hclosed, Bool.false_eq_true, if_false, children_finish] at hchildren ⊢
    exact unknowns_condition? h hchildren
  | true =>
    simp only [hclosed, if_true, children_finish] at hchildren ⊢
    exact (unknowns_branches h (hchildren.subset (List.subset_append_right _ _))).trans
      (unknowns_condition? h (hchildren.subset (List.subset_append_left _ _)))

theorem unknowns_loopBody (h : sub.Discerning)
    (hclean : Everywhere Clean [(loopBody eof sub context x closed ts s).1]) :
    (loopBody eof sub context x closed ts s).2.unknowns = s.unknowns ∧ Everywhere Clean ts := by
  cases closed with
  | false =>
    have hclean : Everywhere Clean [finish eof .loopExpression x.span.start false ts s] := hclean
    exact ⟨rfl, hclean.children⟩
  | true =>
    rw [loopBody_of_closed] at hclean ⊢
    have hchildren := hclean.children
    exact ⟨unknowns_optional h (hchildren.subset (List.subset_append_right _ _)),
      hchildren.subset (List.subset_append_left _ _)⟩

theorem unknowns_whileLoop (h : sub.Discerning)
    (hclean : Everywhere Clean [(whileLoop eof sub context x s).1]) :
    (whileLoop eof sub context x s).2.unknowns = s.unknowns := by
  have hloop : Everywhere Clean [(loopBody eof sub context x (condition? eof sub s).1 (condition? eof sub s).2.1
      (condition? eof sub s).2.2).1] := hclean
  obtain ⟨hbody, hhead⟩ := unknowns_loopBody h hloop
  exact hbody.trans (unknowns_condition? h hhead)

theorem unknowns_forLoop (h : sub.Discerning) (hclean : Everywhere Clean [(forLoop eof sub context x s).1]) :
    (forLoop eof sub context x s).2.unknowns = s.unknowns := by
  rw [forLoop_eq] at hclean ⊢
  split
  · next hopen =>
    rw [if_pos hopen] at hclean
    obtain ⟨hbody, hhead⟩ := unknowns_loopBody h hclean
    have hin : (skipIn (loopVariable s.advance).2).unknowns =
        (loopVariable s.advance).2.unknowns := by
      unfold skipIn
      split
      · next hin =>
        refine unknowns_advance (fun x hx => ?_) hin
        simp only [Lexeme.isWord, Bool.and_eq_true, beq_iff_eq] at hx
        simp [hx.1]
      · rfl
    have hvariable : (loopVariable s.advance).2.unknowns = s.advance.unknowns := by
      unfold loopVariable
      dsimp only
      split
      · next hname =>
        rw [Option.isSome_filter] at hname
        exact unknowns_advance_of_isAt (k := .identifier) (by decide) hname
      · rfl
    calc _ = _ := hbody
      _ = _ := unknowns_condition h (hhead.subset (List.subset_append_right _ _))
      _ = _ := hin
      _ = _ := hvariable
      _ = _ := unknowns_advance_of_isAt (by decide) hopen
  · rfl

theorem unknowns_of_eq {r : Tree × Cursor} {n : Nat} (hr : r = (t, s')) (hclean : Everywhere Clean [t])
    (h : Everywhere Clean [r.1] → r.2.unknowns = n) : s'.unknowns = n := by
  subst hr
  exact h hclean

theorem unknowns_functionDefinition (h : sub.Discerning)
    (hclean : Everywhere Clean [(functionDefinition eof sub context x s).1]) :
    (functionDefinition eof sub context x s).2.unknowns = s.unknowns := by
  have hparts : Everywhere Clean (functionParts eof sub context s).1 := hclean.children
  exact unknowns_functionParts h hparts

theorem unknowns_wordExpression (h : sub.Discerning) (hr : wordExpression eof sub context x s = some (t, s'))
    (hclean : Everywhere Clean [t]) : s'.unknowns = s.unknowns := by
  unfold wordExpression at hr
  split at hr <;> simp only [Option.some.injEq, reduceCtorEq] at hr
  · exact unknowns_of_eq hr hclean (unknowns_functionDefinition h)
  · exact unknowns_of_eq hr hclean (unknowns_ifExpression h)
  · exact unknowns_of_eq hr hclean (unknowns_forLoop h)
  · exact unknowns_of_eq hr hclean (unknowns_whileLoop h)
  · exact unknowns_of_eq hr hclean fun hloop => (unknowns_loopBody h hloop).1
  · exact unknowns_of_eq hr hclean fun _ => rfl
  · exact unknowns_of_eq hr hclean fun _ => rfl
  · exact unknowns_of_eq hr hclean fun _ => rfl

theorem unknowns_operand (h : sub.Discerning) (hr : operand eof sub context x s = some (t, s'))
    (hclean : Everywhere Clean [t]) : s'.unknowns = s.unknowns := by
  unfold operand at hr
  split at hr
  · exact unknowns_of_eq (Option.some.inj hr) hclean fun _ => rfl
  · exact unknowns_of_eq (Option.some.inj hr) hclean fun _ => rfl
  · exact unknowns_of_eq (Option.some.inj hr) hclean fun _ => rfl
  · exact unknowns_wordExpression h hr hclean
  · exact unknowns_of_eq (Option.some.inj hr) hclean (unknowns_parenthesized h)
  · exact unknowns_of_eq (Option.some.inj hr) hclean (unknowns_block h)
  · unfold operatorExpression at hr
    split at hr
    · exact unknowns_of_eq (Option.some.inj hr) hclean (unknowns_functionDefinition h)
    · obtain ⟨power, -, heq⟩ := Option.map_eq_some_iff.1 hr
      obtain ⟨rfl, rfl⟩ := Prod.mk.inj heq
      exact unknowns_optional h hclean.children
  · cases hr

/-- An expression starts with a lexeme of a known kind. -/
theorem known_of_operand (hr : operand eof sub context x s = some (t, s')) : x.kind ≠ .unknown := by
  intro hkind
  simp [operand, hkind] at hr

/-! ### Readers -/

/-- The expression so far is part of the whole one, so it has no errors if that has none. -/
theorem unknowns_extend (h : sub.Discerning)
    (hclean : Everywhere Clean [(extend eof sub power context left s).1]) :
    Everywhere Clean [left] ∧ (extend eof sub power context left s).2.unknowns = s.unknowns := by
  fun_induction extend eof sub power context left s with
  | case1 | case2 | case5 => exact ⟨hclean, rfl⟩
  | case3 left s x xs hrest _ s₁ _ hparen r _ ih =>
    obtain ⟨hcall, hmore⟩ := ih hclean
    have hparts : Everywhere Clean [left, r.1] := hcall.children
    have hlist : Everywhere Clean [r.1] := hparts.subset (by simp)
    refine ⟨hparts.subset (by simp), hmore.trans ((unknowns_slots h (by decide) hlist.children).trans ?_)⟩
    exact unknowns_next hrest (by simp [hparen.1]) _
  | case4 left s x xs hrest _ s₁ _ _ hbracket r _ ih =>
    obtain ⟨hindex, hmore⟩ := ih hclean
    have hparts : Everywhere Clean [left, _] := hindex.children
    refine ⟨hparts.subset (by simp), hmore.trans ((unknowns_index h hindex).trans ?_)⟩
    exact unknowns_next hrest (by simp [hbracket.1]) _
  | case6 left s x xs hrest _ s₁ _ _ _ right hbinary r _ ih =>
    obtain ⟨hnode, hmore⟩ := ih hclean
    have hparts : Everywhere Clean (left :: r.1) := hnode.children
    have hx : x.kind ≠ .unknown := by
      intro hkind
      simp [binaryAt?, hkind] at hbinary
    refine ⟨hparts.subset (by simp), hmore.trans ?_⟩
    exact (unknowns_optional h (hparts.subset (List.subset_cons_self _ _))).trans (unknowns_next hrest hx _)

theorem unknowns_expression (h : sub.Discerning) (hr : expression eof sub power context s = some (t, s'))
    (hclean : Everywhere Clean [t]) : s'.unknowns = s.unknowns := by
  unfold expression at hr
  split at hr
  · cases hr
  · next x xs hrest =>
    obtain ⟨⟨left, s₁⟩, hoperand, hextend⟩ := Option.map_eq_some_iff.1 hr
    have hextend : extend eof sub power context left s₁ = (t, s') := hextend
    have hwhole : Everywhere Clean [(extend eof sub power context left s₁).1] := by
      rw [hextend]
      exact hclean
    obtain ⟨hleft, hmore⟩ := unknowns_extend h hwhole
    rw [hextend] at hmore
    calc s'.unknowns = s₁.unknowns := hmore
      _ = Cursor.unknowns ⟨xs, x.span.stop⟩ := unknowns_operand h hoperand hleft
      _ = s.unknowns := unknowns_next hrest (known_of_operand hoperand) _

theorem discerning_reader (eof levels : Nat) : (reader eof levels).Discerning := by
  induction levels with
  | zero =>
    intro power context s s' t hr hclean
    have hr : bailOut eof s = some (t, s') := hr
    unfold bailOut at hr
    split at hr
    · cases hr
    · obtain ⟨rfl, -⟩ := Prod.mk.inj (Option.some.inj hr)
      exact absurd hclean.root.1 (by simp [errorTree, leaf, Tree.kind, Kind.isError])
  | succ levels ih => exact unknowns_expression ih

end RSource.Grammar
