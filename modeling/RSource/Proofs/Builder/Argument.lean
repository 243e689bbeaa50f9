import RSource.Builder.Argument
import RSource.Proofs.Builder.Step
import RSource.Proofs.Grammar.Place

/-!
# Arguments and indexing in the builder

The slots of an argument list are added one after the other. What recovery reads behind an argument is
adopted by it before the next slot is read, so that a slot adds one tree at most.
-/

namespace RSource.Builder
open Grammar Cursor

variable {eof : Nat} {sub : Filler} {reader : Reader} {b b₁ b' : Builder} {s s' : Cursor}
  {i j : Nat} {t : Tree} {x : Lexeme} {closer : Token.Kind}

theorem positional_ends (hsub : Fills sub reader) (hb : b.place = s) :
    (positional sub).Ends b (Finds b ((reader.run argumentPower .bracket s).map fun (value, s') =>
      (Tree.node (.argument false) value.span [value], s'))) := by
  refine (hsub argumentPower .bracket hb).bind fun i? b₁ h => ?_
  generalize reader.run argumentPower .bracket s = r at h
  cases h with
  | none => exact ends_pure .none
  | some h =>
    refine ends_look ?_
    rw [h.spanAt]
    exact (h.alloc _ _).bind fun a b₂ h₂ => ends_pure (.some h₂)

theorem argument_ends (hsub : Fills sub reader) (hb : b.place = s) :
    (argument sub).Ends b (Finds b (Grammar.argument reader s)) := by
  unfold argument Grammar.argument
  refine ends_look ?_
  rw [hb]
  rcases hs : s.rest with _ | ⟨x, _ | ⟨equals, rest⟩⟩
  · exact positional_ends hsub hb
  · exact positional_ends hsub hb
  · dsimp only
    split
    · refine (Adds.refl hb).advance.bind fun _ b₁ h₁ => ?_
      refine (leaf_ends h₁ _ x).bind fun name b₂ h₂ => ?_
      refine h₂.advance.bind fun _ b₃ h₃ => ?_
      rw [advance_of_cons hs] at h₃
      refine (optional_ends hsub _ _ h₃.place).bind fun value b₄ h₄ => ends_look ?_
      rw [h₄.lastStopD]
      exact ((h₃.trans h₄).alloc _ _).bind fun a b₅ h₅ => ends_pure (.some h₅)
    · exact positional_ends hsub hb

theorem slot_ends (hsub : Fills sub reader) (closer : Token.Kind) (hb : b.place = s) :
    (slot eof sub closer).Ends b fun i? b' =>
      Adds b b' i?.toList (Grammar.slot eof reader closer s).1.toList
        (Grammar.slot eof reader closer s).2 := by
  unfold slot Grammar.slot
  refine ends_look ?_
  rw [hb]
  rcases hs : s.rest with _ | ⟨x, xs⟩
  · exact ends_pure (.refl hb)
  · dsimp only
    split
    · exact ends_pure (.refl hb)
    · refine (argument_ends hsub hb).bind fun a? b₁ h => ?_
      generalize Grammar.argument reader s = r at h
      cases h with
      | none =>
        refine (skip_ends _ (.refl hb) hs).bind fun e b₂ h₂ => ends_look ?_
        rw [h₂.spanAt]
        exact (h₂.alloc _ _).bind fun a b₃ h₃ => ends_pure h₃
      | @some b₁ i t s' h =>
        refine Step.Ends.bind (ends_look ?_) fun _ b₂ h₂ => ends_pure h₂
        rw [h.place]
        dsimp only
        rcases hs' : s'.rest with _ | ⟨y, ys⟩
        · exact ends_pure h
        · by_cases hy : endsSlot closer y = true
          · simp only [hy, ↓reduceIte]
            exact ends_pure h
          · simp only [hy, Bool.false_eq_true, ↓reduceIte]
            refine (skip_ends _ (.refl h.place) hs').bind fun e b₂ h₂ => ?_
            exact (h.trans h₂).adopt

/-! ### Argument lists -/

theorem comma_ends {i? : Option Nat} {t? : Option Tree} {s₁ : Cursor} {xs : List Lexeme} (start : Nat)
    (h : Adds b b₁ i?.toList t?.toList s₁) (hs : s₁.rest = x :: xs) :
    (comma i? start x).Ends b₁ fun i b' => Adds b b' [i]
      [t?.getD (.leaf (.argument false) ⟨start, x.span.start⟩)] ⟨xs, x.span.stop⟩ := by
  rw [← advance_of_cons hs]
  refine h.advance.bind fun _ b₂ h₂ => ?_
  cases i? with
  | some i =>
    cases t? with
    | some t => exact ends_pure h₂
    | none => cases h.grows.length_eq
  | none =>
    cases t? with
    | some t => cases h.grows.length_eq
    | none => exact h₂.alloc _ _

theorem slots_ends (hsub : Fills sub reader) (closer : Token.Kind) (start : Nat) (hb : b.place = s) :
    Step.Ends (slots eof sub closer start) b fun c b' =>
      let r := Grammar.slots eof reader closer start s
      c.separators = r.1.separators ∧ c.closed = r.1.closed ∧
        Adds b b' c.arguments r.1.arguments r.2 := by
  subst hb
  dsimp only [Step.Ends]
  fun_induction slots eof sub closer start b with
  | case1 start b r hr =>
    have h : Adds b r.2.1 _ _ _ := slot_ends hsub closer rfl
    rw [h.place] at hr
    rw [slots_of_nil hr]
    exact ⟨rfl, rfl, h⟩
  | case2 start b r x xs hr hx =>
    have h : Adds b r.2.1 _ _ _ := slot_ends hsub closer rfl
    rw [h.place] at hr
    rw [slots_of_cons hr, if_pos hx, ← advance_of_cons hr]
    exact ⟨rfl, rfl, h.advance⟩
  | case3 start b r x xs hr hx first hlt more ih =>
    have h : Adds b r.2.1 _ _ _ := slot_ends hsub closer rfl
    rw [h.place] at hr
    have hfirst : Adds b first.2.1 _ _ _ := comma_ends start h hr
    obtain ⟨hseparators, hclosed, hmore⟩ := ih
    rw [hfirst.place] at hseparators hclosed hmore
    rw [slots_of_cons hr, if_neg hx]
    exact ⟨congrArg _ hseparators, hclosed, hfirst.trans hmore⟩

theorem argumentList_ends (hsub : Fills sub reader) (closer : Token.Kind) (opener : Lexeme) (hb : b.place = s) :
    (argumentList eof sub closer opener).Ends b fun i b' =>
      Adds b b' [i] [(Grammar.argumentList eof reader closer opener s).1]
        (Grammar.argumentList eof reader closer opener s).2 := by
  refine (slots_ends hsub closer opener.span.stop hb).bind fun c b₁ ⟨hseparators, hclosed, h⟩ => ends_look ?_
  rw [h.place, hseparators, hclosed]
  exact h.alloc _ _

theorem Adds.isClosedListAt (h : Adds b b' [i] [t] s) :
    isClosedListAt b'.cells i = Grammar.isClosedList t := by
  obtain ⟨order, hstand, -⟩ := h.grows.stand
  obtain ⟨_, _, _, hcell, -⟩ := hstand.of_cons
  rw [Builder.isClosedListAt, hcell]
  rfl

theorem closeIndex_ends {r : Tree × Cursor} (double : Bool) (h : Adds b b₁ [i, j] [t, r.1] r.2)
    (hj : Builder.isClosedListAt b₁.cells j = Grammar.isClosedList r.1) :
    (closeIndex eof i double j).Ends b₁ fun k b' =>
      Adds b b' [k] [(Grammar.closeIndex eof t double r).1] (Grammar.closeIndex eof t double r).2 := by
  unfold closeIndex
  refine ends_look (ends_look (ends_look ?_))
  rw [hj, h.place]
  refine (h.advanceIf _).bind fun _ b₂ h₂ => ends_look (ends_look ?_)
  have hspan : Arena.spanAt b₂.cells i = t.span := (List.cons.inj h₂.grows.spans).1
  rw [h₂.place, hspan]
  exact h₂.alloc _ _

theorem innerBracket?_eq (opener : Lexeme) (s : Cursor) :
    innerBracket? opener s.rest = Grammar.innerBracket? opener s :=
  rfl

theorem index_ends (hsub : Fills sub reader) (opener : Lexeme) (h : Adds b b₁ [i] [t] s) :
    (index eof sub i opener).Ends b₁ fun j b' =>
      Adds b b' [j] [(Grammar.index eof reader t opener s).1] (Grammar.index eof reader t opener s).2 := by
  unfold index
  refine ends_look ?_
  rw [h.place, innerBracket?_eq, index_eq]
  cases Grammar.innerBracket? opener s with
  | some y =>
    refine h.advance.bind fun _ b₂ h₂ => ?_
    refine (argumentList_ends hsub .closeBracket y h₂.place).bind fun list b₃ h₃ => ?_
    exact closeIndex_ends true (h₂.trans h₃) h₃.isClosedListAt
  | none =>
    refine (argumentList_ends hsub .closeBracket opener h.place).bind fun list b₃ h₃ => ?_
    exact closeIndex_ends false (h.trans h₃) h₃.isClosedListAt

end RSource.Builder
