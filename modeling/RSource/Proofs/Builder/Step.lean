import RSource.Builder
import RSource.Proofs.Arena.Stand

/-!
# What a step of the builder adds

`Adds b b' is ts s` says that the builder has come from `b` to `b'` by adding the trees `ts` at the places
`is` and that it stands at the place `s`. Each step of the builder adds what the reader it is named after
reads, and comes to the same place; this module says so of the single steps and of recovery.

`m.Ends b Q` says that the value of the step `m` from `b` and the builder it comes to satisfy `Q`. Steps
are followed one by one with `Ends.bind`.
-/

namespace RSource.Builder
open Grammar

variable {α β : Type} {b b' b₁ b₂ : Builder} {P Q : α → Builder → Prop} {is js : List Nat} {i j : Nat}
  {t u : Tree} {ts us : List Tree} {s s' s₁ : Cursor} {x : Lexeme} {xs : List Lexeme}

/-! ### Following steps -/

def Step.Ends (m : Step α) (b : Builder) (Q : α → Builder → Prop) : Prop :=
  Q (m b).1 (m b).2.1

theorem Step.Ends.bind {m : Step α} {f : α → Step β} {R : β → Builder → Prop} (h : m.Ends b Q)
    (hf : ∀ a b', Q a b' → (f a).Ends b' R) : (m >>= f).Ends b R :=
  hf _ _ h

theorem Step.Ends.mono {m : Step α} (h : m.Ends b P) (hPQ : ∀ a b', P a b' → Q a b') : m.Ends b Q :=
  hPQ _ _ h

theorem ends_pure {a : α} (h : Q a b) : (pure a : Step α).Ends b Q :=
  h

theorem ends_look {f : Builder → β} {g : β → Step α} (h : (g (f b)).Ends b Q) :
    (look f >>= g).Ends b Q :=
  h

/-! ### Adding trees -/

structure Adds (b b' : Builder) (is : List Nat) (ts : List Tree) (s : Cursor) : Prop where
  place : b'.place = s
  grows : Arena.Grows b.cells b'.cells is ts

namespace Adds

theorem refl (hb : b.place = s) : Adds b b [] [] s :=
  ⟨hb, .refl _⟩

theorem trans (h : Adds b b₁ is ts s) (h' : Adds b₁ b' js us s') :
    Adds b b' (is ++ js) (ts ++ us) s' :=
  ⟨h'.place, h.grows.trans h'.grows⟩

theorem alloc (h : Adds b b₁ is ts s) (kind : Tree.Kind) (span : Span) :
    (alloc kind span is).Ends b₁ fun i b' => Adds b b' [i] [.node kind span ts] s :=
  ⟨h.place, h.grows.alloc⟩

theorem adopt (h : Adds b b₁ [i, j] [t, u] s) :
    (adopt i j).Ends b₁ fun _ b' => Adds b b' [i] [t.adopt u] s :=
  ⟨h.place, h.grows.adopt⟩

theorem advance (h : Adds b b₁ is ts s) :
    (advance).Ends b₁ fun _ b' => Adds b b' is ts s.advance :=
  ⟨congrArg Cursor.advance h.place, h.grows⟩

theorem advanceIf (h : Adds b b₁ is ts s) (p : Bool) :
    (advanceIf p).Ends b₁ fun _ b' => Adds b b' is ts (if p then s.advance else s) := by
  cases p
  · exact h
  · exact h.advance

theorem spanAt (h : Adds b b' [i] [t] s) : Arena.spanAt b'.cells i = t.span := by
  simpa using h.grows.spans

theorem lastStopD (h : Adds b b' is ts s) (d : Nat) :
    (is.getLast?.map fun i => (Arena.spanAt b'.cells i).stop).getD d = Grammar.lastStopD ts d := by
  have hspans := congrArg (fun l : List Span => (l.getLast?.map (·.stop)).getD d) h.grows.spans
  simpa [Grammar.lastStopD, Function.comp_def] using hspans

end Adds

theorem leaf_ends (h : Adds b b₁ [] [] s) (kind : Tree.Kind) (x : Lexeme) :
    (leaf kind x).Ends b₁ fun i b' => Adds b b' [i] [x.leaf kind] s :=
  h.alloc kind x.span

/-! ### Recovery -/

variable {eof : Nat}

theorem pass_ends (stops : Lexeme → Bool) (h : Adds b b₁ [] [] s) (hs : s.rest = x :: xs) :
    (pass stops).Ends b₁ fun unclosed b' =>
      let r := skipLoop stops (if x.kind.isOpener then 1 else 0) x.span.stop xs
      unclosed = decide (0 < r.1) ∧ Adds b b' [] [] r.2 := by
  have hrest : b₁.place.rest = x :: xs := by rw [h.place, hs]
  obtain ⟨⟨rest, last⟩, cells⟩ := b₁
  obtain rfl : rest = x :: xs := hrest
  exact ⟨rfl, rfl, h.grows⟩

theorem skip_ends (stops : Lexeme → Bool) (h : Adds b b₁ [] [] s) (hs : s.rest = x :: xs) :
    (skip eof stops).Ends b₁ fun i b' =>
      Adds b b' [i] [(Grammar.skip eof stops x xs).1] (Grammar.skip eof stops x xs).2 := by
  unfold skip
  refine ends_look ?_
  rw [h.place, hs]
  refine (pass_ends stops h hs).bind fun unclosed b₂ ⟨hunclosed, h₂⟩ => ends_look ?_
  rw [h₂.place, hunclosed]
  exact h₂.alloc _ _

theorem expectCloser_ends (closer : Token.Kind) (h : Adds b b₁ [] [] s) :
    (expectCloser eof closer).Ends b₁ fun r b' =>
      r.1 = (Grammar.expectCloser eof closer s).1 ∧
        Adds b b' r.2 (Grammar.expectCloser eof closer s).2.1 (Grammar.expectCloser eof closer s).2.2 := by
  unfold expectCloser Grammar.expectCloser
  refine ends_look ?_
  rw [h.place]
  rcases hs : s.rest with _ | ⟨x, xs⟩
  · exact ends_pure ⟨rfl, h⟩
  · by_cases hx : x.kind = closer
    · simp only [hx, ↓reduceIte]
      exact h.advance.bind fun _ b₂ h₂ => ends_pure ⟨rfl, h₂⟩
    · simp only [hx, ↓reduceIte]
      refine (skip_ends _ h hs).bind fun e b₂ h₂ => ends_look ?_
      rw [h₂.place]
      exact h₂.advance.bind fun _ b₃ h₃ => ends_pure ⟨rfl, h₃⟩

theorem finish_ends (h : Adds b b₁ is ts s) (kind : Tree.Kind) (start : Nat) (closed : Bool) :
    (finish eof kind start closed is).Ends b₁ fun i b' =>
      Adds b b' [i] [Grammar.finish eof kind start closed ts s] s := by
  unfold finish Grammar.finish
  split
  · refine ends_look (ends_look ?_)
    rw [h.place, h.lastStopD]
    exact h.alloc _ _
  · exact h.alloc _ _

/-! ### Nested expressions -/

inductive Finds (b : Builder) : Option (Tree × Cursor) → Option Nat → Builder → Prop
  | none : Finds b none none b
  | some {b' : Builder} {i : Nat} {t : Tree} {s : Cursor} (h : Adds b b' [i] [t] s) :
    Finds b (some (t, s)) (some i) b'

def Fills (sub : Filler) (reader : Reader) : Prop :=
  ∀ (power : Nat) (context : Context) {b : Builder} {s : Cursor}, b.place = s →
    (sub.run power context).Ends b (Finds b (reader.run power context s))

variable {sub : Filler} {reader : Reader}

theorem optional_ends (hsub : Fills sub reader) (power : Nat) (context : Context) (hb : b.place = s) :
    (optional sub power context).Ends b fun is b' =>
      Adds b b' is (Grammar.optional reader power context s).1
        (Grammar.optional reader power context s).2 := by
  refine (hsub power context hb).bind fun i? b' h => ?_
  unfold Grammar.optional
  generalize reader.run power context s = r at h
  cases h with
  | none => exact Adds.refl hb
  | some h => exact h

end RSource.Builder
