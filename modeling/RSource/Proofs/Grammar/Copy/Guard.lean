import RSource.Proofs.Grammar.Copy.Place
import RSource.Proofs.Tree.Innermost

/-!
# When a copy is read alike

What is read in a copy is what was read before only if neither the end of the lexemes nor a line break that is
not kept had a say in it. What that takes is a property of the trees, of the places before and behind them, and
of the context (`Copy.Guard`). It passes from trees to those before and behind others, to their children, and
from any context to what stands in brackets there.

Readers that agree on all that such a property holds of (`Guard.Agrees`) are what the lemmas about the parts of
the grammar start from.
-/

namespace RSource.Grammar
open RSource.Tree Cursor

namespace Copy

/-- A condition on the trees that a reader of `n` levels reads between two places. It leaves those places among
the copied lexemes (`le`), so an open node is possible only where the text ends with them (`last`), and where line
breaks count it keeps those that were looked at: before the lexeme behind what was read (`next`), and before
those that recovery skipped (`skipped`). -/
structure Guard (c : Copy) where
  Holds : Nat → Context → Cursor → List Tree → Cursor → Prop
  le : ∀ {n context s ts s'}, Holds n context s ts s' → c.tail.length ≤ s'.remaining
  succ : ∀ {n context s ts s'}, Holds n context s ts s' → Holds (n + 1) context s ts s'
  nil : ∀ {n context context' s s' s₁ ts}, Holds n context s ts s' → c.Here s₁ → Holds n context' s₁ [] s₁
  left : ∀ {n context s s₁ s₂ ts us}, Holds n context s (ts ++ us) s₂ → Passage c.eof c.all s₁ us s₂ →
    Holds n context s ts s₁
  right : ∀ {n context s s₁ s₂ ts us}, Holds n context s (ts ++ us) s₂ → Passage c.eof c.all s ts s₁ →
    Holds n context s₁ us s₂
  children : ∀ {n context s t s'}, Holds (n + 1) context s [t] s' → t.kind.bounds = false →
    Holds n context s t.children s'
  inner : ∀ {n context s s₁ s₂ s' ts us}, Holds n context s ts s' → s₁.rest <:+ s.rest → s'.rest <:+ s₂.rest →
    us ⊆ ts → Holds n .bracket s₁ us s₂
  below : ∀ {n context s s₁ s₂ s' t us}, Holds (n + 1) context s [t] s' → s₁.rest <:+ s.rest →
    s'.rest <:+ s₂.rest → us ⊆ t.children → Holds n .bracket s₁ us s₂
  block : ∀ {n context s x xs}, s.PlaceOf c.all → s.rest = x :: xs →
    Holds (n + 1) context s [(block c.eof (reader c.eof n) x ⟨xs, x.span.stop⟩).1]
      (block c.eof (reader c.eof n) x ⟨xs, x.span.stop⟩).2 →
    Holds n .brace ⟨xs, x.span.stop⟩
      (statements c.eof (reader c.eof n) .brace (some .closeBrace) ⟨xs, x.span.stop⟩).1
      (statements c.eof (reader c.eof n) .brace (some .closeBrace) ⟨xs, x.span.stop⟩).2
  last : ∀ {n context s t s'}, Holds n context s [t] s' → t.kind.isOpen = true → c.IsLast
  next : ∀ {n context s s' x xs ts}, Holds n context s ts s' → context ≠ .bracket → Passage c.eof c.all s ts s' →
    s'.remaining < s.remaining → s'.rest = x :: xs → c.keeps x = true
  skipped : ∀ {n context s s' x P unclosed a}, Holds n context s [.leaf (.error unclosed) a] s' →
    context ≠ .bracket → s.PlaceOf c.all → s.rest = x :: (P ++ s'.rest.tail) → ∀ y ∈ P, c.keeps y = true

theorem remaining_block_statements (eof : Nat) (sub : Reader) (x : Lexeme) (s : Cursor) :
    (Grammar.block eof sub x s).2.remaining ≤ (statements eof sub .brace (some .closeBrace) s).2.remaining := by
  unfold Grammar.block
  dsimp only
  split
  · exact remaining_advance_le _
  · exact Nat.le_refl _

/-- A condition on the trees alone, where all line breaks are kept. -/
def Guard.ofTrees (c : Copy) (P : Nat → List Tree → Prop) (hkeeps : ∀ x, c.keeps x = true)
    (hsucc : ∀ {n ts}, P n ts → P (n + 1) ts) (hsubset : ∀ {n ts us}, P n ts → us ⊆ ts → P n us)
    (hchildren : ∀ {n t}, P (n + 1) [t] → P n t.children)
    (hlast : ∀ {n t}, P n [t] → t.kind.isOpen = true → c.IsLast) : c.Guard where
  Holds n _ _ ts s' := P n ts ∧ c.tail.length ≤ s'.remaining
  le h := h.2
  succ h := ⟨hsucc h.1, h.2⟩
  nil h hs := ⟨hsubset h.1 (List.nil_subset _), hs.le⟩
  left h hp := ⟨hsubset h.1 (List.subset_append_left _ _), Nat.le_trans h.2 hp.suffix.length_le⟩
  right h _ := ⟨hsubset h.1 (List.subset_append_right _ _), h.2⟩
  children h _ := ⟨hchildren h.1, h.2⟩
  inner h _ hs' hus := ⟨hsubset h.1 hus, Nat.le_trans h.2 hs'.length_le⟩
  below h _ hs' hus := ⟨hsubset (hchildren h.1) hus, Nat.le_trans h.2 hs'.length_le⟩
  block _ _ h := by
    refine ⟨?_, Nat.le_trans h.2 (remaining_block_statements ..)⟩
    have hstatements := hchildren h.1
    unfold Grammar.block at hstatements
    rwa [children_finish] at hstatements
  last h hopen := hlast h.1 hopen
  next _ _ _ _ _ := hkeeps _
  skipped _ _ _ _ y _ := hkeeps y

variable {c : Copy} {g : c.Guard} {n : Nat} {context : Context} {s s' s₁ : Cursor} {t : Tree} {ts us : List Tree}
  {x : Lexeme} {xs : List Lexeme} {power : Nat} {sub' : Reader} {closed : Bool} {k : Tree.Kind} {start : Nat}

namespace Guard

theorem here (hg : g.Holds n context s ts s') (hs : s'.PlaceOf c.all) : c.Here s' :=
  ⟨hs, g.le hg⟩

theorem first (hg : g.Holds n context s (t :: us) s') (hp : Passage c.eof c.all s₁ us s') :
    g.Holds n context s [t] s₁ :=
  g.left (show g.Holds n context s ([t] ++ us) s' from hg) hp

theorem others (hg : g.Holds n context s (t :: us) s') (hp : Passage c.eof c.all s [t] s₁) :
    g.Holds n context s₁ us s' :=
  g.right (show g.Holds n context s ([t] ++ us) s' from hg) hp

theorem later (hg : g.Holds n context s us s') (hp : Passage c.eof c.all s [] s₁) : g.Holds n context s₁ us s' :=
  g.right (show g.Holds n context s ([] ++ us) s' from hg) hp

def Deep (g : c.Guard) (n : Nat) : Prop :=
  ∃ context s ts s', g.Holds n context s ts s'

theorem deep (hg : g.Holds n context s ts s') : g.Deep n :=
  ⟨context, s, ts, s', hg⟩

theorem Deep.nil (h : g.Deep n) (hs : c.Here s) (context : Context) : g.Holds n context s [] s := by
  obtain ⟨_, _, _, _, hg⟩ := h
  exact g.nil hg hs

/-- What holds of a node as it is read from the place behind its first lexeme: its children stand in brackets, or
in the context of the node unless the node bounds what is read in it. -/
structure Behind (g : c.Guard) (n : Nat) (context : Context) (s : Cursor) (t : Tree) (s' : Cursor) : Prop where
  bracket : g.Holds n .bracket s t.children s'
  context : t.kind.bounds = false → g.Holds n context s t.children s'
  last : t.kind.isOpen = true → c.IsLast

theorem behind (hg : g.Holds (n + 1) context s [t] s') (hp : Passage c.eof c.all s [] s₁) :
    g.Behind n context s₁ t s' where
  bracket := g.below hg hp.suffix List.suffix_rfl (List.Subset.refl _)
  context := fun ht => later (g.children hg ht) hp
  last := g.last hg

theorem Behind.part (h : g.Behind n context s t s') (hts : ts ⊆ t.children) (hs : s'.rest <:+ s₁.rest) :
    g.Holds n .bracket s ts s₁ :=
  g.inner h.bracket List.suffix_rfl hs hts

/-- A node was closed, or nothing comes behind it in the copy. -/
theorem Behind.finished (h : g.Behind n context s (finish c.eof k start closed ts s₁) s') :
    c.IsLast ∨ closed = true := by
  cases closed with
  | true => exact .inr rfl
  | false => exact .inl (h.last rfl)

/-- The second reader reads in the copy what the reader of `n` levels reads, as far as the condition holds. -/
def Agrees (g : c.Guard) (n : Nat) (sub' : Reader) : Prop :=
  ∀ {power context s}, c.Here s →
    g.Holds n context s (optional (reader c.eof n) power context s).1 (optional (reader c.eof n) power context s).2 →
      sub'.run power context (c.place s) = ((reader c.eof n).run power context s).map c.pair

theorem Agrees.none (h : g.Agrees n sub') (hdeep : g.Deep n) (hs : c.Here s)
    (hrun : (reader c.eof n).run power context s = none) : sub'.run power context (c.place s) = none := by
  rw [h hs (by simpa [optional, hrun] using hdeep.nil hs context), hrun, Option.map_none]

theorem Agrees.some (h : g.Agrees n sub') (hs : c.Here s)
    (hrun : (reader c.eof n).run power context s = some (t, s')) (hg : g.Holds n context s [t] s') :
    sub'.run power context (c.place s) = some (c.pair (t, s')) := by
  rw [h hs (by simpa [optional, hrun] using hg), hrun, Option.map_some]

theorem optional_place (h : g.Agrees n sub') (hs : c.Here s)
    (hg : g.Holds n context s (optional (reader c.eof n) power context s).1
      (optional (reader c.eof n) power context s).2) :
    optional sub' power context (c.place s) = c.several (optional (reader c.eof n) power context s) := by
  rw [optional, h hs hg, optional]
  cases (reader c.eof n).run power context s <;> rfl

end Guard

end Copy

end RSource.Grammar
