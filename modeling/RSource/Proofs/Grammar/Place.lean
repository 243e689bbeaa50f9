import RSource.Proofs.Grammar.Step
import RSource.Proofs.Tree.Sound

/-!
# Reading trees from an ordered place

A place is ordered if the lexemes left at it follow one another up to the end of the text. How far the
trees before a place may reach is its `reach`: the end of the last lexeme, or the end of the text once
no lexeme is left, since then an error that was never closed may stand there.

`Reads eof s ts s'` says that the trees `ts` stand between the places `s` and `s'`; `Stands eof a t s`
that the tree `t` starts at `a` and stands before `s`. What a part of the grammar reads is one or the
other, and both can be put together (`Reads.trans`, `Reads.node`, `Reads.finish`).
-/

namespace RSource.Grammar
open RSource.Tree

variable {eof a b d last : Nat} {s s' s'' : Cursor} {x : Lexeme} {xs : List Lexeme} {t : Tree}
  {ts us : List Tree} {k : Tree.Kind} {closed : Bool}

/-! ### Ordered places -/

/-- The lexemes follow one another between `last` and `eof`. -/
def InOrder (eof last : Nat) : List Lexeme → Prop
  | [] => last ≤ eof
  | x :: xs => last ≤ x.span.start ∧ x.span.start ≤ x.span.stop ∧ InOrder eof x.span.stop xs

theorem InOrder.le (h : InOrder eof last xs) : last ≤ eof := by
  induction xs generalizing last with
  | nil => exact h
  | cons x xs ih =>
    obtain ⟨h1, h2, h3⟩ := h
    exact Nat.le_trans h1 (Nat.le_trans h2 (ih h3))

theorem InOrder.bounds_of_mem (h : InOrder eof last xs) (hx : x ∈ xs) :
    last ≤ x.span.start ∧ x.span.start ≤ x.span.stop ∧ x.span.stop ≤ eof := by
  induction xs generalizing last with
  | nil => cases hx
  | cons y ys ih =>
    obtain ⟨h1, h2, h3⟩ := h
    rcases List.mem_cons.1 hx with rfl | hx
    · exact ⟨h1, h2, h3.le⟩
    · have hb := ih h3 hx
      exact ⟨by omega, hb.2⟩

theorem InOrder.le_start_of_mem (h : InOrder eof last xs) (hx : x ∈ xs) : last ≤ x.span.start :=
  (h.bounds_of_mem hx).1

theorem InOrder.start_le_stop_of_mem (h : InOrder eof last xs) (hx : x ∈ xs) : x.span.start ≤ x.span.stop :=
  (h.bounds_of_mem hx).2.1

theorem InOrder.stop_le_of_mem (h : InOrder eof last xs) (hx : x ∈ xs) : x.span.stop ≤ eof :=
  (h.bounds_of_mem hx).2.2

theorem InOrder.le_stop_of_mem (h : InOrder eof last xs) (hx : x ∈ xs) : last ≤ x.span.stop :=
  Nat.le_trans (h.le_start_of_mem hx) (h.start_le_stop_of_mem hx)

namespace Cursor

/-- The lexemes that are left follow the last one before the place. -/
def Ordered (eof : Nat) (s : Cursor) : Prop :=
  InOrder eof s.lastStop s.rest

/-- How far the trees before the place may reach. -/
def reach (eof : Nat) (s : Cursor) : Nat :=
  if s.rest = [] then eof else s.lastStop

theorem reach_of_nil (h : s.rest = []) : s.reach eof = eof :=
  if_pos h

theorem Ordered.lastStop_le_reach (h : s.Ordered eof) : s.lastStop ≤ s.reach eof := by
  unfold reach
  split
  · exact InOrder.le h
  · exact Nat.le_refl _

theorem Ordered.reach_le (h : s.Ordered eof) : s.reach eof ≤ eof := by
  unfold reach
  split
  · exact Nat.le_refl _
  · exact InOrder.le h

/-- The place is ordered and the lexeme stands right before it. -/
structure Behind (eof : Nat) (x : Lexeme) (s : Cursor) : Prop where
  ordered : s.Ordered eof
  start_le_stop : x.span.start ≤ x.span.stop
  stop_eq : x.span.stop = s.lastStop

theorem Behind.stop_le_reach (h : Behind eof x s) : x.span.stop ≤ s.reach eof :=
  h.stop_eq ▸ h.ordered.lastStop_le_reach

theorem Behind.start_le_reach (h : Behind eof x s) : x.span.start ≤ s.reach eof :=
  Nat.le_trans h.start_le_stop h.stop_le_reach

/-- The next lexeme starts behind what was read, and behind it the place is ordered. -/
theorem Ordered.next (h : s.Ordered eof) (hs : s.rest = x :: xs) :
    s.reach eof ≤ x.span.start ∧ Behind eof x ⟨xs, x.span.stop⟩ := by
  rw [Ordered, hs] at h
  rw [reach, if_neg (by simp [hs])]
  exact ⟨h.1, h.2.2, h.2.1, rfl⟩

theorem Ordered.lastStop_le_advance (h : s.Ordered eof) : s.lastStop ≤ s.advance.lastStop := by
  cases hs : s.rest with
  | nil => exact Nat.le_of_eq (by rw [advance_of_nil hs])
  | cons x xs =>
    rw [advance_of_cons hs]
    obtain ⟨h1, h2⟩ := h.next hs
    exact Nat.le_trans h.lastStop_le_reach (Nat.le_trans h1 h2.start_le_stop)

end Cursor

open Cursor

/-! ### Trees between two places -/

/-- The trees stand between the places, and the second one is ordered. -/
structure Reads (eof : Nat) (s : Cursor) (ts : List Tree) (s' : Cursor) : Prop where
  ordered : s'.Ordered eof
  forest : Forest (s.reach eof) (s'.reach eof) ts

/-- The tree starts at `a` and stands before the place, which is ordered. -/
structure Stands (eof a : Nat) (t : Tree) (s : Cursor) : Prop where
  ordered : s.Ordered eof
  sound : t.Sound
  start_eq : t.span.start = a
  stop_le : t.span.stop ≤ s.reach eof

theorem Stands.of_eq {r : Tree × Cursor} (hr : Stands eof a r.1 r.2) (h : r = (t, s)) :
    Stands eof a t s := by
  subst h
  exact hr

theorem Reads.refl (h : s.Ordered eof) : Reads eof s [] s :=
  ⟨h, forest_nil.2 (Nat.le_refl _)⟩

theorem Reads.trans (h : Reads eof s ts s') (h' : Reads eof s' us s'') : Reads eof s (ts ++ us) s'' :=
  ⟨h'.ordered, h.forest.append h'.forest⟩

theorem Reads.reach_le (h : Reads eof s ts s') : s.reach eof ≤ s'.reach eof :=
  h.forest.le

theorem Reads.next (h : s.Ordered eof) (hs : s.rest = x :: xs) : Reads eof s [] ⟨xs, x.span.stop⟩ := by
  obtain ⟨h1, h2⟩ := h.next hs
  exact ⟨h2.ordered, forest_nil.2 (Nat.le_trans h1 h2.start_le_reach)⟩

theorem Reads.advance (h : s.Ordered eof) : Reads eof s [] s.advance := by
  cases hs : s.rest with
  | nil => rw [advance_of_nil hs]; exact .refl h
  | cons x xs => rw [advance_of_cons hs]; exact .next h hs

theorem Reads.advanced (h : Reads eof s ts s') : Reads eof s ts s'.advance := by
  simpa using h.trans (.advance h.ordered)

theorem Stands.reads (h : Stands eof a t s') (ha : s.reach eof ≤ a) : Reads eof s [t] s' :=
  ⟨h.ordered, forest_singleton (h.start_eq ▸ ha) h.sound h.stop_le⟩

theorem Stands.node (hs : s.Ordered eof) (h : Forest a b ts) (hb : b ≤ s.reach eof) :
    Stands eof a (.node k ⟨a, b⟩ ts) s :=
  ⟨hs, sound_iff.2 h, rfl, hb⟩

theorem Reads.wrap (h : Reads eof s [t] s') : Reads eof s [.node k t.span [t]] s' := by
  obtain ⟨h1, h2, h3⟩ := forest_cons.1 h.forest
  refine ⟨h.ordered, forest_singleton h1 ?_ (forest_nil.1 h3)⟩
  exact sound_iff.2 (forest_singleton (Nat.le_refl _) h2 (Nat.le_refl _))

theorem Stands.leaf (h : Behind eof x s) (k : Tree.Kind) : Stands eof x.span.start (x.leaf k) s :=
  .node h.ordered (forest_nil.2 h.start_le_stop) h.stop_le_reach

/-! ### Ends of nodes -/

theorem forest_lastStopD (h : Forest a b ts) (hd : d ≤ a) :
    Forest d (lastStopD ts d) ts ∧ lastStopD ts d ≤ b := by
  induction ts generalizing a d with
  | nil => exact ⟨forest_nil.2 (Nat.le_refl _), Nat.le_trans hd (forest_nil.1 h)⟩
  | cons t ts ih =>
    obtain ⟨h1, h2, h3⟩ := forest_cons.1 h
    have hlast : lastStopD (t :: ts) d = lastStopD ts t.span.stop := by
      cases ts with
      | nil => rfl
      | cons u ts => simp [lastStopD, List.getLast?_cons]
    obtain ⟨h4, h5⟩ := ih h3 (Nat.le_refl _)
    rw [hlast]
    exact ⟨forest_cons.2 ⟨Nat.le_trans hd h1, h2, h4⟩, h5⟩

/-- A node that ends with its last child, or at `d` without children. -/
theorem Reads.node (h : Reads eof s ts s') (hd : d ≤ s.reach eof) (ha : a ≤ d) :
    Stands eof a (.node k ⟨a, lastStopD ts d⟩ ts) s' := by
  obtain ⟨h1, h2⟩ := forest_lastStopD h.forest hd
  exact .node h.ordered (h1.start_le ha) h2

/-- A node with a first child before `d` that ends with its last child, or at `d` without further
ones. -/
theorem Reads.node_cons (h : Reads eof s ts s') (hd : d ≤ s.reach eof) (ht : t.Sound)
    (htd : t.span.stop ≤ d) :
    Stands eof t.span.start (.node k ⟨t.span.start, lastStopD ts d⟩ (t :: ts)) s' := by
  obtain ⟨h1, h2⟩ := forest_lastStopD h.forest hd
  exact .node h.ordered (forest_cons.2 ⟨Nat.le_refl _, ht, h1.start_le htd⟩) h2

/-- A node behind its opener that reaches to the last lexeme read. -/
theorem Reads.finish_closed (h : Reads eof s ts s') (ha : a ≤ s.reach eof) :
    Stands eof a (finish eof k a true ts s') s' := by
  have hforest := h.forest.start_le ha
  obtain ⟨h1, h2⟩ := forest_lastStopD hforest (Nat.le_refl a)
  have hlast := h.ordered.lastStop_le_reach
  have hle := hforest.le
  exact .node h.ordered (h1.le_stop (by omega)) (by omega)

/-- A node behind its opener that was not closed. -/
theorem Reads.finish_open (h : Reads eof s ts s') (k : Tree.Kind) (ha : a ≤ s.reach eof)
    (hnil : s'.rest = []) :
    Stands eof a (finish eof k a false ts s') s' := by
  have hforest := h.forest.start_le ha
  have hr : s'.reach eof = eof := reach_of_nil hnil
  rw [hr] at hforest
  exact .node h.ordered hforest (Nat.le_of_eq hr.symm)

theorem Reads.finish (h : Reads eof s ts s') (ha : a ≤ s.reach eof)
    (hc : closed = false → s'.rest = []) : Stands eof a (finish eof k a closed ts s') s' := by
  cases closed with
  | true => exact h.finish_closed ha
  | false => exact h.finish_open k ha (hc rfl)

end RSource.Grammar
