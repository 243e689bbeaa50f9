import Mathlib.Data.List.Perm.Basic
import RSource.Arena

/-!
# Trees that stand in an arena

`Stand cells p is ts order` says that the trees `ts` stand in the cells, with their roots at the places
`is` and below the parent `p`; `order` are the places of all their cells in pre-order. What cells hold
is read off these places alone (`Stand.congr`), so that trees stay where they are while cells are added.

`Grows a b is ts` says that the cells `b` have come from `a` by adding just the cells of the trees `ts`,
which have no parent yet. There is one lemma for each way in which cells change: putting one growth
behind another (`Grows.trans`), making a cell over all that has grown (`Grows.alloc`), and adopting
(`Grows.adopt`). That the places in `order` are those of the new cells, each once, is what rules out
cells that no tree holds.
-/

namespace RSource.Arena
open RSource.Tree

inductive Stand (cells : Array Cell) : Option Nat → List Nat → List Tree → List Nat → Prop
  | nil {p : Option Nat} : Stand cells p [] [] []
  | cons {p : Option Nat} {i : Nat} {is js below beside : List Nat} {k : Kind} {s : Span}
      {cs ts : List Tree} (hcell : cells[i]? = some ⟨k, s, p, js⟩)
      (hbelow : Stand cells (some i) js cs below) (hbeside : Stand cells p is ts beside) :
      Stand cells p (i :: is) (node k s cs :: ts) (i :: (below ++ beside))

variable {cells cells' a b c : Array Cell} {p : Option Nat} {i j q : Nat} {is js order order' : List Nat}
  {t u : Tree} {ts us : List Tree} {k : Kind} {s : Span}

namespace Stand

theorem of_cons (h : Stand cells p (i :: is) (t :: ts) order) : ∃ js below beside,
    cells[i]? = some ⟨t.kind, t.span, p, js⟩ ∧ Stand cells (some i) js t.children below ∧
      Stand cells p is ts beside ∧ order = i :: (below ++ beside) := by
  cases h with
  | cons hcell hbelow hbeside => exact ⟨_, _, _, hcell, hbelow, hbeside, rfl⟩

theorem nil_right (h : Stand cells p [] [] order) : order = [] := by
  cases h
  rfl

theorem length_eq (h : Stand cells p is ts order) : is.length = ts.length := by
  induction h with
  | nil => rfl
  | cons _ _ _ _ ih => rw [List.length_cons, List.length_cons, ih]

theorem subset (h : Stand cells p is ts order) : is ⊆ order := by
  induction h with
  | nil => exact List.Subset.refl _
  | cons _ _ _ _ ih =>
    exact List.cons_subset_cons _ (List.Subset.trans ih (List.subset_append_right _ _))

theorem append (h : Stand cells p is ts order) (h' : Stand cells p js us order') :
    Stand cells p (is ++ js) (ts ++ us) (order ++ order') := by
  induction h with
  | nil => exact h'
  | cons hcell hbelow _ _ ih =>
    rw [List.cons_append, List.cons_append, List.cons_append, List.append_assoc]
    exact .cons hcell hbelow (ih h')

theorem congr (h : Stand cells p is ts order) (hcells : ∀ i ∈ order, cells'[i]? = cells[i]?) :
    Stand cells' p is ts order := by
  induction h with
  | nil => exact .nil
  | cons hcell _ _ ihbelow ihbeside =>
    refine .cons ((hcells _ List.mem_cons_self).trans hcell) (ihbelow fun i hi => ?_)
      (ihbeside fun i hi => ?_)
    · exact hcells i (List.mem_cons_of_mem _ (List.mem_append_left _ hi))
    · exact hcells i (List.mem_cons_of_mem _ (List.mem_append_right _ hi))

theorem withParent (h : Stand cells p is ts order) (hnodup : order.Nodup)
    (hroots : ∀ i ∈ is, cells'[i]? = cells[i]?.map (·.withParent q))
    (hothers : ∀ i ∈ order, i ∉ is → cells'[i]? = cells[i]?) : Stand cells' (some q) is ts order := by
  induction h with
  | nil => exact .nil
  | cons hcell hbelow hbeside _ ih =>
    obtain ⟨hhead, htail⟩ := List.nodup_cons.1 hnodup
    obtain ⟨-, hnodupBeside, hdisjoint⟩ := List.nodup_append.1 htail
    refine .cons ?_ (hbelow.congr fun i hi => hothers i ?_ ?_) (ih hnodupBeside ?_ ?_)
    · rw [hroots _ List.mem_cons_self, hcell]
      rfl
    · exact List.mem_cons_of_mem _ (List.mem_append_left _ hi)
    · refine List.not_mem_cons_of_ne_of_not_mem ?_ fun his =>
        hdisjoint _ hi _ (hbeside.subset his) rfl
      rintro rfl
      exact hhead (List.mem_append_left _ hi)
    · exact fun i hi => hroots i (List.mem_cons_of_mem _ hi)
    · intro i hi his
      refine hothers i (List.mem_cons_of_mem _ (List.mem_append_right _ hi)) ?_
      refine List.not_mem_cons_of_ne_of_not_mem ?_ his
      rintro rfl
      exact hhead (List.mem_append_right _ hi)

theorem spans (h : Stand cells p is ts order) : is.map (spanAt cells) = ts.map Tree.span := by
  induction h with
  | nil => rfl
  | cons hcell _ _ _ ih =>
    rw [List.map_cons, List.map_cons, ih, spanAt, hcell]
    rfl

end Stand

/-! ### Changed cells -/

theorem getElem?_linkAll (cells : Array Cell) (q : Nat) (is : List Nat) (j : Nat) :
    (linkAll cells q is)[j]? = if j ∈ is then cells[j]?.map (·.withParent q) else cells[j]? := by
  induction is generalizing cells with
  | nil => rfl
  | cons i is ih =>
    have hstep : linkAll cells q (i :: is) = linkAll (cells.modify i (·.withParent q)) q is := rfl
    rw [hstep, ih, Array.getElem?_modify]
    by_cases hij : i = j
    · subst hij
      by_cases his : i ∈ is
      · cases cells[i]? <;> simp [his, Cell.withParent]
      · simp [his]
    · simp [hij, Ne.symm hij]

theorem size_linkAll (cells : Array Cell) (q : Nat) (is : List Nat) :
    (linkAll cells q is).size = cells.size := by
  induction is generalizing cells with
  | nil => rfl
  | cons i is ih =>
    have hstep : linkAll cells q (i :: is) = linkAll (cells.modify i (·.withParent q)) q is := rfl
    rw [hstep, ih, Array.size_modify]

theorem size_adopt (cells : Array Cell) (i j : Nat) : (adopt cells i j).size = cells.size := by
  rw [adopt, Array.size_modify, Array.size_modify]

theorem getElem?_adopt_of_ne {m : Nat} (hmi : m ≠ i) (hmj : m ≠ j) :
    (adopt cells i j)[m]? = cells[m]? := by
  rw [adopt, Array.getElem?_modify, if_neg (Ne.symm hmi), Array.getElem?_modify, if_neg (Ne.symm hmj)]

theorem getElem?_adopt_child (hj : cells[j]? = some ⟨k, s, p, js⟩) (hij : i ≠ j) :
    (adopt cells i j)[j]? = some ⟨k, s, some i, js⟩ := by
  rw [adopt, Array.getElem?_modify, if_neg hij, Array.getElem?_modify, if_pos rfl, hj]
  rfl

theorem getElem?_adopt_parent {parent child : Cell} (hi : cells[i]? = some parent)
    (hj : cells[j]? = some child) (hij : i ≠ j) :
    (adopt cells i j)[i]? = some (parent.withChild j child.span.stop) := by
  rw [adopt, Array.getElem?_modify, if_pos rfl, Array.getElem?_modify, if_neg (Ne.symm hij), hi, spanAt, hj]
  rfl

/-! ### Growth -/

structure Grows (a b : Array Cell) (is : List Nat) (ts : List Tree) : Prop where
  size_le : a.size ≤ b.size
  kept : ∀ i < a.size, b[i]? = a[i]?
  stand : ∃ order, Stand b none is ts order ∧ order.Perm (List.range' a.size (b.size - a.size))

namespace Grows

theorem refl (a : Array Cell) : Grows a a [] [] :=
  ⟨Nat.le_refl _, fun _ _ => rfl, [], .nil, by simp⟩

theorem length_eq (h : Grows a b is ts) : is.length = ts.length := by
  obtain ⟨_, hstand, -⟩ := h.stand
  exact hstand.length_eq

theorem spans (h : Grows a b is ts) : is.map (spanAt b) = ts.map Tree.span := by
  obtain ⟨_, hstand, -⟩ := h.stand
  exact hstand.spans

theorem trans (h : Grows a b is ts) (h' : Grows b c js us) : Grows a c (is ++ js) (ts ++ us) := by
  obtain ⟨order, hstand, hperm⟩ := h.stand
  obtain ⟨order', hstand', hperm'⟩ := h'.stand
  have h1 := h.size_le
  have h2 := h'.size_le
  refine ⟨Nat.le_trans h1 h2, fun i hi => ?_, order ++ order', ?_, ?_⟩
  · rw [h'.kept i (Nat.lt_of_lt_of_le hi h1), h.kept i hi]
  · refine (hstand.congr fun i hi => h'.kept i ?_).append hstand'
    have := List.mem_range'_1.1 (hperm.mem_iff.1 hi)
    omega
  · have hrange : List.range' a.size (c.size - a.size) =
        List.range' a.size (b.size - a.size) ++ List.range' b.size (c.size - b.size) := by
      rw [show c.size - a.size = (b.size - a.size) + (c.size - b.size) by omega,
        ← List.range'_append_1, show a.size + (b.size - a.size) = b.size by omega]
    rw [hrange]
    exact hperm.append hperm'

/-- The new cell is the parent of all trees that have grown. -/
theorem alloc (h : Grows a b is ts) : Grows a (alloc b k s is) [b.size] [node k s ts] := by
  obtain ⟨order, hstand, hperm⟩ := h.stand
  have hle := h.size_le
  have hsize : (Arena.alloc b k s is).size = b.size + 1 := by
    rw [Arena.alloc, Array.size_push, size_linkAll]
  have hold : ∀ i < b.size, (Arena.alloc b k s is)[i]? = (linkAll b b.size is)[i]? := by
    intro i hi
    rw [Arena.alloc, Array.getElem?_push, size_linkAll, if_neg (Nat.ne_of_lt hi)]
  have hnew : (Arena.alloc b k s is)[b.size]? = some ⟨k, s, none, is⟩ := by
    rw [Arena.alloc, Array.getElem?_push, size_linkAll, if_pos rfl]
  have horder : ∀ i ∈ order, a.size ≤ i ∧ i < b.size := by
    intro i hi
    have := List.mem_range'_1.1 (hperm.mem_iff.1 hi)
    omega
  refine ⟨by omega, fun i hi => ?_, b.size :: (order ++ []), .cons hnew ?_ .nil, ?_⟩
  · have hroot : i ∉ is := fun his => Nat.not_le_of_lt hi (horder i (hstand.subset his)).1
    rw [hold i (Nat.lt_of_lt_of_le hi hle), getElem?_linkAll, if_neg hroot, h.kept i hi]
  · have hnodup : order.Nodup := hperm.nodup_iff.2 List.nodup_range'
    refine hstand.withParent hnodup (fun i hi => ?_) fun i hi hroot => ?_
    · rw [hold i (horder i (hstand.subset hi)).2, getElem?_linkAll, if_pos hi]
    · rw [hold i (horder i hi).2, getElem?_linkAll, if_neg hroot]
  · rw [List.append_nil, hsize, show b.size + 1 - a.size = (b.size - a.size) + 1 by omega,
      List.range'_concat, Nat.one_mul, show a.size + (b.size - a.size) = b.size by omega]
    exact (hperm.cons _).trans (List.perm_append_singleton ..).symm

theorem adopt (h : Grows a b [i, j] [t, u]) : Grows a (adopt b i j) [i] [t.adopt u] := by
  obtain ⟨_, hstand, hperm⟩ := h.stand
  have hnodup := hperm.nodup_iff.2 List.nodup_range'
  have hle : ∀ m ∈ _, a.size ≤ m := fun m hm => (List.mem_range'_1.1 (hperm.mem_iff.1 hm)).1
  obtain ⟨is, below, _, hi, hbelow, hbeside, rfl⟩ := hstand.of_cons
  obtain ⟨is', below', _, hj, hbelow', hbeside', rfl⟩ := hbeside.of_cons
  obtain rfl := hbeside'.nil_right
  simp only [List.nodup_cons, List.nodup_append, List.mem_append, List.mem_cons, not_or] at hnodup hle
  obtain ⟨⟨hni, hij, hni', -⟩, -, ⟨⟨hnj', -⟩, -⟩, hdisjoint⟩ := hnodup
  have hparent := getElem?_adopt_parent hi hj hij
  have hchild := getElem?_adopt_child hj hij
  have hchildren : Stand (Arena.adopt b i j) (some i) is t.children below :=
    hbelow.congr fun m hm => getElem?_adopt_of_ne (by rintro rfl; exact hni hm)
      (by rintro rfl; exact hdisjoint _ hm _ (.inl rfl) rfl)
  have hadopted : Stand (Arena.adopt b i j) (some i) [j] [u] (j :: (below' ++ [])) := by
    obtain ⟨k, s, cs⟩ := u
    refine .cons hchild (hbelow'.congr fun m hm => getElem?_adopt_of_ne ?_ ?_) .nil
    · rintro rfl
      exact hni' hm
    · rintro rfl
      exact hnj' hm
  refine ⟨?_, fun m hm => ?_, _, .cons hparent (hchildren.append hadopted) .nil, ?_⟩
  · rw [size_adopt]
    exact h.size_le
  · have hi' := hle i (.inl rfl)
    have hj' := hle j (.inr (.inr (.inl rfl)))
    rw [getElem?_adopt_of_ne (by omega) (by omega), h.kept m hm]
  · rw [size_adopt, List.append_nil]
    exact hperm

end Grows

end RSource.Arena
