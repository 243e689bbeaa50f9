import RSource.Arena.Flaw
import RSource.Proofs.Arena.Stand
import RSource.Proofs.Tree.Sound

/-!
# Sound arenas

An arena holds a tree if the tree stands in it below no parent and every cell is one of the tree's. The
walk from the root then comes to every cell once (`Stand.walk`); and if the tree is sound, the cells are
linked as a check of the arena asks for (`Holds.sound`), so that the check finds nothing
(`Sound.flaw?_eq_none`).
-/

namespace RSource.Arena
open RSource.Tree

/-- The walk in pre-order with a stack of places still to come to. -/
inductive Walk (cells : Array Cell) : List Nat → List Nat → Prop
  | done : Walk cells [] []
  | visit {i : Nat} {c : Cell} {stack seen : List Nat} (hcell : cells[i]? = some c)
      (hwalk : Walk cells (c.children ++ stack) seen) : Walk cells (i :: stack) (i :: seen)

/-- The children name their parent `i`, lie in its span and start behind one another. -/
def Links (cells : Array Cell) (i : Nat) (span : Span) (previousStop : Nat) : List Nat → Prop
  | [] => True
  | j :: js => ∃ c, cells[j]? = some c ∧ c.parent? = some i ∧ span.contains c.span ∧
      previousStop ≤ c.span.start ∧ Links cells i span c.span.stop js

def Linked (cells : Array Cell) (i : Nat) : Prop :=
  ∃ c, cells[i]? = some c ∧ Links cells i c.span c.span.start c.children

structure Sound (r : Arena) (length : Nat) : Prop where
  root : ∃ c, r.cells[r.root]? = some c ∧ c.span = ⟨0, length⟩ ∧ c.parent? = none
  walk : ∃ seen, Walk r.cells [r.root] seen ∧ seen.Perm (List.range r.cells.size) ∧
    ∀ i ∈ seen, Linked r.cells i

def Holds (r : Arena) (t : Tree) : Prop :=
  ∃ order, Stand r.cells none [r.root] [t] order ∧ order.Perm (List.range r.cells.size)

variable {r : Arena} {cells : Array Cell} {p : Option Nat} {is js order stack seen : List Nat}
  {a b d i limit n q : Nat} {s : Span} {t : Tree} {ts : List Tree} {c : Cell}

/-! ### Trees that stand in an arena -/

theorem Stand.walk (h : Stand cells p is ts order) (hwalk : Walk cells stack seen) :
    Walk cells (is ++ stack) (order ++ seen) := by
  induction h generalizing stack seen with
  | nil => exact hwalk
  | cons hcell _ _ ihbelow ihbeside =>
    rw [List.cons_append, List.cons_append, List.append_assoc]
    exact .visit hcell (ihbelow (ihbeside hwalk))

theorem Stand.links (h : Stand cells (some q) is ts order) (hts : Forest a b ts) (ha : s.start ≤ a)
    (hb : b ≤ s.stop) : Links cells q s a is := by
  induction is generalizing a ts order with
  | nil => trivial
  | cons i is ih =>
    cases ts with
    | nil => cases h
    | cons t ts =>
      obtain ⟨_, _, _, hcell, -, hbeside, -⟩ := h.of_cons
      obtain ⟨h1, h2, h3⟩ := forest_cons.1 hts
      have hle := h2.start_le_stop
      have hstop := h3.le
      refine ⟨_, hcell, rfl, ?_, h1, ih hbeside h3 (Nat.le_trans ha (Nat.le_trans h1 hle))⟩
      simp only [Span.contains, Bool.and_eq_true, decide_eq_true_eq]
      exact ⟨Nat.le_trans ha h1, Nat.le_trans hstop hb⟩

theorem Stand.linked (h : Stand cells p is ts order) (hts : Forest a b ts) :
    ∀ i ∈ order, Linked cells i := by
  induction h generalizing a b with
  | nil => nofun
  | cons hcell hbelow _ ihbelow ihbeside =>
    obtain ⟨-, h2, h3⟩ := forest_cons.1 hts
    have hbelow' := sound_iff.1 h2
    intro i hi
    rcases List.mem_cons.1 hi with rfl | hi
    · exact ⟨_, hcell, hbelow.links hbelow' (Nat.le_refl _) (Nat.le_refl _)⟩
    · rcases List.mem_append.1 hi with hi | hi
      · exact ihbelow hbelow' i hi
      · exact ihbeside h3 i hi

theorem Holds.sound (h : r.Holds t) (ht : t.Sound) (hspan : t.span = ⟨0, n⟩) : r.Sound n := by
  obtain ⟨order, hstand, hperm⟩ := h
  obtain ⟨_, _, _, hcell, -⟩ := hstand.of_cons
  refine ⟨⟨_, hcell, hspan, rfl⟩, order, ?_, hperm, ?_⟩
  · simpa using hstand.walk Walk.done
  · exact hstand.linked (forest_singleton (Nat.le_refl _) ht (Nat.le_refl _))

/-! ### What the check finds -/

theorem Walk.walk_eq (h : Walk cells stack seen) (hlimit : seen.length ≤ limit) :
    walk cells limit stack = seen := by
  induction h generalizing limit with
  | done => rw [walk]
  | visit hcell _ ih =>
    obtain ⟨limit, rfl⟩ := Nat.exists_eq_add_of_le' (Nat.one_le_of_lt hlimit)
    rw [walk, childrenAt, hcell]
    exact congrArg _ (ih (Nat.le_of_succ_le_succ hlimit))

theorem childFlaw?_eq_none (h : Links cells i c.span d js) : childFlaw? cells i c d js = none := by
  induction js generalizing d with
  | nil => rfl
  | cons j js ih =>
    obtain ⟨child, hcell, hparent, hcontains, hstart, hlinks⟩ := h
    simp only [childFlaw?, hcell]
    rw [if_neg (by simp [hparent]), if_neg (by simp [hcontains]), if_neg (Nat.not_lt.2 hstart)]
    exact ih hlinks

theorem Sound.flaw?_eq_none (h : r.Sound n) : r.flaw? n = none := by
  obtain ⟨c, hroot, hspan, hparent⟩ := h.root
  obtain ⟨seen, hwalk, hperm, hlinked⟩ := h.walk
  have hlength : seen.length = r.cells.size := by rw [hperm.length_eq, List.length_range]
  have hvisits : Arena.walk r.cells (r.cells.size + 1) [r.root] = seen := hwalk.walk_eq (by omega)
  have hnone : seen.findSome? (cellFlaw? r.cells) = none := by
    rw [List.findSome?_eq_none_iff]
    intro i hi
    obtain ⟨d, hcell, hlinks⟩ := hlinked i hi
    rw [cellFlaw?, hcell]
    exact childFlaw?_eq_none hlinks
  simp only [flaw?, spanAt, parentAt?, hroot, hvisits, hnone]
  rw [if_neg (by simp [hspan]), if_neg (by simp [hparent]), if_pos hlength]
  rfl

end RSource.Arena
