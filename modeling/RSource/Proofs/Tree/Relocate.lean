import Mathlib.Order.Monotone.Basic
import RSource.Tree

/-!
# Trees at other offsets

`t.relocate f` is the tree `t` with every offset in it moved by `f`: spans, the spans of operators and
separators. `Settled n ts` says that the trees `ts` have fewer than `n` levels and that none of their
nodes reaches to the end of the text because it was never closed.
-/

namespace RSource

def Span.relocate (f : Nat → Nat) (s : Span) : Span :=
  ⟨f s.start, f s.stop⟩

namespace Tree

def Kind.relocate (f : Nat → Nat) : Kind → Kind
  | .argumentList closed separators => .argumentList closed (separators.map f)
  | .binary op => .binary (op.relocate f)
  | .unary op => .unary (op.relocate f)
  | k => k

/-- A node of the kind reaches to the end of the text because it was never closed. -/
def Kind.isOpen : Kind → Bool
  | .argumentList closed _ => !closed
  | .error unclosed => unclosed
  | _ => false

mutual

/-- The tree with all its offsets moved by `f`. -/
def relocate (f : Nat → Nat) : Tree → Tree
  | node k s cs => node (k.relocate f) (s.relocate f) (relocateForest f cs)

/-- The trees with all their offsets moved by `f`. -/
def relocateForest (f : Nat → Nat) : List Tree → List Tree
  | [] => []
  | t :: ts => relocate f t :: relocateForest f ts

end

variable {f : Nat → Nat} {n d : Nat} {k : Kind} {s : Span} {t : Tree} {ts us : List Tree}

theorem relocateForest_eq (f : Nat → Nat) (ts : List Tree) : relocateForest f ts = ts.map (relocate f) := by
  induction ts with
  | nil => rw [relocateForest, List.map_nil]
  | cons t ts ih => rw [relocateForest, ih, List.map_cons]

@[simp] theorem relocate_node (f : Nat → Nat) (k : Kind) (s : Span) (ts : List Tree) :
    (node k s ts).relocate f = node (k.relocate f) (s.relocate f) (ts.map (relocate f)) := by
  rw [relocate, relocateForest_eq]

@[simp] theorem kind_relocate (f : Nat → Nat) (t : Tree) : (t.relocate f).kind = t.kind.relocate f := by
  cases t
  rw [relocate_node, kind, kind]

@[simp] theorem span_relocate (f : Nat → Nat) (t : Tree) : (t.relocate f).span = t.span.relocate f := by
  cases t
  rw [relocate_node, span, span]

@[simp] theorem children_relocate (f : Nat → Nat) (t : Tree) :
    (t.relocate f).children = t.children.map (relocate f) := by
  cases t
  rw [relocate_node, children, children]

theorem isError_relocate (f : Nat → Nat) (t : Tree) : (t.relocate f).kind.isError = t.kind.isError := by
  rw [kind_relocate]
  cases t.kind <;> rfl

@[simp] theorem Kind.relocate_id (k : Kind) : k.relocate id = k := by
  cases k <;> simp [Kind.relocate, Span.relocate]

mutual

theorem relocate_id : ∀ t : Tree, t.relocate id = t
  | node k s ts => by
    rw [relocate, Kind.relocate_id, relocateForest_id ts]
    rfl

theorem relocateForest_id : ∀ ts : List Tree, relocateForest id ts = ts
  | [] => by rw [relocateForest]
  | t :: ts => by rw [relocateForest, relocate_id t, relocateForest_id ts]

end

/-! ### Settled trees -/

/-- The trees have fewer than `n` levels, and no node is open. -/
def Settled : Nat → List Tree → Prop
  | 0, _ => False
  | n + 1, ts => ∀ t ∈ ts, t.kind.isOpen = false ∧ Settled n t.children

theorem Settled.succ (h : Settled n ts) : Settled (n + 1) ts := by
  induction n generalizing ts with
  | zero => exact h.elim
  | succ n ih => exact fun t ht => ⟨(h t ht).1, ih (h t ht).2⟩

theorem Settled.subset (h : Settled n ts) (hs : us ⊆ ts) : Settled n us := by
  cases n with
  | zero => exact h
  | succ n => exact fun t ht => h t (hs ht)

/-- A forest's outline has its trees, and below each of them the outline of its children. -/
theorem outline_of_mem (d : Nat) (ht : t ∈ ts) :
    (d, t) ∈ outlineForest d ts ∧ outlineForest (d + 1) t.children ⊆ outlineForest d ts := by
  induction ts with
  | nil => cases ht
  | cons u ts ih =>
    rw [outlineForest]
    rcases List.mem_cons.1 ht with rfl | ht
    · obtain ⟨k, s, cs⟩ := t
      rw [outlineFrom]
      refine ⟨List.mem_append_left _ List.mem_cons_self, fun e he => ?_⟩
      exact List.mem_append_left _ (List.mem_cons_of_mem _ he)
    · obtain ⟨hroot, hbelow⟩ := ih ht
      exact ⟨List.mem_append_right _ hroot, fun e he => List.mem_append_right _ (hbelow he)⟩

/-- Trees whose nodes are closed and stand above the level `d + n`. -/
theorem settled_of_outline (d : Nat)
    (h : ∀ e ∈ outlineForest d ts, e.1 < d + n ∧ e.2.kind.isOpen = false) : Settled (n + 1) ts := by
  induction n generalizing d ts with
  | zero =>
    intro t ht
    have hroot := (h _ (outline_of_mem d ht).1).1
    exact absurd hroot (Nat.lt_irrefl d)
  | succ n ih =>
    intro t ht
    obtain ⟨hroot, hbelow⟩ := outline_of_mem d ht
    refine ⟨(h _ hroot).2, ih (d + 1) fun e he => ?_⟩
    obtain ⟨hdepth, hopen⟩ := h e (hbelow he)
    exact ⟨by omega, hopen⟩

end Tree

end RSource
