import RSource.Proofs.Tree.Sound

/-!
# The path to an offset

The path follows the first child that touches the offset. In a sound tree a node that starts before the
offset and reaches to it is never missed: what stands before the node ends before the offset. So the nodes
around the offset are all on the path, each at its own depth (`Sound.getElem?_pathTo`).
-/

namespace RSource.Tree

variable {offset : Nat} {t u : Tree}

mutual

theorem Sound.span_of_mem_outline : ∀ {t : Tree}, t.Sound → ∀ {n : Nat} {x : Nat × Tree},
    x ∈ outlineFrom n t → t.span.start ≤ x.2.span.start ∧ x.2.span.stop ≤ t.span.stop
  | node k s cs, h, n, x, hx => by
    rw [outlineFrom] at hx
    rcases List.mem_cons.1 hx with rfl | hx
    · exact ⟨Nat.le_refl _, Nat.le_refl _⟩
    · exact Forest.span_of_mem_outline (sound_iff.1 h) hx

theorem Forest.span_of_mem_outline : ∀ {ts : List Tree} {a b : Nat}, Forest a b ts →
    ∀ {n : Nat} {x : Nat × Tree}, x ∈ outlineForest n ts →
      a ≤ x.2.span.start ∧ x.2.span.stop ≤ b
  | [], _, _, _, n, x, hx => by simp [outlineForest] at hx
  | t :: ts, a, b, h, n, x, hx => by
    obtain ⟨h1, h2, h3⟩ := forest_cons.1 h
    rw [outlineForest] at hx
    rcases List.mem_append.1 hx with hx | hx
    · obtain ⟨i1, i2⟩ := h2.span_of_mem_outline hx
      exact ⟨Nat.le_trans h1 i1, Nat.le_trans i2 h3.le⟩
    · obtain ⟨i1, i2⟩ := Forest.span_of_mem_outline h3 hx
      have hle := h2.start_le_stop
      exact ⟨by omega, i2⟩

end

mutual

/-- A node that starts before the offset and reaches to it stands on the path, at its own depth. -/
theorem Sound.getElem?_pathTo : ∀ {t : Tree}, t.Sound → ∀ {n : Nat} {x : Nat × Tree},
    x ∈ outlineFrom n t → x.2.span.start < offset → offset ≤ x.2.span.stop →
      n ≤ x.1 ∧ (pathTo offset t)[x.1 - n]? = some x.2
  | node k s cs, h, n, x, hx, hstart, hstop => by
    rw [outlineFrom] at hx
    rcases List.mem_cons.1 hx with rfl | hx
    · simp [pathTo]
    · obtain ⟨i1, i2⟩ := Forest.getElem?_pathTo (sound_iff.1 h) hx hstart hstop
      refine ⟨by omega, ?_⟩
      rw [pathTo, show x.1 - n = x.1 - (n + 1) + 1 by omega, List.getElem?_cons_succ]
      exact i2

theorem Forest.getElem?_pathTo : ∀ {ts : List Tree} {a b : Nat}, Forest a b ts →
    ∀ {n : Nat} {x : Nat × Tree}, x ∈ outlineForest n ts → x.2.span.start < offset →
      offset ≤ x.2.span.stop → n ≤ x.1 ∧ (pathToForest offset ts)[x.1 - n]? = some x.2
  | [], _, _, _, n, x, hx, _, _ => by simp [outlineForest] at hx
  | t :: ts, _, _, h, n, x, hx, hstart, hstop => by
    obtain ⟨-, h2, h3⟩ := forest_cons.1 h
    rw [outlineForest] at hx
    rw [pathToForest]
    rcases List.mem_append.1 hx with hx | hx
    · obtain ⟨i1, i2⟩ := h2.span_of_mem_outline hx
      have htouch : t.span.touches offset = true := by
        simp only [Span.touches, Bool.and_eq_true, decide_eq_true_eq]
        omega
      rw [if_pos htouch]
      exact h2.getElem?_pathTo hx hstart hstop
    · -- the tree before the node ends before the offset
      have hbefore := (Forest.span_of_mem_outline h3 hx).1
      have htouch : ¬ t.span.touches offset = true := by
        simp only [Span.touches, Bool.and_eq_true, decide_eq_true_eq]
        omega
      rw [if_neg htouch]
      exact Forest.getElem?_pathTo h3 hx hstart hstop

end

mutual

theorem mem_outline_of_pathTo : ∀ {t : Tree} {n i : Nat} {u : Tree},
    (pathTo offset t)[i]? = some u → (n + i, u) ∈ outlineFrom n t
  | node k s cs, n, i, u, h => by
    rw [pathTo] at h
    rw [outlineFrom]
    cases i with
    | zero =>
      obtain rfl : node k s cs = u := Option.some.inj h
      exact List.mem_cons_self
    | succ i =>
      have hmem := mem_outline_of_pathToForest (n := n + 1) (List.getElem?_cons_succ ▸ h)
      rw [show n + 1 + i = n + (i + 1) by omega] at hmem
      exact List.mem_cons_of_mem _ hmem

theorem mem_outline_of_pathToForest : ∀ {ts : List Tree} {n i : Nat} {u : Tree},
    (pathToForest offset ts)[i]? = some u → (n + i, u) ∈ outlineForest n ts
  | [], n, i, u, h => by simp [pathToForest] at h
  | t :: ts, n, i, u, h => by
    rw [pathToForest] at h
    rw [outlineForest]
    split at h
    · exact List.mem_append_left _ (mem_outline_of_pathTo h)
    · exact List.mem_append_right _ (mem_outline_of_pathToForest h)

end

end RSource.Tree
