import RSource.Proofs.Tree.Nodes
import RSource.Proofs.Tree.Path

/-!
# The innermost node around a stretch of text

Programs, blocks, errors, groups in parentheses and argument lists are the nodes that bound what is read inside
them. Of those that hold a stretch of text there is an innermost one (`exists_isInnermost`), and in a sound tree
there is no other (`IsInnermost.eq`).
-/

namespace RSource.Tree

variable {a : Span} {lo hi : Nat} {t u v : Tree} {ts : List Tree}

/-- Nodes of the kind bound what is read inside them. -/
def Kind.bounds : Kind → Bool
  | .program | .block | .error _ | .parenthesized | .argumentList _ _ => true
  | _ => false

/-- The kinds of a group in parentheses and of an argument list. -/
def Kind.isGroup : Kind → Bool
  | .parenthesized | .argumentList _ _ => true
  | _ => false

/-- The node bounds what is read inside it, and holds the span. -/
def Bounds (a : Span) (u : Tree) : Prop :=
  u.kind.bounds = true ∧ u.span.contains a = true

/-- The node bounds the span, and no node below it does. -/
def IsInnermost (a : Span) (u : Tree) : Prop :=
  u.Bounds a ∧ ∀ c ∈ u.children, ∀ v ∈ c.nodes, ¬ v.Bounds a

instance : DecidablePred (Bounds a) :=
  fun _ => inferInstanceAs (Decidable (_ ∧ _))

instance : DecidablePred (IsInnermost a) :=
  fun _ => inferInstanceAs (Decidable (_ ∧ _))

theorem bounds_iff : u.Bounds a ↔ u.kind.bounds = true ∧ u.span.start ≤ a.start ∧ a.stop ≤ u.span.stop := by
  simp [Bounds, Span.contains]

theorem Bounds.span_le (h : u.Bounds a) : u.span.start ≤ a.start ∧ a.stop ≤ u.span.stop :=
  (bounds_iff.1 h).2

theorem exists_isInnermost : ∀ {t : Tree}, (∃ v ∈ t.nodes, v.Bounds a) → ∃ u ∈ t.nodes, u.IsInnermost a
  | node k s cs, h => by
    by_cases hbelow : ∃ c ∈ cs, ∃ v ∈ c.nodes, v.Bounds a
    · obtain ⟨c, hc, hv⟩ := hbelow
      have hsize := List.sizeOf_lt_of_mem hc
      obtain ⟨u, hu, hinner⟩ := exists_isInnermost hv
      exact ⟨u, mem_nodes.2 (.inr ⟨c, hc, hu⟩), hinner⟩
    · obtain ⟨v, hv, hbounds⟩ := h
      rcases mem_nodes.1 hv with rfl | ⟨c, hc, hv⟩
      · exact ⟨_, hv, hbounds, fun c hc w hw hw' => hbelow ⟨c, hc, w, hw, hw'⟩⟩
      · exact absurd ⟨c, hc, v, hv, hbounds⟩ hbelow
termination_by t => sizeOf t
decreasing_by
  simp only [node.sizeOf_spec]
  omega

/-- The nodes of trees in order lie where the trees do. -/
theorem Forest.span_of_mem_nodes (h : Forest lo hi ts) (ht : t ∈ ts) (hu : u ∈ t.nodes) :
    lo ≤ u.span.start ∧ u.span.stop ≤ hi := by
  obtain ⟨x, hx, rfl⟩ := List.mem_map.1 ((mem_map_outlineForest 0).2 ⟨t, ht, hu⟩)
  exact h.span_of_mem_outline hx

theorem Forest.eq_of_mem_nodes (h : Forest lo hi ts) (ha : a.start < a.stop) (ht : t ∈ ts) (hu : u ∈ ts)
    {v w : Tree} (hv : v ∈ t.nodes) (hw : w ∈ u.nodes) (hva : v.Bounds a) (hwa : w.Bounds a) : t = u := by
  have hv' := hva.span_le
  have hw' := hwa.span_le
  induction ts generalizing lo with
  | nil => cases ht
  | cons c cs ih =>
    obtain ⟨-, hc, hcs⟩ := forest_cons.1 h
    have hfirst : Forest c.span.start c.span.stop [c] := forest_singleton (Nat.le_refl _) hc (Nat.le_refl _)
    rcases List.mem_cons.1 ht with rfl | ht' <;> rcases List.mem_cons.1 hu with rfl | hu'
    · rfl
    · have hbefore := hfirst.span_of_mem_nodes List.mem_cons_self hv
      have hbehind := hcs.span_of_mem_nodes hu' hw
      omega
    · have hbefore := hfirst.span_of_mem_nodes List.mem_cons_self hw
      have hbehind := hcs.span_of_mem_nodes ht' hv
      omega
    · exact ih hcs ht' hu'

theorem IsInnermost.eq (ha : a.start < a.stop) : ∀ {t u v : Tree}, t.Sound → u ∈ t.nodes → v ∈ t.nodes →
    u.IsInnermost a → v.IsInnermost a → u = v
  | node k s cs, u, v, ht, hu, hv, hua, hva => by
    rcases mem_nodes.1 hu with rfl | ⟨c, hc, hu⟩
    · rcases mem_nodes.1 hv with rfl | ⟨d, hd, hv⟩
      · rfl
      · exact absurd hva.1 (hua.2 d hd v hv)
    · rcases mem_nodes.1 hv with rfl | ⟨d, hd, hv⟩
      · exact absurd hua.1 (hva.2 c hc u hu)
      · have hforest := sound_iff.1 ht
        obtain rfl : c = d := hforest.eq_of_mem_nodes ha hc hd hu hv hua.1 hva.1
        have hsize := List.sizeOf_lt_of_mem (show c ∈ cs from hc)
        have hsound : c.Sound := ht.of_mem_nodes (mem_nodes.2 (.inr ⟨c, hc, mem_nodes.2 (.inl rfl)⟩))
        exact IsInnermost.eq ha hsound hu hv hua hva
termination_by t => sizeOf t
decreasing_by
  simp only [node.sizeOf_spec]
  omega

end RSource.Tree
