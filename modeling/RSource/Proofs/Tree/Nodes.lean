import RSource.Tree

/-!
# The nodes of a tree

The nodes are the root and the nodes of its children (`mem_nodes`). `Everywhere P ts` says that all nodes of
the trees `ts` satisfy `P`.
-/

namespace RSource.Tree

variable {P : Tree → Prop} {t u : Tree} {ts us : List Tree}

mutual

/-- The depth from which levels are counted does not matter for the nodes. -/
theorem map_outlineFrom : ∀ (n m : Nat) (t : Tree),
    (outlineFrom n t).map Prod.snd = (outlineFrom m t).map Prod.snd
  | n, m, node k s cs => by
    rw [outlineFrom, outlineFrom, List.map_cons, List.map_cons, map_outlineForest (n + 1) (m + 1) cs]

theorem map_outlineForest : ∀ (n m : Nat) (ts : List Tree),
    (outlineForest n ts).map Prod.snd = (outlineForest m ts).map Prod.snd
  | n, m, [] => rfl
  | n, m, t :: ts => by
    rw [outlineForest, outlineForest, List.map_append, List.map_append, map_outlineFrom n m t,
      map_outlineForest n m ts]

end

theorem mem_map_outlineForest (n : Nat) :
    u ∈ (outlineForest n ts).map Prod.snd ↔ ∃ t ∈ ts, u ∈ t.nodes := by
  induction ts with
  | nil => simp [outlineForest]
  | cons t ts ih =>
    rw [outlineForest, List.map_append, List.mem_append, ih, map_outlineFrom n 0 t]
    simp [nodes, outline]

theorem mem_nodes : u ∈ t.nodes ↔ u = t ∨ ∃ c ∈ t.children, u ∈ c.nodes := by
  obtain ⟨k, s, cs⟩ := t
  have hbelow : u ∈ (outlineForest 1 cs).map Prod.snd ↔ ∃ c ∈ cs, u ∈ c.nodes := mem_map_outlineForest 1
  rw [nodes, outline, outlineFrom, List.map_cons, List.mem_cons]
  exact or_congr Iff.rfl hbelow

theorem nodes_node (k : Kind) (s : Span) (cs : List Tree) :
    (node k s cs).nodes = node k s cs :: cs.flatMap nodes := by
  have hforest : ∀ ts : List Tree, (outlineForest 1 ts).map Prod.snd = ts.flatMap nodes := by
    intro ts
    induction ts with
    | nil => rfl
    | cons t ts ih =>
      rw [outlineForest, List.map_append, ih, map_outlineFrom 1 0 t]
      rfl
  rw [nodes, outline, outlineFrom, List.map_cons, hforest]

theorem nodes_subset : ∀ {t u : Tree}, u ∈ t.nodes → u.nodes ⊆ t.nodes
  | node k s cs, u, hu => by
    rcases mem_nodes.1 hu with rfl | ⟨c, hc, hu⟩
    · exact fun _ hv => hv
    · intro v hv
      have hsize := List.sizeOf_lt_of_mem (show c ∈ cs from hc)
      exact mem_nodes.2 (.inr ⟨c, hc, nodes_subset hu hv⟩)
termination_by t => sizeOf t
decreasing_by
  simp only [node.sizeOf_spec]
  omega

theorem child_mem_nodes {c : Tree} (hu : u ∈ t.nodes) (hc : c ∈ u.children) : c ∈ t.nodes :=
  nodes_subset hu (mem_nodes.2 (.inr ⟨c, hc, mem_nodes.2 (.inl rfl)⟩))

/-- All nodes of the trees satisfy the property. -/
def Everywhere (P : Tree → Prop) (ts : List Tree) : Prop :=
  ∀ t ∈ ts, ∀ u ∈ t.nodes, P u

theorem everywhere_nil : Everywhere P [] := by
  intro t ht
  cases ht

theorem Everywhere.subset (h : Everywhere P ts) (hsubset : us ⊆ ts) : Everywhere P us :=
  fun t ht => h t (hsubset ht)

theorem Everywhere.root (h : Everywhere P [t]) : P t :=
  h t List.mem_cons_self t (mem_nodes.2 (.inl rfl))

theorem Everywhere.children (h : Everywhere P [t]) : Everywhere P t.children :=
  fun c hc u hu => h t List.mem_cons_self u (mem_nodes.2 (.inr ⟨c, hc, hu⟩))

theorem Everywhere.append (h : Everywhere P ts) (h' : Everywhere P us) : Everywhere P (ts ++ us) := by
  intro t ht
  rcases List.mem_append.1 ht with ht | ht
  · exact h t ht
  · exact h' t ht

theorem everywhere_singleton (h : P t) (hbelow : Everywhere P t.children) : Everywhere P [t] := by
  intro t' ht u hu
  obtain rfl := List.mem_singleton.1 ht
  rcases mem_nodes.1 hu with rfl | ⟨c, hc, hu⟩
  · exact h
  · exact hbelow c hc u hu

end RSource.Tree
