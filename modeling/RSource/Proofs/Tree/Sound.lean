import RSource.Tree

/-!
# Sound trees

`Forest a b ts` says that the trees `ts` follow one another between the offsets `a` and `b` and that
each of them is sound; a tree is sound if its children do so within its span.
-/

namespace RSource.Tree

mutual

/-- The children follow one another within the span of the node, and so on below. -/
def Sound : Tree → Prop
  | node _ s cs => Forest s.start s.stop cs

/-- The trees are sound and follow one another between `a` and `b`. -/
def Forest (a b : Nat) : List Tree → Prop
  | [] => a ≤ b
  | t :: ts => a ≤ t.span.start ∧ Sound t ∧ Forest t.span.stop b ts

end

variable {a a' b b' d : Nat} {t u : Tree} {ts us : List Tree} {k : Kind} {s : Span}

@[simp] theorem forest_nil : Forest a b [] ↔ a ≤ b := by
  rw [Forest]

@[simp] theorem forest_cons :
    Forest a b (t :: ts) ↔ a ≤ t.span.start ∧ t.Sound ∧ Forest t.span.stop b ts := by
  rw [Forest]

theorem sound_iff : t.Sound ↔ Forest t.span.start t.span.stop t.children := by
  cases t
  rw [Sound, span, children]

theorem Forest.start_le (h : Forest a b ts) (ha : a' ≤ a) : Forest a' b ts := by
  cases ts with
  | nil => exact forest_nil.2 (Nat.le_trans ha (forest_nil.1 h))
  | cons t ts =>
    obtain ⟨h1, h2, h3⟩ := forest_cons.1 h
    exact forest_cons.2 ⟨Nat.le_trans ha h1, h2, h3⟩

theorem Forest.append (h : Forest a b ts) (h' : Forest b d us) : Forest a d (ts ++ us) := by
  induction ts generalizing a with
  | nil => exact h'.start_le (forest_nil.1 h)
  | cons t ts ih =>
    obtain ⟨h1, h2, h3⟩ := forest_cons.1 h
    exact forest_cons.2 ⟨h1, h2, ih h3⟩

theorem Forest.le_stop (h : Forest a b ts) (hb : b ≤ b') : Forest a b' ts := by
  simpa using h.append (forest_nil.2 hb)

mutual

theorem Sound.start_le_stop : ∀ {t : Tree}, t.Sound → t.span.start ≤ t.span.stop
  | node _ _ _, h => Forest.le (sound_iff.1 h)

theorem Forest.le : ∀ {a b : Nat} {ts : List Tree}, Forest a b ts → a ≤ b
  | _, _, [], h => forest_nil.1 h
  | _, _, t :: ts, h => by
    obtain ⟨h1, h2, h3⟩ := forest_cons.1 h
    exact Nat.le_trans h1 (Nat.le_trans h2.start_le_stop h3.le)

end

theorem sound_leaf (h : s.start ≤ s.stop) : (leaf k s).Sound :=
  sound_iff.2 (forest_nil.2 h)

theorem forest_singleton (ha : a ≤ t.span.start) (ht : t.Sound) (hb : t.span.stop ≤ b) :
    Forest a b [t] :=
  forest_cons.2 ⟨ha, ht, forest_nil.2 hb⟩

/-- A tree that adopts one behind it stays sound. -/
theorem Sound.adopt (ht : t.Sound) (hu : u.Sound) (h : t.span.stop ≤ u.span.start) :
    (t.adopt u).Sound := by
  refine sound_iff.2 ((sound_iff.1 ht).append (forest_singleton h hu ?_))
  exact Nat.le_max_right ..

/-! ### The nodes of a sound tree -/

mutual

theorem Sound.of_mem_outline : ∀ {t : Tree}, t.Sound → ∀ {n : Nat} {x : Nat × Tree},
    x ∈ outlineFrom n t → x.2.Sound
  | node _ _ _, h, n, x, hx => by
    rw [outlineFrom] at hx
    rcases List.mem_cons.1 hx with rfl | hx
    · exact h
    · exact Forest.of_mem_outline (sound_iff.1 h) hx

theorem Forest.of_mem_outline : ∀ {ts : List Tree} {a b : Nat}, Forest a b ts →
    ∀ {n : Nat} {x : Nat × Tree}, x ∈ outlineForest n ts → x.2.Sound
  | [], _, _, _, n, x, hx => by simp [outlineForest] at hx
  | t :: ts, _, _, h, n, x, hx => by
    obtain ⟨-, h2, h3⟩ := forest_cons.1 h
    rw [outlineForest] at hx
    rcases List.mem_append.1 hx with hx | hx
    · exact h2.of_mem_outline hx
    · exact Forest.of_mem_outline h3 hx

end

theorem Sound.of_mem_nodes (h : t.Sound) (hu : u ∈ t.nodes) : u.Sound := by
  obtain ⟨x, hx, rfl⟩ := List.mem_map.1 hu
  exact h.of_mem_outline hx

end RSource.Tree
