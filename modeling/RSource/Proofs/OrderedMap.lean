import RSource.OrderedMap

/-!
# What an ordered map holds

`get?` after each operation on a map, and the names of a map in which no name comes twice.
-/

namespace RSource

theorem lookup_cons_of_ne {κ α : Type} [BEq κ] [LawfulBEq κ] {k k' : κ} (h : k ≠ k') (a : α)
    (l : List (κ × α)) : ((k', a) :: l).lookup k = l.lookup k := by
  rw [List.lookup_cons, beq_eq_false_iff_ne.2 h]

theorem lookup_filter_of_forall {κ α : Type} [BEq κ] [LawfulBEq κ] {k : κ} {p : κ × α → Bool}
    {l : List (κ × α)} (h : ∀ a, p (k, a) = true) : (l.filter p).lookup k = l.lookup k := by
  induction l with
  | nil => rfl
  | cons e l ih =>
    obtain ⟨k', a⟩ := e
    by_cases hk : k = k'
    · subst hk
      rw [List.filter_cons_of_pos (h a), List.lookup_cons_self, List.lookup_cons_self]
    · rw [List.filter_cons, lookup_cons_of_ne hk]
      split
      · rw [lookup_cons_of_ne hk, ih]
      · exact ih

theorem lookup_filter_of_forall_not {κ α : Type} [BEq κ] [LawfulBEq κ] {k : κ} {p : κ × α → Bool}
    {l : List (κ × α)} (h : ∀ a, p (k, a) = false) : (l.filter p).lookup k = none := by
  rw [List.lookup_eq_none_iff]
  rintro ⟨k', a⟩ he
  have hp := (List.mem_filter.1 he).2
  simp only [bne_iff_ne]
  rintro rfl
  rw [h a] at hp
  cases hp

theorem mem_of_lookup {κ α : Type} [BEq κ] [LawfulBEq κ] {k : κ} {a : α} {l : List (κ × α)}
    (h : l.lookup k = some a) : (k, a) ∈ l := by
  obtain ⟨l₁, l₂, rfl, -⟩ := List.lookup_eq_some_iff.1 h
  simp

theorem lookup_of_mem {κ α : Type} [BEq κ] [LawfulBEq κ] {k : κ} {a : α} {l : List (κ × α)}
    (hl : (l.map Prod.fst).Nodup) (h : (k, a) ∈ l) : l.lookup k = some a := by
  obtain ⟨l₁, l₂, rfl⟩ := List.append_of_mem h
  refine List.lookup_eq_some_iff.2 ⟨l₁, l₂, rfl, fun e he => ?_⟩
  rw [List.map_append, List.nodup_append] at hl
  have hne := hl.2.2 e.1 (List.mem_map_of_mem he) k (by simp)
  simpa using Ne.symm hne

namespace OrderedMap

variable {α : Type} {m : OrderedMap α} {k k' : String} {a b : α} {e : String × α}

theorem mem_of_get? (h : m.get? k = some a) : (k, a) ∈ m.entries :=
  mem_of_lookup h

theorem lookup_insertEntry (k k' : String) (a : α) (es : List (String × α)) :
    (insertEntry k a es).lookup k' = if k' = k then some a else es.lookup k' := by
  induction es with
  | nil =>
    by_cases hk : k' = k
    · simp [insertEntry, hk]
    · rw [insertEntry, lookup_cons_of_ne hk, if_neg hk]
  | cons e es ih =>
    obtain ⟨k₀, b⟩ := e
    by_cases h₀ : k₀ = k
    · subst h₀
      by_cases hk : k' = k₀
      · simp [insertEntry, hk]
      · simp [insertEntry, lookup_cons_of_ne hk, hk]
    · by_cases hk : k' = k₀
      · subst hk
        simp [insertEntry, h₀]
      · simp [insertEntry, h₀, lookup_cons_of_ne hk, ih]

@[simp] theorem get?_insert (m : OrderedMap α) (k k' : String) (a : α) :
    (m.insert k a).get? k' = if k' = k then some a else m.get? k' :=
  lookup_insertEntry k k' a m.entries

theorem mem_insert (h : e ∈ (m.insert k a).entries) : e = (k, a) ∨ e ∈ m.entries := by
  suffices ∀ es : List (String × α), e ∈ insertEntry k a es → e = (k, a) ∨ e ∈ es from this _ h
  intro es
  induction es with
  | nil => simp [insertEntry]
  | cons e₀ es ih =>
    rw [insertEntry]
    split
    · intro he
      rcases List.mem_cons.1 he with rfl | he
      · exact .inl rfl
      · exact .inr (List.mem_cons_of_mem _ he)
    · intro he
      rcases List.mem_cons.1 he with rfl | he
      · exact .inr List.mem_cons_self
      · exact (ih he).imp_right (List.mem_cons_of_mem _)

theorem contains_eq_isSome (m : OrderedMap α) (k : String) : m.contains k = (m.get? k).isSome := by
  rw [Bool.eq_iff_iff, get?, List.lookup_isSome_iff, contains, List.any_eq_true]
  constructor
  · rintro ⟨e, he, hk⟩
    exact ⟨e, he, BEq.symm hk⟩
  · rintro ⟨e, he, hk⟩
    exact ⟨e, he, BEq.symm hk⟩

theorem mem_names_iff : k ∈ m.names ↔ (m.get? k).isSome := by
  rw [← contains_eq_isSome, contains, names, List.mem_map, List.any_eq_true]
  simp

theorem nodup_names_insert (h : m.names.Nodup) (k : String) (a : α) : (m.insert k a).names.Nodup := by
  suffices ∀ es : List (String × α), (es.map (·.1)).Nodup → ((insertEntry k a es).map (·.1)).Nodup from
    this _ h
  intro es
  induction es with
  | nil => intro _; simp [insertEntry]
  | cons e es ih =>
    intro hes
    rw [List.map_cons, List.nodup_cons] at hes
    rw [insertEntry]
    split
    · next hk =>
      rw [List.map_cons, List.nodup_cons]
      exact ⟨by simpa [← beq_iff_eq.1 hk] using hes.1, hes.2⟩
    · next hk =>
      rw [List.map_cons, List.nodup_cons]
      refine ⟨fun hmem => hes.1 ?_, ih hes.2⟩
      have hsome : ((insertEntry k a es).lookup e.1).isSome := (mem_names_iff (m := ⟨_⟩)).1 hmem
      rw [lookup_insertEntry, if_neg (by simpa using hk)] at hsome
      exact (mem_names_iff (m := ⟨es⟩)).2 hsome

/-- An entry that stays is found where others are dropped. -/
theorem get?_filter {p : String × α → Bool} (h : m.get? k = some a) (hp : p (k, a) = true) :
    get? ⟨m.entries.filter p⟩ k = some a := by
  obtain ⟨l₁, l₂, hl, hne⟩ := List.lookup_eq_some_iff.1 h
  refine List.lookup_eq_some_iff.2 ⟨l₁.filter p, l₂.filter p, ?_, fun e he => hne e (List.mem_filter.1 he).1⟩
  rw [hl, List.filter_append, List.filter_cons_of_pos hp]

end OrderedMap

end RSource
