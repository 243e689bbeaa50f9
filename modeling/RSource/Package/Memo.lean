/-! # Memories for answers

Answers that were given before are kept in a memory. A memory may forget an answer at any time, but it
has no answer that was not put into it (`Memory`).

The memory in use is a memo of bounded size that keeps the answers used last: asking for an answer and
giving one make it the most recent, and the least recent one goes when there is no room. -/

namespace RSource.Package

/-- A memory for the answers to names. `entries` are the answers that it can still give: none in a new
or cleared one, asking adds none, and putting in an answer adds no other. -/
class Memory (μ : Type) (α : outParam Type) where
  new : Nat → μ
  entries : μ → List (String × α)
  get? : μ → String → Option α × μ
  put : μ → String → α → μ
  clear : μ → μ
  entries_new (size : Nat) : entries (new size) = []
  mem_of_get? {m : μ} {name : String} {a : α} (h : (get? m name).1 = some a) : (name, a) ∈ entries m
  entries_get? (m : μ) (name : String) : entries (get? m name).2 ⊆ entries m
  entries_put (m : μ) (name : String) (a : α) : entries (put m name a) ⊆ (name, a) :: entries m
  entries_clear (m : μ) : entries (clear m) = []

structure Memo (α : Type) where
  capacity : Nat
  entries : List (String × α) := []
  deriving Repr

namespace Memo

variable {α : Type}

def without (m : Memo α) (name : String) : List (String × α) :=
  m.entries.filter fun e => e.1 != name

/-- The answer remembered for `name`, and the memo in which it is the most recent. -/
def get? (m : Memo α) (name : String) : Option α × Memo α :=
  match m.entries.lookup name with
  | some a => (some a, { m with entries := (name, a) :: m.without name })
  | none => (none, m)

/-- The memo with an answer for `name`; at least one answer is kept. -/
def put (m : Memo α) (name : String) (a : α) : Memo α :=
  { m with entries := ((name, a) :: m.without name).take (max 1 m.capacity) }

def clear (m : Memo α) : Memo α :=
  { m with entries := [] }

theorem without_subset (m : Memo α) (name : String) : m.without name ⊆ m.entries :=
  List.filter_sublist.subset

theorem mem_of_get? {m : Memo α} {name : String} {a : α} (h : (m.get? name).1 = some a) :
    (name, a) ∈ m.entries := by
  unfold get? at h
  split at h
  · next hl =>
    cases h
    obtain ⟨before, behind, hentries, -⟩ := List.lookup_eq_some_iff.1 hl
    simp [hentries]
  · cases h

theorem entries_get? (m : Memo α) (name : String) : (m.get? name).2.entries ⊆ m.entries := by
  cases hm : m.entries.lookup name with
  | none => simp [get?, hm]
  | some a =>
    have hmem : (name, a) ∈ m.entries := mem_of_get? (by simp [get?, hm])
    simp only [get?, hm]
    exact List.cons_subset.2 ⟨hmem, m.without_subset name⟩

theorem entries_put (m : Memo α) (name : String) (a : α) :
    (m.put name a).entries ⊆ (name, a) :: m.entries := by
  intro e he
  rcases List.mem_cons.1 (List.mem_of_mem_take he) with rfl | he
  · exact List.mem_cons_self
  · exact List.mem_cons_of_mem _ (m.without_subset name he)

instance : Memory (Memo α) α where
  new capacity := ⟨capacity, []⟩
  entries := entries
  get? := get?
  put := put
  clear := clear
  entries_new _ := rfl
  mem_of_get? := mem_of_get?
  entries_get? := entries_get?
  entries_put := entries_put
  entries_clear _ := rfl

end Memo

end RSource.Package
