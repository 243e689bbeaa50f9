import RSource.Proofs.Package.Session

/-!
# The memory cannot be seen

An answer that is remembered is the one that a search would find, and the search would read nothing
(`Index.Remembers`). So an index that remembers nothing gives the same answers and reads the same packages
(`lookup_bare`, `answers_bare`), and what memory an index has, and of what size, shows neither in an answer
nor in the number of packages read (`answers_memoSize`).
-/

namespace RSource.Package

structure Blank (α : Type) where

instance (α : Type) : Memory (Blank α) α where
  new _ := {}
  entries _ := []
  get? m _ := (none, m)
  put m _ _ := m
  clear m := m
  entries_new _ := rfl
  mem_of_get? := nofun
  entries_get? _ _ := List.nil_subset _
  entries_put _ _ _ := List.nil_subset _
  entries_clear _ := rfl

variable {μ ν : Type} [Memory μ (List Signature)] [Memory ν (List Signature)]

namespace Index

variable {i : Index μ}

/-- The index with a memory that keeps nothing. -/
def bare (i : Index μ) : Index (Blank (List Signature)) :=
  i.withMemo Blank.mk

theorem remember_bare (i : Index μ) (name : String) (generation : Nat) (a : List Signature) :
    (i.remember name generation a).bare = i.bare := by
  unfold remember
  split <;> rfl

theorem remember_blank (i : Index (Blank (List Signature))) (name : String) (generation : Nat)
    (a : List Signature) : i.remember name generation a = i := by
  unfold remember
  split <;> rfl

variable [Matcher]

theorem lookup_bare (h : i.Remembers) (disk : Disk) (name : String) :
    i.bare.lookup disk name = ((i.lookup disk name).1, (i.lookup disk name).2.bare) := by
  have hbare : i.bare.lookup disk name = ((i.search disk name).1, (i.search disk name).2.bare) := by
    have hsearch : i.bare.search disk name = ((i.search disk name).1, (i.search disk name).2.bare) :=
      search_withMemo disk i Blank.mk name
    rw [lookup_of_none rfl, remember_blank, hsearch]
    rfl
  rw [hbare]
  cases hm : (Memory.get? i.memo name).1 with
  | none =>
    rw [lookup_of_none hm, remember_bare]
    rfl
  | some a =>
    -- the search would give the remembered answer, and read nothing
    have ha := h _ (Memory.mem_of_get? hm)
    rw [lookup_of_some hm, ha.search]
    rfl

end Index

namespace Session

/-- The session with a memory that keeps nothing. -/
def bare (s : Session μ) : Session (Blank (List Signature)) :=
  ⟨s.disk, s.index.bare⟩

variable [Matcher] {s : Session μ}

theorem act_bare (h : s.index.Remembers) (a : Action) : s.bare.act a = ((s.act a).1, (s.act a).2.bare) := by
  cases a with
  | scan | register | files => rfl
  | metadata name =>
    have hm := Index.metadata?_withMemo s.disk s.index (Blank.mk : Blank (List Signature)) name
    simp only [act, bare, Index.bare, hm]
  | lookup name =>
    have hl := Index.lookup_bare h s.disk name
    simp only [act, bare, hl]
  | populate =>
    have hp := Index.populate_withMemo s.disk s.index (Blank.mk : Blank (List Signature))
    simp only [act, bare, Index.bare, hp]

/-- As long as only true answers are remembered, nothing is different without a memory. -/
theorem answers_bare (h : s.index.Remembers) (as : List Action) :
    s.bare.answers as = s.answers as ∧ s.bare.after as = (s.after as).bare := by
  induction as generalizing s with
  | nil => exact ⟨rfl, rfl⟩
  | cons a as ih =>
    obtain ⟨hanswers, hafter⟩ := ih (remembers_act h a)
    rw [answers, answers, after_cons, after_cons, act_bare h]
    exact ⟨congrArg _ hanswers, hafter⟩

/-- Whatever is done in a session and whatever becomes of the files, neither the kind nor the size of the
memory changes an answer or the number of packages read from disk. -/
theorem answers_memoSize (disk : Disk) (libraryPaths : List Path) (m n : Nat) (as : List Action) :
    (new disk libraryPaths m : Session μ).answers as = (new disk libraryPaths n : Session ν).answers as ∧
      ((new disk libraryPaths m : Session μ).after as).index.loads =
        ((new disk libraryPaths n : Session ν).after as).index.loads := by
  have hbare : (new disk libraryPaths m : Session μ).bare = (new disk libraryPaths n : Session ν).bare := rfl
  obtain ⟨hm, hm'⟩ := answers_bare (s := (new disk libraryPaths m : Session μ))
    (Index.remembers_new libraryPaths m) as
  obtain ⟨hn, hn'⟩ := answers_bare (s := (new disk libraryPaths n : Session ν))
    (Index.remembers_new libraryPaths n) as
  have hafter := hm'.symm.trans ((congrArg (·.after as) hbare).trans hn')
  exact ⟨hm.symm.trans ((congrArg (·.answers as) hbare).trans hn),
    congrArg (fun s : Session (Blank (List Signature)) => s.index.loads) hafter⟩

end Session

end RSource.Package
