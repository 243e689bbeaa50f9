import RSource.Proofs.Package.Lookup

/-!
# Sessions with an index

A session is an index together with the disk that it reads. Its owner scans, registers packages, asks
for metadata and signatures and reads all packages ahead, one action after the other, and between two
actions the files may change in any way. Whatever is done, the answers that are remembered are those that
what is loaded gives (`Index.Remembers`, `Session.remembers_act`).
-/

namespace RSource.Package

namespace Index

variable {μ : Type} [Memory μ (List Signature)] {disk : Disk} {i j : Index μ} {memo : μ} {name : String}

/-! ### Memories that hold true answers -/

/-- Every remembered answer is the one that what is loaded gives. -/
def Remembers (i : Index μ) : Prop :=
  ∀ e ∈ Memory.entries i.memo, i.Answers e.1 e.2

theorem remembers_of_nil (h : Memory.entries i.memo = []) : i.Remembers := by
  intro e he
  rw [h] at he
  cases he

theorem Remembers.grows (h : i.Remembers) (hg : Grows i j) : j.Remembers := by
  intro e he
  rw [hg.memo] at he
  exact (h e he).grows hg

theorem Remembers.withMemo (h : i.Remembers) (hmemo : Memory.entries memo ⊆ Memory.entries i.memo) :
    (i.withMemo memo).Remembers :=
  fun e he => (h e (hmemo he)).withMemo memo

theorem remembers_new (libraryPaths : List Path) (memoSize : Nat) :
    (new libraryPaths memoSize : Index μ).Remembers :=
  remembers_of_nil (Memory.entries_new _)

theorem remembers_scan (disk : Disk) (i : Index μ) : (i.scan disk).2.Remembers :=
  remembers_of_nil (Memory.entries_clear i.memo)

theorem remembers_register (i : Index μ) (m : Metadata) : (i.register m).Remembers :=
  remembers_of_nil (Memory.entries_clear i.memo)

theorem Remembers.remember {a : List Signature} (h : i.Remembers) (ha : i.Answers name a)
    (generation : Nat) : (i.remember name generation a).Remembers := by
  unfold Index.remember
  split
  · intro e he
    rcases List.mem_cons.1 (Memory.entries_put i.memo name a he) with rfl | he
    · exact ha.withMemo _
    · exact (h e he).withMemo _
  · exact h

variable [Matcher]

theorem Remembers.search (h : i.Remembers) (disk : Disk) (name : String) :
    (i.search disk name).2.Remembers :=
  h.grows (grows_search disk i name)

theorem Remembers.lookup (h : i.Remembers) (disk : Disk) (name : String) :
    (i.lookup disk name).2.Remembers := by
  have hasked : Memory.entries (Memory.get? i.memo name).2 ⊆ Memory.entries i.memo :=
    Memory.entries_get? i.memo name
  cases hm : (Memory.get? i.memo name).1 with
  | none =>
    rw [lookup_of_none hm]
    refine Remembers.remember ?_ ((search_answers disk i name).withMemo _) _
    refine (h.search disk name).withMemo ?_
    rwa [(grows_search disk i name).memo]
  | some a =>
    rw [lookup_of_some hm]
    exact h.withMemo hasked

end Index

/-! ### Sessions -/

inductive Action where
  | scan
  | register (m : Metadata)
  | metadata (name : String)
  | lookup (name : String)
  | populate
  /-- From here on the disk holds this tree. -/
  | files (tree : FileTree)

inductive Answer where
  | found (count : Nat)
  | metadata (m? : Option Metadata)
  | signatures (ss : List Signature)
  | nothing

structure Session (μ : Type := Memo (List Signature)) where
  disk : Disk
  index : Index μ

namespace Session

variable {μ : Type} [Memory μ (List Signature)]

/-- A session with an index that has not been scanned yet. -/
def new (disk : Disk) (libraryPaths : List Path) (memoSize : Nat) : Session μ :=
  ⟨disk, .new libraryPaths memoSize⟩

variable [Matcher]

/-- The answer to an action, and the session after it. -/
def act (s : Session μ) : Action → Answer × Session μ
  | .scan => (.found (s.index.scan s.disk).1, { s with index := (s.index.scan s.disk).2 })
  | .register m => (.nothing, { s with index := s.index.register m })
  | .metadata name =>
    (.metadata (s.index.metadata? s.disk name).1,
      { s with index := (s.index.metadata? s.disk name).2 })
  | .lookup name =>
    (.signatures (s.index.lookup s.disk name).1, { s with index := (s.index.lookup s.disk name).2 })
  | .populate => (.nothing, { s with index := s.index.populate s.disk })
  | .files tree => (.nothing, { s with disk := { s.disk with tree } })

def after (s : Session μ) (as : List Action) : Session μ :=
  as.foldl (fun s a => (s.act a).2) s

def answers (s : Session μ) : List Action → List Answer
  | [] => []
  | a :: as => (s.act a).1 :: (s.act a).2.answers as

@[simp] theorem after_nil (s : Session μ) : s.after [] = s := rfl

@[simp] theorem after_cons (s : Session μ) (a : Action) (as : List Action) :
    s.after (a :: as) = (s.act a).2.after as := rfl

@[simp] theorem after_append (s : Session μ) (as bs : List Action) :
    s.after (as ++ bs) = (s.after as).after bs :=
  List.foldl_append

/-- Every action leaves only true answers remembered. -/
theorem remembers_act {s : Session μ} (h : s.index.Remembers) (a : Action) :
    (s.act a).2.index.Remembers := by
  cases a with
  | scan => exact Index.remembers_scan s.disk s.index
  | register m => exact Index.remembers_register s.index m
  | metadata name => exact h.grows (Index.grows_metadata? s.disk s.index name)
  | lookup name => exact h.lookup s.disk name
  | populate => exact h.grows (Index.grows_populate s.disk s.index)
  | files tree => exact h

end Session

end RSource.Package
