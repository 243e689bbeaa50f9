import Mathlib.Data.List.Basic
import RSource.Package.Index
import RSource.Proofs.OrderedMap

/-!
# What a lookup asks for

A lookup asks for the metadata of some packages, one after the other, and takes a signature from each
(`search_eq`). Asking reads a package from disk when it is known but not loaded, and does nothing else
to the index (`Grows`). A package is settled when asking for it reads nothing; after a lookup all that
it asked for is settled, so the index answers the same lookup again from what is loaded, whatever has
become of the disk (`Answers`, `search_answers`, `Answers.search`). Only a scan or a registration can
end that (`Answers.grows`). What is remembered plays no part in any of this (`search_withMemo`).
-/

namespace RSource.Package

/-- What is loaded when a package is read from disk. -/
def Loaded.read [Matcher] (disk : Disk) (name : String) (dir : Path) : Loaded :=
  ⟨dir, if dir.isEmpty then none else some (stampOf disk dir), load disk name dir⟩

namespace Index

variable {μ ν : Type} {disk : Disk} {i j k : Index μ} {i' : Index ν} {name p : String} {a : List Signature}
  {l : Loaded} {dir : Path} {pick : Metadata → Option Signature} {ps : List String}

def withMemo (i : Index μ) (memo : ν) : Index ν :=
  { i with memo }

/-! ### Indexes with more loaded -/

/-- The second index is the first one with some known packages loaded. -/
structure Grows (i j : Index μ) : Prop where
  libraryPaths : j.libraryPaths = i.libraryPaths
  packages : j.packages = i.packages
  memo : j.memo = i.memo
  generation : j.generation = i.generation
  kept : ∀ p l, i.loaded.get? p = some l → j.loaded.get? p = some l
  added : ∀ p, (j.loaded.get? p).isSome → (i.loaded.get? p).isSome ∨ (i.packages.get? p).isSome

theorem Grows.refl (i : Index μ) : Grows i i :=
  ⟨rfl, rfl, rfl, rfl, fun _ _ h => h, fun _ h => .inl h⟩

theorem Grows.trans (h : Grows i j) (h' : Grows j k) : Grows i k where
  libraryPaths := h'.libraryPaths.trans h.libraryPaths
  packages := h'.packages.trans h.packages
  memo := h'.memo.trans h.memo
  generation := h'.generation.trans h.generation
  kept p l hl := h'.kept p l (h.kept p l hl)
  added p hp := by
    rcases h'.added p hp with hj | hj
    · exact h.added p hj
    · exact .inr (h.packages ▸ hj)

/-! ### Settled packages -/

/-- Asking for the package reads nothing: it is loaded, or not known. -/
def IsSettled (i : Index μ) (p : String) : Prop :=
  (i.loaded.get? p).isSome ∨ i.packages.get? p = none

theorem IsSettled.grows (h : i.IsSettled p) (hg : Grows i j) : j.IsSettled p := by
  rcases h with h | h
  · obtain ⟨l, hl⟩ := Option.isSome_iff_exists.1 h
    exact .inl (by simp [hg.kept p l hl])
  · exact .inr (by rw [hg.packages, h])

theorem IsSettled.loadedMetadata?_eq (h : i.IsSettled p) (hg : Grows i j) :
    j.loadedMetadata? p = i.loadedMetadata? p := by
  unfold loadedMetadata?
  cases hl : i.loaded.get? p with
  | some l => rw [hg.kept p l hl]
  | none =>
    have hp : i.packages.get? p = none := h.resolve_left (by simp [hl])
    cases hj : j.loaded.get? p with
    | none => rfl
    | some l =>
      have := hg.added p (by simp [hj])
      simp [hl, hp] at this

/-! ### Answers that what is loaded gives -/

/-- The packages that a lookup of the name asks for, in order. -/
def askedFor (i : Index μ) (name : String) : List String :=
  match qualified? name with
  | some q => [q.package]
  | none => i.searchOrder

/-- The signature that a lookup of the name takes from a package. -/
def signatureIn? (name : String) (m : Metadata) : Option Signature :=
  match qualified? name with
  | some q => if q.isInternal then m.functions.get? q.name else m.exportedSignature? q.name
  | none => m.exportedSignature? name

/-- The index gives this answer from what is loaded. -/
structure Answers (i : Index μ) (name : String) (a : List Signature) : Prop where
  settled : ∀ p ∈ i.askedFor name, i.IsSettled p
  eq : a = (i.askedFor name).filterMap fun p => (i.loadedMetadata? p).bind (signatureIn? name)

theorem askedFor_of_packages (h : j.packages = i'.packages) (name : String) :
    j.askedFor name = i'.askedFor name := by
  unfold askedFor searchOrder
  rw [h]

theorem Answers.grows (h : i.Answers name a) (hg : Grows i j) : j.Answers name a := by
  have hask := askedFor_of_packages hg.packages name
  refine ⟨fun p hp => (h.settled p (hask ▸ hp)).grows hg, ?_⟩
  rw [h.eq, hask]
  refine List.filterMap_congr fun p hp => ?_
  rw [(h.settled p hp).loadedMetadata?_eq hg]

theorem Answers.withMemo (h : i.Answers name a) (memo : ν) : (i.withMemo memo).Answers name a :=
  ⟨h.settled, h.eq⟩

/-! ### Asking for metadata -/

variable [Matcher]

theorem metadata?_of_loaded (h : i.loaded.get? p = some l) :
    i.metadata? disk p = (some l.metadata, i) := by
  rw [metadata?, h]

theorem metadata?_of_unknown (hl : i.loaded.get? p = none) (hp : i.packages.get? p = none) :
    i.metadata? disk p = (none, i) := by
  rw [metadata?, hl, hp]

theorem metadata?_of_unread (hl : i.loaded.get? p = none) (hp : i.packages.get? p = some dir) :
    i.metadata? disk p = (some (load disk p dir),
      { i with loads := i.loads + 1, loaded := i.loaded.insert p (.read disk p dir) }) := by
  simp only [metadata?, hl, hp, keep, ne_eq, not_true_eq_false, if_false]
  rfl

theorem grows_metadata? (disk : Disk) (i : Index μ) (p : String) : Grows i (i.metadata? disk p).2 := by
  cases hl : i.loaded.get? p with
  | some l => exact metadata?_of_loaded hl ▸ .refl i
  | none =>
    cases hp : i.packages.get? p with
    | none => exact metadata?_of_unknown hl hp ▸ .refl i
    | some dir =>
      rw [metadata?_of_unread hl hp]
      refine ⟨rfl, rfl, rfl, rfl, fun q l hq => ?_, fun q hq => ?_⟩
      · have hne : q ≠ p := by
          rintro rfl
          rw [hl] at hq
          cases hq
        simpa [hne] using hq
      · by_cases hqp : q = p
        · subst hqp
          exact .inr (by simp [hp])
        · exact .inl (by simpa [hqp] using hq)

theorem grows_populate (disk : Disk) (i : Index μ) : Grows i (i.populate disk) := by
  refine List.foldlRecOn (motive := Grows i) _ _ (.refl i) ?_
  intro j h p _
  exact h.trans (grows_metadata? disk j p)

theorem IsSettled.metadata? (h : i.IsSettled p) :
    i.metadata? disk p = (i.loadedMetadata? p, i) := by
  unfold loadedMetadata?
  cases hl : i.loaded.get? p with
  | some l => exact metadata?_of_loaded hl
  | none =>
    rcases h with h | h
    · simp [hl] at h
    · exact metadata?_of_unknown hl h

theorem isSettled_metadata? (disk : Disk) (i : Index μ) (p : String) :
    (i.metadata? disk p).2.IsSettled p := by
  cases hl : i.loaded.get? p with
  | some l =>
    rw [metadata?_of_loaded hl]
    exact .inl (by simp [hl])
  | none =>
    cases hp : i.packages.get? p with
    | none =>
      rw [metadata?_of_unknown hl hp]
      exact .inr hp
    | some dir =>
      rw [metadata?_of_unread hl hp]
      exact .inl (by simp)

theorem metadata?_fst (disk : Disk) (i : Index μ) (p : String) :
    (i.metadata? disk p).1 = (i.metadata? disk p).2.loadedMetadata? p := by
  unfold loadedMetadata?
  cases hl : i.loaded.get? p with
  | some l => simp [metadata?_of_loaded hl, hl]
  | none =>
    cases hp : i.packages.get? p with
    | none => simp [metadata?_of_unknown hl hp, hl]
    | some dir => simp [metadata?_of_unread hl hp, Loaded.read]

/-! ### A lookup as a walk over packages -/

/-- Asks for one package after the other and takes what `pick` gives. -/
def collect (disk : Disk) (pick : Metadata → Option Signature) :
    List String → Index μ → List Signature × Index μ
  | [], i => ([], i)
  | p :: ps, i =>
    let (m, i) := i.metadata? disk p
    let (more, i) := collect disk pick ps i
    ((m.bind pick).toList ++ more, i)

theorem collect_cons (disk : Disk) (pick : Metadata → Option Signature) (p : String) (ps : List String)
    (i : Index μ) :
    collect disk pick (p :: ps) i =
      (((i.metadata? disk p).1.bind pick).toList ++ (collect disk pick ps (i.metadata? disk p).2).1,
        (collect disk pick ps (i.metadata? disk p).2).2) :=
  rfl

theorem searchIn_eq_collect (disk : Disk) (name : String) (ps : List String) (i : Index μ) :
    searchIn disk name ps i = collect disk (·.exportedSignature? name) ps i := by
  induction ps generalizing i with
  | nil => rfl
  | cons p ps ih => simp only [searchIn, collect, ih]

theorem search_eq (disk : Disk) (i : Index μ) (name : String) :
    i.search disk name = collect disk (signatureIn? name) (i.askedFor name) i := by
  unfold search askedFor signatureIn?
  cases qualified? name with
  | some q => simp only [collect, List.append_nil]
  | none => exact searchIn_eq_collect disk name _ i

theorem grows_collect (disk : Disk) (pick : Metadata → Option Signature) (ps : List String) (i : Index μ) :
    Grows i (collect disk pick ps i).2 := by
  induction ps generalizing i with
  | nil => exact .refl i
  | cons p ps ih => exact (grows_metadata? disk i p).trans (ih _)

theorem grows_search (disk : Disk) (i : Index μ) (name : String) : Grows i (i.search disk name).2 := by
  rw [search_eq]
  exact grows_collect disk _ _ i

/-- After the walk all is settled, and the signatures are those of the loaded packages. -/
theorem collect_spec (disk : Disk) (pick : Metadata → Option Signature) (ps : List String) (i : Index μ) :
    let j := (collect disk pick ps i).2
    (∀ p ∈ ps, j.IsSettled p) ∧
      (collect disk pick ps i).1 = ps.filterMap fun p => (j.loadedMetadata? p).bind pick := by
  induction ps generalizing i with
  | nil => exact ⟨nofun, rfl⟩
  | cons p ps ih =>
    have hp := isSettled_metadata? disk i p
    have hg := grows_collect disk pick ps (i.metadata? disk p).2
    obtain ⟨hps, hss⟩ := ih (i.metadata? disk p).2
    -- what was read first is still loaded at the end
    have hfirst := hp.loadedMetadata?_eq hg
    rw [← metadata?_fst] at hfirst
    rw [collect_cons]
    refine ⟨List.forall_mem_cons.2 ⟨hp.grows hg, hps⟩, ?_⟩
    rw [hss, List.filterMap_cons, hfirst]
    cases (i.metadata? disk p).1.bind pick <;> rfl

/-- A walk over settled packages reads nothing. -/
theorem collect_of_settled (h : ∀ p ∈ ps, i.IsSettled p) :
    collect disk pick ps i = (ps.filterMap fun p => (i.loadedMetadata? p).bind pick, i) := by
  induction ps with
  | nil => rfl
  | cons p ps ih =>
    obtain ⟨hp, hps⟩ := List.forall_mem_cons.1 h
    rw [collect_cons, hp.metadata?, ih hps, List.filterMap_cons]
    cases (i.loadedMetadata? p).bind pick <;> rfl

theorem search_answers (disk : Disk) (i : Index μ) (name : String) :
    (i.search disk name).2.Answers name (i.search disk name).1 := by
  have hg := grows_search disk i name
  have hc := collect_spec disk (signatureIn? name) (i.askedFor name) i
  rw [← search_eq] at hc
  exact ⟨by rw [askedFor_of_packages hg.packages]; exact hc.1,
    by rw [askedFor_of_packages hg.packages]; exact hc.2⟩

theorem Answers.search (h : i.Answers name a) : i.search disk name = (a, i) := by
  rw [search_eq, collect_of_settled h.settled, ← h.eq]

/-! ### The memory plays no part -/

theorem metadata?_withMemo (disk : Disk) (i : Index μ) (memo : ν) (p : String) :
    (i.withMemo memo).metadata? disk p = ((i.metadata? disk p).1, (i.metadata? disk p).2.withMemo memo) := by
  cases hl : i.loaded.get? p with
  | some l =>
    have hl' : (i.withMemo memo).loaded.get? p = some l := hl
    rw [metadata?_of_loaded hl, metadata?_of_loaded hl']
  | none =>
    have hl' : (i.withMemo memo).loaded.get? p = none := hl
    cases hp : i.packages.get? p with
    | none =>
      have hp' : (i.withMemo memo).packages.get? p = none := hp
      rw [metadata?_of_unknown hl hp, metadata?_of_unknown hl' hp']
    | some dir =>
      have hp' : (i.withMemo memo).packages.get? p = some dir := hp
      rw [metadata?_of_unread hl hp, metadata?_of_unread hl' hp']
      rfl

theorem collect_withMemo (disk : Disk) (pick : Metadata → Option Signature) (ps : List String) (i : Index μ)
    (memo : ν) : collect disk pick ps (i.withMemo memo) =
      ((collect disk pick ps i).1, (collect disk pick ps i).2.withMemo memo) := by
  induction ps generalizing i with
  | nil => rfl
  | cons p ps ih => rw [collect_cons, collect_cons, metadata?_withMemo, ih]

theorem search_withMemo (disk : Disk) (i : Index μ) (memo : ν) (name : String) :
    (i.withMemo memo).search disk name = ((i.search disk name).1, (i.search disk name).2.withMemo memo) := by
  rw [search_eq, search_eq, ← collect_withMemo]
  rfl

theorem populate_withMemo (disk : Disk) (i : Index μ) (memo : ν) :
    (i.withMemo memo).populate disk = (i.populate disk).withMemo memo := by
  suffices ∀ (ps : List String) (i : Index μ),
      ps.foldl (fun i name => (i.metadata? disk name).2) (i.withMemo memo) =
        (ps.foldl (fun i name => (i.metadata? disk name).2) i).withMemo memo from this i.packages.names i
  intro ps
  induction ps with
  | nil => exact fun _ => rfl
  | cons p ps ih =>
    intro i
    rw [List.foldl_cons, metadata?_withMemo, ih]
    rfl

/-! ### Lookups -/

section Memory

variable [Memory μ (List Signature)]

/-- A lookup that finds no answer remembered is a search whose answer is remembered. -/
theorem lookup_of_none (h : (Memory.get? i.memo name).1 = none) :
    i.lookup disk name = ((i.search disk name).1,
      ((i.search disk name).2.withMemo (Memory.get? i.memo name).2).remember name i.generation
        (i.search disk name).1) := by
  have hrem : i.remembered? name = (none, i.withMemo (Memory.get? i.memo name).2) := Prod.ext h rfl
  rw [lookup, hrem]
  dsimp only
  rw [search_withMemo]

theorem lookup_of_some (h : (Memory.get? i.memo name).1 = some a) :
    i.lookup disk name = (a, i.withMemo (Memory.get? i.memo name).2) := by
  have hrem : i.remembered? name = (some a, i.withMemo (Memory.get? i.memo name).2) := Prod.ext h rfl
  rw [lookup, hrem]

end Memory

end Index

end RSource.Package
