import RSource.Proofs.Package.Registration
import RSource.Proofs.Package.Rescan

/-!
# Where the metadata of a package comes from

The index keeps two tables: the packages it knows, each with its directory, and what is loaded for a
package. Whatever is done in a session, all that is loaded is of known packages, and a known package
without a directory has loaded what was last registered under its name (`Sourced`). So asking for metadata
answers for the known packages and no others, and what is read from disk is read from a directory: the
empty path, which would be the current directory, is never read (`sourced_after`).
-/

namespace RSource.Package

/-- The metadata that was last registered under a name. -/
def lastRegistered? (name : String) (as : List Action) : Option Metadata :=
  (as.filterMap fun
    | .register m => if m.name = name then some m else none
    | _ => none).getLast?

theorem name_of_lastRegistered? {name : String} {as : List Action} {m : Metadata}
    (h : lastRegistered? name as = some m) : m.name = name := by
  obtain ⟨a, -, ha⟩ := List.mem_filterMap.1 (List.mem_of_getLast? h)
  cases a with
  | register m' =>
    dsimp only at ha
    split at ha
    · exact Option.some.inj ha ▸ ‹_›
    · cases ha
  | scan | metadata | lookup | populate | files => cases ha

theorem lastRegistered?_append (name : String) (as : List Action) (a : Action) :
    lastRegistered? name (as ++ [a]) =
      match a with
      | .register m => if m.name = name then some m else lastRegistered? name as
      | _ => lastRegistered? name as := by
  unfold lastRegistered?
  rw [List.filterMap_append]
  cases a with
  | register m =>
    by_cases hname : m.name = name
    · simp [hname]
    · simp [hname]
  | scan | metadata | lookup | populate | files => exact congrArg _ (List.append_nil _)

namespace Index

variable {μ : Type} {disk : Disk} {i j : Index μ} {name : String} {dir : Path} {e : String × Loaded}

/-! ### What is read -/

/-- The directory that is read when a package is asked for: none if it is loaded or not known. -/
def readFor? (i : Index μ) (name : String) : Option Path :=
  if (i.loaded.get? name).isSome then none else i.packages.get? name

/-- Every package without a directory is loaded. -/
def IsBacked (i : Index μ) : Prop :=
  ∀ name, i.packages.get? name = some "" → (i.loaded.get? name).isSome

theorem IsBacked.grows (h : i.IsBacked) (hg : Grows i j) : j.IsBacked := by
  intro name hname
  obtain ⟨l, hl⟩ := Option.isSome_iff_exists.1 (h name (hg.packages ▸ hname))
  rw [hg.kept name l hl]
  rfl

variable [Matcher]

/-- The index after packages are asked for one after the other. -/
def ask (disk : Disk) (ps : List String) (i : Index μ) : Index μ :=
  ps.foldl (fun i p => (i.metadata? disk p).2) i

def readFor (disk : Disk) : List String → Index μ → List Path
  | [], _ => []
  | p :: ps, i => (i.readFor? p).toList ++ readFor disk ps (i.metadata? disk p).2

/-- Asking for a package loads it from the directory that is read, and otherwise does nothing. -/
theorem metadata?_eq (disk : Disk) (i : Index μ) (p : String) :
    i.metadata? disk p =
      match i.readFor? p with
      | some dir => (some (load disk p dir),
          { i with loads := i.loads + 1, loaded := i.loaded.insert p (.read disk p dir) })
      | none => (i.loadedMetadata? p, i) := by
  unfold readFor?
  cases hl : i.loaded.get? p with
  | some l =>
    rw [metadata?_of_loaded hl, loadedMetadata?, hl]
    rfl
  | none =>
    cases hp : i.packages.get? p with
    | none =>
      rw [metadata?_of_unknown hl hp, loadedMetadata?, hl]
      rfl
    | some dir =>
      rw [metadata?_of_unread hl hp]
      rfl

theorem loads_metadata? (disk : Disk) (i : Index μ) (p : String) :
    (i.metadata? disk p).2.loads = i.loads + (i.readFor? p).toList.length := by
  rw [metadata?_eq]
  cases i.readFor? p <;> rfl

theorem mem_loaded_metadata? {p : String} (h : e ∈ (i.metadata? disk p).2.loaded.entries) :
    e ∈ i.loaded.entries ∨ ∃ dir ∈ (i.readFor? p).toList, e.2 = .read disk e.1 dir := by
  rw [metadata?_eq] at h
  cases hdir : i.readFor? p with
  | none =>
    rw [hdir] at h
    exact .inl h
  | some dir =>
    rw [hdir] at h
    rcases OrderedMap.mem_insert h with rfl | h
    · exact .inr ⟨dir, List.mem_singleton_self dir, rfl⟩
    · exact .inl h

theorem loads_ask (disk : Disk) (ps : List String) (i : Index μ) :
    (i.ask disk ps).loads = i.loads + (readFor disk ps i).length := by
  induction ps generalizing i with
  | nil => rfl
  | cons p ps ih =>
    rw [readFor, List.length_append, ← Nat.add_assoc, ← loads_metadata?]
    exact ih (i.metadata? disk p).2

theorem mem_loaded_ask {ps : List String} (h : e ∈ (i.ask disk ps).loaded.entries) :
    e ∈ i.loaded.entries ∨ ∃ dir ∈ readFor disk ps i, e.2 = .read disk e.1 dir := by
  induction ps generalizing i with
  | nil => exact .inl h
  | cons p ps ih =>
    rcases ih h with h | ⟨dir, hdir, hread⟩
    · rcases mem_loaded_metadata? h with h | ⟨dir, hdir, hread⟩
      · exact .inl h
      · exact .inr ⟨dir, List.mem_append_left _ hdir, hread⟩
    · exact .inr ⟨dir, List.mem_append_right _ hdir, hread⟩

theorem collect_snd (disk : Disk) (pick : Metadata → Option Signature) (ps : List String) (i : Index μ) :
    (collect disk pick ps i).2 = i.ask disk ps := by
  induction ps generalizing i with
  | nil => rfl
  | cons p ps ih => exact ih (i.metadata? disk p).2

theorem IsBacked.ne_of_mem_readFor (h : i.IsBacked) {ps : List String} (hdir : dir ∈ readFor disk ps i) :
    dir ≠ "" := by
  induction ps generalizing i with
  | nil => cases hdir
  | cons p ps ih =>
    rcases List.mem_append.1 hdir with hdir | hdir
    · -- an empty directory would be that of a package which is not loaded
      rintro rfl
      have hread := Option.mem_toList.1 hdir
      unfold readFor? at hread
      split at hread
      · cases hread
      · exact absurd (h p hread) ‹_›
    · exact ih (h.grows (grows_metadata? disk i p)) hdir

variable [Memory μ (List Signature)]

/-- The packages that a lookup asks for: none if the answer is remembered. -/
def lookedIn (i : Index μ) (name : String) : List String :=
  if (Memory.get? i.memo name).1.isSome then [] else i.askedFor name

/-- A lookup asks for packages and else touches the memory only. -/
theorem lookup_snd (disk : Disk) (i : Index μ) (name : String) :
    ∃ memo, (i.lookup disk name).2 = (i.ask disk (i.lookedIn name)).withMemo memo := by
  cases hm : (Memory.get? i.memo name).1 with
  | some a =>
    rw [lookup_of_some hm, lookedIn, hm]
    exact ⟨_, rfl⟩
  | none =>
    rw [lookup_of_none hm, search_eq, collect_snd, lookedIn, hm]
    unfold remember
    split
    · exact ⟨_, rfl⟩
    · exact ⟨_, rfl⟩

end Index

namespace Session

variable {μ : Type} {s : Session μ} {i : Index μ} {past : List Action} {name : String}

/-! ### Two tables in step -/

/-- After the actions `past`: no name comes twice among the packages, what is loaded is of packages among
them, and for a package without a directory it is what was last registered under its name. -/
structure Sourced (past : List Action) (s : Session μ) : Prop where
  nodup : s.index.packages.names.Nodup
  listed : ∀ name, (s.index.loaded.get? name).isSome → (s.index.packages.get? name).isSome
  registered : ∀ name, s.index.packages.get? name = some "" → ∃ m, lastRegistered? name past = some m ∧
    s.index.loaded.get? name = some ⟨"", none, m⟩

namespace Sourced

theorem isBacked (h : Sourced past s) : s.index.IsBacked := by
  intro name hname
  obtain ⟨m, -, hm⟩ := h.registered name hname
  rw [hm]
  rfl

theorem grows {past' : List Action} {memo : μ} (h : Sourced past s)
    (hpast : ∀ name, lastRegistered? name past' = lastRegistered? name past)
    (hg : Index.Grows (s.index.withMemo memo) i) : Sourced past' { s with index := i } := by
  refine ⟨hg.packages ▸ h.nodup, fun name hname => ?_, fun name hname => ?_⟩
  · rw [hg.packages]
    rcases hg.added name hname with hloaded | hknown
    · exact h.listed name hloaded
    · exact hknown
  · rw [hg.packages] at hname
    obtain ⟨m, hm, hl⟩ := h.registered name hname
    exact ⟨m, (hpast name).trans hm, hg.kept name _ hl⟩

theorem isSome_metadata? [Matcher] (h : Sourced past s) (name : String) :
    (s.index.metadata? s.disk name).1.isSome ↔ name ∈ s.index.packages.names := by
  rw [OrderedMap.mem_names_iff]
  cases hl : s.index.loaded.get? name with
  | some l =>
    rw [Index.metadata?_of_loaded hl]
    exact iff_of_true rfl (h.listed name (hl ▸ rfl))
  | none =>
    cases hp : s.index.packages.get? name with
    | none =>
      rw [Index.metadata?_of_unknown hl hp]
      rfl
    | some dir =>
      rw [Index.metadata?_of_unread hl hp]
      rfl

variable [Memory μ (List Signature)]

theorem new (disk : Disk) (libraryPaths : List Path) (memoSize : Nat) :
    Sourced [] (.new disk libraryPaths memoSize : Session μ) :=
  ⟨List.nodup_nil, nofun, nofun⟩

theorem register (h : Sourced past s) (m : Metadata) :
    Sourced (past ++ [.register m]) { s with index := s.index.register m } := by
  refine ⟨Index.nodup_packages_register h.nodup m, fun name hname => ?_, fun name hname => ?_⟩
  · rw [Index.get?_packages_register]
    by_cases hm : name = m.name
    · simp [hm]
    · have hloaded : (s.index.loaded.get? name).isSome := by simpa [Index.register, hm] using hname
      rw [Option.isSome_or, h.listed name hloaded, Bool.true_or]
  · rw [lastRegistered?_append]
    by_cases hm : name = m.name
    · subst hm
      exact ⟨m, if_pos rfl, Index.metadata?_register s.index m⟩
    · rw [Index.get?_packages_register, if_neg hm, Option.or_none] at hname
      obtain ⟨m', hm', hl⟩ := h.registered name hname
      exact ⟨m', (if_neg (Ne.symm hm)).trans hm', by simpa [Index.register, hm] using hl⟩

theorem isSome_of_loaded_scan {disk : Disk} {i : Index μ}
    (h : ((i.scan disk).2.loaded.get? name).isSome) : ((i.scan disk).2.packages.get? name).isSome := by
  obtain ⟨l, hl⟩ := Option.isSome_iff_exists.1 h
  -- it stays because its package is still registered, or was found with an unchanged stamp
  have hstays := (Index.mem_loaded_scan.1 (OrderedMap.mem_of_get? hl)).2
  dsimp only at hstays
  split at hstays
  · exact Option.isSome_of_any hstays
  · obtain ⟨⟨dir, hdir, -⟩, -⟩ := Index.isUnchanged_iff.1 hstays
    rw [Index.get?_packages_scan, hdir]
    rfl

theorem get?_of_scan_empty {disk : Disk} {i : Index μ} (hnodup : i.packages.names.Nodup)
    (h : (i.scan disk).2.packages.get? name = some "") :
    (Index.discover disk i.libraryPaths).get? name = none ∧ i.packages.get? name = some "" := by
  rw [Index.get?_packages_scan] at h
  rcases Option.or_eq_some_iff.1 h with hfound | ⟨hnone, hleft⟩
  · exact absurd rfl (Index.ne_of_mem_discover (OrderedMap.mem_of_get? hfound))
  · have hmem := (List.mem_filter.1 (OrderedMap.mem_of_get? hleft)).1
    exact ⟨hnone, lookup_of_mem hnodup hmem⟩

theorem scan (h : Sourced past s) :
    Sourced (past ++ [.scan]) { s with index := (s.index.scan s.disk).2 } := by
  refine ⟨Index.nodup_packages_scan h.nodup s.disk, fun name hname => isSome_of_loaded_scan hname,
    fun name hname => ?_⟩
  -- whatever a scan finds has a directory, so this package was registered before and not found now
  obtain ⟨hnone, hempty⟩ := get?_of_scan_empty h.nodup hname
  obtain ⟨m, hm, hl⟩ := h.registered name hempty
  obtain rfl := name_of_lastRegistered? hm
  exact ⟨m, (lastRegistered?_append _ past .scan).trans hm, (Index.scan_of_registered hempty hl hnone).2⟩

variable [Matcher]

theorem act (h : Sourced past s) (a : Action) : Sourced (past ++ [a]) (s.act a).2 := by
  cases a with
  | scan => exact h.scan
  | register m => exact h.register m
  | metadata name =>
    exact h.grows (lastRegistered?_append · past _) (Index.grows_metadata? s.disk s.index name)
  | lookup name =>
    exact h.grows (lastRegistered?_append · past _) (Index.grows_lookup s.disk s.index name)
  | populate =>
    exact h.grows (lastRegistered?_append · past _) (Index.grows_populate s.disk s.index)
  | files tree =>
    refine ⟨h.nodup, h.listed, fun name hname => ?_⟩
    rw [lastRegistered?_append]
    exact h.registered name hname

theorem after (disk : Disk) (libraryPaths : List Path) (memoSize : Nat) (past : List Action) :
    Sourced past ((Session.new disk libraryPaths memoSize : Session μ).after past) := by
  induction past using List.reverseRecOn with
  | nil => exact new disk libraryPaths memoSize
  | append_singleton past a ih =>
    rw [after_append]
    exact ih.act a

end Sourced

/-! ### What an action reads -/

variable [Matcher] [Memory μ (List Signature)]

/-- The packages that an action asks for, in order. -/
def asked (s : Session μ) : Action → List String
  | .metadata name => [name]
  | .lookup name => s.index.lookedIn name
  | .populate => s.index.packages.names
  | .scan | .register _ | .files _ => []

/-- The directories that an action reads packages from. -/
def reads (s : Session μ) (a : Action) : List Path :=
  Index.readFor s.disk (s.asked a) s.index

/-- An action reads as many packages as there are directories, and what it loads is what it registers or
what one of the directories holds. -/
structure LoadsFrom (s : Session μ) (a : Action) (dirs : List Path) : Prop where
  count : (s.act a).2.index.loads = s.index.loads + dirs.length
  loaded : ∀ e ∈ (s.act a).2.index.loaded.entries, e ∈ s.index.loaded.entries ∨
    a = .register e.2.metadata ∨ ∃ dir ∈ dirs, e.2 = .read s.disk e.1 dir

theorem LoadsFrom.of_ask {a : Action}
    (h : ∃ memo : μ, (s.act a).2.index = (s.index.ask s.disk (s.asked a)).withMemo memo) :
    s.LoadsFrom a (s.reads a) := by
  obtain ⟨memo, h⟩ := h
  refine ⟨?_, fun e he => ?_⟩
  · rw [h]
    exact Index.loads_ask s.disk _ s.index
  · rw [h] at he
    exact (Index.mem_loaded_ask he).imp_right .inr

theorem loadsFrom_reads (s : Session μ) (a : Action) : s.LoadsFrom a (s.reads a) := by
  cases a with
  | scan => exact ⟨rfl, fun e he => .inl (Index.mem_loaded_scan.1 he).1⟩
  | register m =>
    refine ⟨rfl, fun e he => ?_⟩
    rcases OrderedMap.mem_insert he with rfl | he
    · exact .inr (.inl rfl)
    · exact .inl he
  | metadata | populate => exact .of_ask ⟨_, rfl⟩
  | lookup name => exact .of_ask (Index.lookup_snd s.disk s.index name)
  | files tree => exact ⟨rfl, fun e he => .inl he⟩

/-- Whatever is done in a session and however the files change, what is loaded is of known packages, and
packages without a directory have loaded what was last registered for them. So the known packages are the
ones with metadata, and nothing is ever read from the empty path. -/
theorem sourced_after (disk : Disk) (libraryPaths : List Path) (memoSize : Nat) (past : List Action) :
    let s := (new disk libraryPaths memoSize : Session μ).after past
    (∀ name, (s.index.loaded.get? name).isSome → name ∈ s.index.packages.names) ∧
      (∀ name, s.index.packages.get? name = some "" → ∃ m, lastRegistered? name past = some m ∧
        s.index.loaded.get? name = some ⟨"", none, m⟩) ∧
      (∀ name, (s.index.metadata? s.disk name).1.isSome ↔ name ∈ s.index.packages.names) ∧
      ∀ a, s.LoadsFrom a (s.reads a) ∧ ∀ dir ∈ s.reads a, dir ≠ "" := by
  intro s
  have h : Sourced past s := Sourced.after disk libraryPaths memoSize past
  exact ⟨fun name hname => OrderedMap.mem_names_iff.2 (h.listed name hname), h.registered,
    h.isSome_metadata?, fun a => ⟨loadsFrom_reads s a, fun dir hdir => h.isBacked.ne_of_mem_readFor hdir⟩⟩

end Session

end RSource.Package
