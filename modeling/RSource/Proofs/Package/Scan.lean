import RSource.Proofs.Package.Session

/-!
# What a scan leaves

A scan puts the packages that it finds before the registered ones of other names, and drops the
metadata of packages that are neither registered nor unchanged. No name comes twice among the packages
of a session (`nodup_after`).
-/

namespace RSource.Package

namespace Index

variable {μ : Type} {disk : Disk} {i : Index μ} {name : String} {l : Loaded} {dir : Path} {e : String × Loaded}

/-- No package is found twice, and each is found in a directory. -/
theorem discover_spec (disk : Disk) (roots : List Path) :
    (discover disk roots).names.Nodup ∧
      ∀ e ∈ (discover disk roots).entries, disk.isDirectory e.2 = true := by
  have hdirs : ∀ e ∈ roots.flatMap (packagesIn disk), disk.isDirectory e.2 = true := by
    intro e he
    obtain ⟨root, -, he⟩ := List.mem_flatMap.1 he
    obtain ⟨name, -, hname⟩ := List.mem_filterMap.1 he
    dsimp only at hname
    split at hname
    · next hdir =>
      cases hname
      exact (Bool.and_eq_true_iff.1 hdir).1
    · cases hname
  refine List.foldlRecOn (motive := fun found : OrderedMap Path =>
    found.names.Nodup ∧ ∀ e ∈ found.entries, disk.isDirectory e.2 = true) _ _ ⟨List.nodup_nil, nofun⟩ ?_
  intro found h p hp
  dsimp only
  split
  · exact h
  · refine ⟨OrderedMap.nodup_names_insert h.1 _ _, fun e he => ?_⟩
    rcases OrderedMap.mem_insert he with rfl | he
    · exact hdirs p hp
    · exact h.2 e he

theorem isUnchanged_iff {found : OrderedMap Path} :
    isUnchanged disk found name l = true ↔
      (∃ dir, found.get? name = some dir ∧ Path.same l.directory dir = true) ∧
        l.stamp? = some (stampOf disk l.directory) := by
  rw [isUnchanged, Bool.and_eq_true, beq_iff_eq, Option.any_eq_true]

/-- The registered packages that a scan leaves. -/
def stillRegistered (disk : Disk) (i : Index μ) : OrderedMap Path :=
  ⟨i.packages.entries.filter fun (name, dir) =>
    dir.isEmpty && !(discover disk i.libraryPaths).contains name⟩

variable [Memory μ (List Signature)]

theorem packages_scan (disk : Disk) (i : Index μ) :
    (i.scan disk).2.packages =
      ⟨(discover disk i.libraryPaths).entries ++ (i.stillRegistered disk).entries⟩ :=
  rfl

theorem get?_packages_scan (disk : Disk) (i : Index μ) (name : String) :
    (i.scan disk).2.packages.get? name =
      ((discover disk i.libraryPaths).get? name).or ((i.stillRegistered disk).get? name) := by
  rw [packages_scan]
  exact List.lookup_append

theorem mem_loaded_scan :
    e ∈ (i.scan disk).2.loaded.entries ↔ e ∈ i.loaded.entries ∧
      (if e.2.isRegistered then ((i.scan disk).2.packages.get? e.1).any (·.isEmpty)
        else isUnchanged disk (discover disk i.libraryPaths) e.1 e.2) = true :=
  List.mem_filter

theorem nodup_packages_scan (h : i.packages.names.Nodup) (disk : Disk) :
    (i.scan disk).2.packages.names.Nodup := by
  rw [packages_scan, OrderedMap.names, List.map_append, List.nodup_append]
  refine ⟨(discover_spec disk i.libraryPaths).1, ?_, ?_⟩
  · exact h.sublist (List.filter_sublist.map _)
  · rintro name hfound _ hregistered rfl
    obtain ⟨e, he, rfl⟩ := List.mem_map.1 hregistered
    have hnot := (List.mem_filter.1 he).2
    have hcontains : (discover disk i.libraryPaths).contains e.1 = true := by
      rw [OrderedMap.contains_eq_isSome]
      exact OrderedMap.mem_names_iff.1 hfound
    simp [hcontains] at hnot

theorem nodup_packages_register (h : i.packages.names.Nodup) (m : Metadata) :
    (i.register m).packages.names.Nodup := by
  unfold register
  dsimp only
  split
  · exact h
  · exact OrderedMap.nodup_names_insert h _ _

theorem get?_packages_register (i : Index μ) (m : Metadata) (name : String) :
    (i.register m).packages.get? name =
      (i.packages.get? name).or (if name = m.name then some "" else none) := by
  unfold register
  dsimp only
  rw [OrderedMap.contains_eq_isSome]
  by_cases hname : name = m.name
  · subst hname
    cases hp : i.packages.get? m.name <;> simp [hp]
  · cases hp : i.packages.get? m.name <;> simp [hname]

variable [Matcher]

/-- But for the memory, a lookup only loads packages. -/
theorem grows_lookup (disk : Disk) (i : Index μ) (name : String) :
    Grows (i.withMemo (i.lookup disk name).2.memo) (i.lookup disk name).2 := by
  cases hm : (Memory.get? i.memo name).1 with
  | some a =>
    rw [lookup_of_some hm]
    exact .refl _
  | none =>
    rw [lookup_of_none hm]
    have hg := grows_search disk i name
    unfold remember
    split
    · exact { hg with memo := rfl }
    · exact { hg with memo := rfl }

end Index

namespace Session

variable {μ : Type} [Matcher] [Memory μ (List Signature)]

theorem libraryPaths_act (s : Session μ) (a : Action) :
    (s.act a).2.index.libraryPaths = s.index.libraryPaths := by
  cases a with
  | scan | register | files => rfl
  | metadata name => exact (Index.grows_metadata? s.disk s.index name).libraryPaths
  | lookup name => exact (Index.grows_lookup s.disk s.index name).libraryPaths
  | populate => exact (Index.grows_populate s.disk s.index).libraryPaths

theorem libraryPaths_after (s : Session μ) (as : List Action) :
    (s.after as).index.libraryPaths = s.index.libraryPaths := by
  induction as generalizing s with
  | nil => rfl
  | cons a as ih => rw [after_cons, ih, libraryPaths_act]

theorem nodup_act {s : Session μ} (h : s.index.packages.names.Nodup) (a : Action) :
    (s.act a).2.index.packages.names.Nodup := by
  cases a with
  | scan => exact Index.nodup_packages_scan h s.disk
  | register m => exact Index.nodup_packages_register h m
  | metadata name => exact (Index.grows_metadata? s.disk s.index name).packages ▸ h
  | lookup name => exact (Index.grows_lookup s.disk s.index name).packages ▸ h
  | populate => exact (Index.grows_populate s.disk s.index).packages ▸ h
  | files tree => exact h

theorem nodup_after {s : Session μ} (h : s.index.packages.names.Nodup) (as : List Action) :
    (s.after as).index.packages.names.Nodup := by
  induction as generalizing s with
  | nil => exact h
  | cons a as ih => exact ih (nodup_act h a)

end Session

end RSource.Package
