import RSource.Proofs.Package.Scan

/-!
# Registered packages in a rescan

A package that is registered in memory is entered among the packages without a directory, unless a
package of its name is entered already: then that one keeps its directory, and only the metadata is
the registered one. A scan that finds no package of the name tells registered packages by the missing
directory. So it leaves the registration if the name had no directory when it was registered, and
drops name and metadata if it had one (`scan_after_register`), although nothing on disk has taken the
place of the registered package.
-/

namespace RSource.Package

/-- The action is neither a scan nor a registration under the name. -/
def Action.Leaves (name : String) : Action → Prop
  | .scan => False
  | .register m => m.name ≠ name
  | .metadata _ | .lookup _ | .populate | .files _ => True

namespace Index

variable {μ : Type} [Memory μ (List Signature)] {disk : Disk} {i : Index μ} {m : Metadata} {name : String}
  {dir : Path}

/-- A package without a directory is still registered after a scan that does not find it. -/
theorem scan_of_registered (hp : i.packages.get? m.name = some "")
    (hl : i.loaded.get? m.name = some ⟨"", none, m⟩)
    (hf : (discover disk i.libraryPaths).get? m.name = none) :
    (i.scan disk).2.packages.get? m.name = some "" ∧
      (i.scan disk).2.loaded.get? m.name = some ⟨"", none, m⟩ := by
  have hcontains : (discover disk i.libraryPaths).contains m.name = false := by
    rw [OrderedMap.contains_eq_isSome, hf, Option.isSome_none]
  have hpackages : (i.scan disk).2.packages.get? m.name = some "" := by
    rw [get?_packages_scan, hf, Option.none_or]
    exact OrderedMap.get?_filter hp (by simp [hcontains])
  refine ⟨hpackages, OrderedMap.get?_filter hl ?_⟩
  have hreg : Loaded.isRegistered ⟨"", none, m⟩ = true := rfl
  rw [packages_scan] at hpackages
  simp only [hreg, if_true]
  exact (congrArg (Option.any (·.isEmpty)) hpackages).trans rfl

/-- A package with a directory is dropped with all that is loaded for it when a scan does not find
it. -/
theorem scan_of_found (hnodup : i.packages.names.Nodup) (hp : i.packages.get? name = some dir)
    (hdir : dir.isEmpty = false) (hf : (discover disk i.libraryPaths).get? name = none) :
    (i.scan disk).2.packages.get? name = none ∧ (i.scan disk).2.loaded.get? name = none := by
  have hpackages : (i.scan disk).2.packages.get? name = none := by
    rw [get?_packages_scan, hf, Option.none_or]
    refine List.lookup_eq_none_iff.2 fun e he => ?_
    obtain ⟨hmem, hfilter⟩ := List.mem_filter.1 he
    rw [bne_iff_ne]
    rintro rfl
    -- the entry is the only one of the name, so it has the directory
    have hsame := lookup_of_mem hnodup hmem
    rw [show i.packages.entries.lookup e.1 = some dir from hp] at hsame
    cases hsame
    simp [hdir] at hfilter
  refine ⟨hpackages, List.lookup_eq_none_iff.2 fun e he => ?_⟩
  have hstays := (mem_loaded_scan.1 he).2
  rw [bne_iff_ne]
  rintro rfl
  split at hstays
  · rw [hpackages] at hstays
    cases hstays
  · rw [isUnchanged, hf] at hstays
    cases hstays

theorem metadata?_register (i : Index μ) (m : Metadata) :
    (i.register m).loaded.get? m.name = some ⟨"", none, m⟩ := by
  simp [register]

end Index

namespace Session

section

variable {μ : Type} [Matcher] [Memory μ (List Signature)] {s : Session μ} {a : Action} {as : List Action} {name : String} {l : Loaded}

/-- Other actions leave the entry of a name among the packages and what is loaded for it. -/
theorem get?_act (ha : a.Leaves name) (hl : s.index.loaded.get? name = some l) :
    (s.act a).2.index.packages.get? name = s.index.packages.get? name ∧
      (s.act a).2.index.loaded.get? name = some l := by
  cases a with
  | scan => exact ha.elim
  | register m =>
    have hne : name ≠ m.name := Ne.symm ha
    refine ⟨(Index.get?_packages_register s.index m name).trans (by simp [hne]), ?_⟩
    simpa [act, Index.register, hne] using hl
  | metadata p =>
    have hg := Index.grows_metadata? s.disk s.index p
    exact ⟨congrArg (·.get? name) hg.packages, hg.kept name l hl⟩
  | lookup p =>
    have hg := Index.grows_lookup s.disk s.index p
    exact ⟨congrArg (·.get? name) hg.packages, hg.kept name l hl⟩
  | populate =>
    have hg := Index.grows_populate s.disk s.index
    exact ⟨congrArg (·.get? name) hg.packages, hg.kept name l hl⟩
  | files tree => exact ⟨rfl, hl⟩

theorem get?_after (has : ∀ a ∈ as, a.Leaves name) (hl : s.index.loaded.get? name = some l) :
    (s.after as).index.packages.get? name = s.index.packages.get? name ∧
      (s.after as).index.loaded.get? name = some l := by
  induction as generalizing s with
  | nil => exact ⟨rfl, hl⟩
  | cons a as ih =>
    rw [List.forall_mem_cons] at has
    obtain ⟨hp, hl'⟩ := get?_act has.1 hl
    rw [after_cons, ← hp]
    exact ih has.2 hl'

/-- The next scan after a registration, when it finds no package of the name, leaves the registered
package if the name had no directory when it was registered, and drops it otherwise. -/
theorem scan_after_register (disk : Disk) (libraryPaths : List Path) (memoSize : Nat)
    (before between : List Action) (m : Metadata) (hbetween : ∀ a ∈ between, a.Leaves m.name)
    (hfound : (Index.discover ((new disk libraryPaths memoSize : Session μ).after
      (before ++ .register m :: between)).disk libraryPaths).contains m.name = false) :
    let s := (new disk libraryPaths memoSize : Session μ).after before
    let u := (new disk libraryPaths memoSize : Session μ).after (before ++ .register m :: between ++ [.scan])
    if (s.index.packages.get? m.name).all (·.isEmpty) then
      m.name ∈ u.index.packages.names ∧ (u.index.metadata? u.disk m.name).1 = some m
    else m.name ∉ u.index.packages.names ∧ (u.index.metadata? u.disk m.name).1 = none := by
  intro s u
  set t := (new disk libraryPaths memoSize : Session μ).after (before ++ .register m :: between) with ht
  have hu : u = ⟨t.disk, (t.index.scan t.disk).2⟩ := by
    simp only [u, ht, after_append, after_cons, after_nil, act]
  have hroots : t.index.libraryPaths = libraryPaths := libraryPaths_after _ _
  have hnodup : t.index.packages.names.Nodup :=
    nodup_after (s := (new disk libraryPaths memoSize : Session μ)) List.nodup_nil _
  have hf : (Index.discover t.disk t.index.libraryPaths).get? m.name = none := by
    rw [hroots, ← Option.isNone_iff_eq_none, ← Option.not_isSome, ← OrderedMap.contains_eq_isSome,
      hfound, Bool.not_false]
  -- between the registration and the scan the entries of the name stay as they are
  obtain ⟨hp, hl⟩ : t.index.packages.get? m.name = (s.index.register m).packages.get? m.name ∧
      t.index.loaded.get? m.name = some ⟨"", none, m⟩ := by
    rw [ht, after_append, after_cons]
    exact get?_after hbetween (Index.metadata?_register s.index m)
  rw [hu]
  obtain ⟨dir, hdir, hall⟩ : ∃ dir, (s.index.register m).packages.get? m.name = some dir ∧
      (s.index.packages.get? m.name).all (·.isEmpty) = dir.isEmpty := by
    rw [Index.get?_packages_register, if_pos rfl]
    cases s.index.packages.get? m.name with
    | none => exact ⟨"", rfl, rfl⟩
    | some dir => exact ⟨dir, rfl, rfl⟩
  rw [hdir] at hp
  rw [hall]
  cases hempty : dir.isEmpty with
  | true =>
    obtain rfl : dir = "" := String.isEmpty_iff.1 hempty
    obtain ⟨hp', hl'⟩ := Index.scan_of_registered hp hl hf
    rw [if_pos rfl, OrderedMap.mem_names_iff, hp', Index.metadata?_of_loaded hl']
    exact ⟨rfl, rfl⟩
  | false =>
    obtain ⟨hp', hl'⟩ := Index.scan_of_found hnodup hp hempty hf
    rw [if_neg Bool.false_ne_true, OrderedMap.mem_names_iff, hp', Index.metadata?_of_unknown hl' hp']
    exact ⟨Bool.false_ne_true, rfl⟩

end

/-- A library in which another package is found. The registered package is looked up before the
rescan, which leaves it. -/
theorem scan_after_register_beside_other :
    let disk : Disk := ⟨FileTree.write {} ["lib", "other", "DESCRIPTION"] (.text []) 1, []⟩
    let m : Metadata := { name := "pkg", exports := ["fit"] }
    let u := (new disk ["/lib"] 1 : Session).after [.scan, .register m, .lookup "fit", .scan]
    u.index.packages.names = ["other", "pkg"] ∧ (u.index.metadata? u.disk "pkg").1 = some m := by
  intro disk m u
  have hleaves : ∀ a ∈ [Action.lookup "fit"], a.Leaves "pkg" := by simp [Action.Leaves]
  have hkept := @scan_after_register (Memo (List Signature)) _ _ disk ["/lib"] 1 [.scan] [.lookup "fit"] m hleaves
    (by decide +kernel)
  rw [if_pos (by decide +kernel)] at hkept
  exact ⟨by decide +kernel, hkept.2⟩

/-- A registration is not always left by a scan that finds no package of its name: here the package
was found on disk, then registered in memory, and then its directory was removed. -/
theorem not_forall_scan_keeps_registration :
    ¬∀ (disk : Disk) (libraryPaths : List Path) (memoSize : Nat) (before between : List Action)
      (m : Metadata), (∀ a ∈ between, a.Leaves m.name) →
      (Index.discover ((new disk libraryPaths memoSize : Session).after
        (before ++ .register m :: between)).disk libraryPaths).contains m.name = false →
      let u := (new disk libraryPaths memoSize : Session).after (before ++ .register m :: between ++ [.scan])
      m.name ∈ u.index.packages.names ∧ (u.index.metadata? u.disk m.name).1 = some m := by
  intro h
  have hkept := h ⟨FileTree.write {} ["lib", "pkg", "DESCRIPTION"] (.text []) 1, []⟩ ["/lib"] 1 [.scan]
    [.files (.remove (.write {} ["lib", "pkg", "DESCRIPTION"] (.text []) 1) ["lib", "pkg"])]
    { name := "pkg" } (by simp [Action.Leaves]) (by decide +kernel)
  exact absurd hkept.1 (by decide +kernel)

end Session

end RSource.Package
