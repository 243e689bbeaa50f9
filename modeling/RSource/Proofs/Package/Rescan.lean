import RSource.Proofs.Package.Scan
import RSource.Proofs.Package.Stamp

/-!
# A rescan is as good as a first scan

Metadata that a scan leaves was read from an earlier disk and is judged by its directory and its stamp
alone. As long as files come only by being written, each later than all that there was before, a file
that is not newer than the earlier disk was there already (`Since`), so an equal stamp means equal
files, and metadata that is left is what would be read now (`Dated.isCurrent_scan`). An index with
current metadata only gives the same metadata and the same signatures as one that has read nothing
(`scan_after_chronicle`).
-/

namespace RSource

/-- Every file of `t` that is not newer than `past` was in `past`, and `past` is not newer than
`now`. -/
def FileTree.Since (past : FileTree) (now : Nat) (t : FileTree) : Prop :=
  ∃ time ≤ now, past.Until time ∧
    ∀ p c m, t.entry? p = some (.file c m) → m ≤ time → past.entry? p = some (.file c m)

namespace FileTree.Since

variable {past t : FileTree} {now m : Nat} {p : Position}

theorem self (h : t.Until now) : Since t now t :=
  ⟨now, Nat.le_refl now, h, fun _ _ _ he _ => he⟩

theorem write (h : Since past now t) (hp : p ≠ []) (hm : now < m) (c : Content) :
    Since past m (t.write p c m) := by
  obtain ⟨time, htime, huntil, hfiles⟩ := h
  refine ⟨time, by omega, huntil, fun q c' m' he hle => ?_⟩
  rcases file_of_write hp he with ⟨-, -, rfl⟩ | he
  · omega
  · exact hfiles q c' m' he hle

theorem remove (h : Since past now t) (p : Position) : Since past now (t.remove p) := by
  obtain ⟨time, htime, huntil, hfiles⟩ := h
  exact ⟨time, htime, huntil, fun q c m he hle => hfiles q c m (entry?_of_remove he) hle⟩

theorem touch (h : Since past now t) (p : Position) (m : Nat) : Since past (max now m) (t.touch p m) := by
  obtain ⟨time, htime, huntil, hfiles⟩ := h
  exact ⟨time, by omega, huntil, fun q c m' he hle => hfiles q c m' (file_of_touch he) hle⟩

end FileTree.Since

namespace Package

/-- The actions register no package, and the files change in order: `now` is the latest time that any
entry has had, a file is written at a later time, files and directories are removed, and directories
are given any time. -/
inductive Chronicle : Nat → FileTree → List Action → Prop
  | nil {now : Nat} {t : FileTree} : Chronicle now t []
  | scan {now : Nat} {t : FileTree} {as : List Action} (h : Chronicle now t as) :
    Chronicle now t (.scan :: as)
  | metadata {now : Nat} {t : FileTree} {as : List Action} (name : String) (h : Chronicle now t as) :
    Chronicle now t (.metadata name :: as)
  | lookup {now : Nat} {t : FileTree} {as : List Action} (name : String) (h : Chronicle now t as) :
    Chronicle now t (.lookup name :: as)
  | write {now : Nat} {t : FileTree} {as : List Action} {p : Position} {m : Nat} (c : Content)
      (hp : t.Admits p) (hm : now < m) (h : Chronicle m (t.write p c m) as) :
    Chronicle now t (.files (t.write p c m) :: as)
  | remove {now : Nat} {t : FileTree} {as : List Action} (p : Position)
      (h : Chronicle now (t.remove p) as) : Chronicle now t (.files (t.remove p) :: as)
  | touch {now : Nat} {t : FileTree} {as : List Action} (p : Position) (m : Nat)
      (h : Chronicle (max now m) (t.touch p m) as) : Chronicle now t (.files (t.touch p m) :: as)

namespace Index

variable {μ ν : Type} [Matcher] {disk : Disk} {i : Index μ} {j : Index ν} {name p : String}
  {pick : Metadata → Option Signature}

/-! ### What is read -/

/-- What is loaded in `j` was loaded in `i`, or has been read from the disk since. -/
def Reads (disk : Disk) (i j : Index μ) : Prop :=
  ∀ e ∈ j.loaded.entries, e ∈ i.loaded.entries ∨
    ∃ dir, i.packages.get? e.1 = some dir ∧ e.2 = .read disk e.1 dir

theorem reads_metadata? (disk : Disk) (i : Index μ) (p : String) : Reads disk i (i.metadata? disk p).2 := by
  cases hl : i.loaded.get? p with
  | some l => exact metadata?_of_loaded hl ▸ fun e he => .inl he
  | none =>
    cases hp : i.packages.get? p with
    | none => exact metadata?_of_unknown hl hp ▸ fun e he => .inl he
    | some dir =>
      rw [metadata?_of_unread hl hp]
      intro e he
      rcases OrderedMap.mem_insert he with rfl | he
      · exact .inr ⟨dir, hp, rfl⟩
      · exact .inl he

theorem reads_collect (disk : Disk) (pick : Metadata → Option Signature) (ps : List String) (i : Index μ) :
    Reads disk i (collect disk pick ps i).2 := by
  induction ps generalizing i with
  | nil => exact fun e he => .inl he
  | cons p ps ih =>
    intro e he
    rcases ih (i.metadata? disk p).2 e he with he | ⟨dir, hdir, hread⟩
    · exact reads_metadata? disk i p e he
    · rw [(grows_metadata? disk i p).packages] at hdir
      exact .inr ⟨dir, hdir, hread⟩

/-! ### Current metadata -/

/-- What is loaded for a package is what would be read from its directory now. -/
def IsCurrent (disk : Disk) (i : Index μ) : Prop :=
  ∀ e ∈ i.loaded.entries, ∃ dir, i.packages.get? e.1 = some dir ∧ e.2.metadata = load disk e.1 dir

theorem IsCurrent.metadata?_fst (h : i.IsCurrent disk) (p : String) :
    (i.metadata? disk p).1 = (i.packages.get? p).map (load disk p) := by
  cases hl : i.loaded.get? p with
  | some l =>
    obtain ⟨dir, hdir, hmeta⟩ := h _ (OrderedMap.mem_of_get? hl)
    rw [metadata?_of_loaded hl, hdir, hmeta]
    rfl
  | none =>
    cases hp : i.packages.get? p with
    | none =>
      rw [metadata?_of_unknown hl hp]
      rfl
    | some dir =>
      rw [metadata?_of_unread hl hp]
      rfl

theorem IsCurrent.metadata?_snd (h : i.IsCurrent disk) (p : String) :
    (i.metadata? disk p).2.IsCurrent disk := by
  intro e he
  rw [(grows_metadata? disk i p).packages]
  rcases reads_metadata? disk i p e he with he | ⟨dir, hdir, hread⟩
  · exact h e he
  · exact ⟨dir, hdir, by rw [hread, Loaded.read]⟩

theorem IsCurrent.collect_fst (h : i.IsCurrent disk) (pick : Metadata → Option Signature)
    (ps : List String) : (collect disk pick ps i).1 =
      ps.filterMap fun p => ((i.packages.get? p).map (load disk p)).bind pick := by
  induction ps generalizing i with
  | nil => rfl
  | cons p ps ih =>
    rw [collect_cons, h.metadata?_fst, ih (h.metadata?_snd p), (grows_metadata? disk i p).packages,
      List.filterMap_cons]
    cases ((i.packages.get? p).map (load disk p)).bind pick <;> rfl

/-- Indexes of the same packages that have read nothing but what is on disk now find the same. -/
theorem IsCurrent.search_eq_search (hi : i.IsCurrent disk) (hj : j.IsCurrent disk)
    (hp : i.packages = j.packages) (name : String) :
    (i.search disk name).1 = (j.search disk name).1 := by
  rw [search_eq, search_eq, hi.collect_fst, hj.collect_fst, askedFor_of_packages hp, hp]

/-! ### Lookups -/

variable [Memory μ (List Signature)]

theorem reads_lookup (disk : Disk) (i : Index μ) (name : String) : Reads disk i (i.lookup disk name).2 := by
  cases hm : (Memory.get? i.memo name).1 with
  | some a => exact lookup_of_some hm ▸ fun e he => .inl he
  | none =>
    rw [lookup_of_none hm, search_eq]
    have hreads := reads_collect disk (signatureIn? name) (i.askedFor name) i
    unfold remember
    split <;> exact hreads

theorem lookup_of_empty (h : Memory.entries i.memo = []) (disk : Disk) (name : String) :
    (i.lookup disk name).1 = (i.search disk name).1 := by
  have hnone : (Memory.get? i.memo name).1 = none := by
    rw [Option.eq_none_iff_forall_ne_some]
    intro a ha
    have hmem := Memory.mem_of_get? ha
    rw [h] at hmem
    cases hmem
  rw [lookup_of_none hnone]

end Index

/-! ### Sessions in order -/

variable {μ ν : Type}

theorem Index.ne_of_mem_discover {disk : Disk} {roots : List Path} {e : String × Path}
    (he : e ∈ (discover disk roots).entries) : e.2 ≠ "" := by
  intro hempty
  have hdir := (discover_spec disk roots).2 e he
  rw [hempty] at hdir
  cases hdir

/-- The files are proper and not newer than `now`, no package is registered, and what is loaded was
read from a disk that came before this one. -/
structure Dated [Matcher] (now : Nat) (s : Session μ) : Prop where
  proper : s.disk.tree.Proper
  times : s.disk.tree.Until now
  directory : ∀ e ∈ s.index.packages.entries, e.2 ≠ ""
  loaded : ∀ e ∈ s.index.loaded.entries, e.2.directory ≠ "" ∧ ∃ past : FileTree, past.Proper ∧
    past.Since now s.disk.tree ∧ e.2 = .read ⟨past, s.disk.current⟩ e.1 e.2.directory

namespace Dated

variable [Matcher] {now : Nat} {s : Session μ} {i : Index μ} {t : FileTree}

theorem reads (h : Dated now s) (hp : i.packages = s.index.packages)
    (hr : Index.Reads s.disk s.index i) : Dated now { s with index := i } := by
  refine ⟨h.proper, h.times, fun e he => h.directory e (hp ▸ he), fun e he => ?_⟩
  rcases hr e he with he | ⟨dir, hdir, hread⟩
  · exact h.loaded e he
  · have hne : dir ≠ "" := h.directory _ (OrderedMap.mem_of_get? hdir)
    rw [hread]
    exact ⟨hne, s.disk.tree, h.proper, .self h.times, rfl⟩

theorem files {now' : Nat} (h : Dated now s) (hproper : t.Proper) (htimes : t.Until now')
    (hsince : ∀ past : FileTree, past.Since now s.disk.tree → past.Since now' t) :
    Dated now' { s with disk := { s.disk with tree := t } } := by
  refine ⟨hproper, htimes, h.directory, fun e he => ?_⟩
  obtain ⟨hdir, past, hpast, hs, hread⟩ := h.loaded e he
  exact ⟨hdir, past, hpast, hsince past hs, hread⟩

variable [Memory μ (List Signature)]

theorem new (disk : Disk) (h : disk.tree.Proper) (libraryPaths : List Path) (memoSize : Nat) :
    Dated disk.tree.latest (.new disk libraryPaths memoSize : Session μ) :=
  ⟨h, disk.tree.until_latest, nofun, nofun⟩

/-- Without registered packages a scan leaves those that it finds. -/
theorem packages_scan (h : Dated now s) :
    (s.index.scan s.disk).2.packages = Index.discover s.disk s.index.libraryPaths := by
  have hnone : (s.index.stillRegistered s.disk).entries = [] := by
    refine List.filter_eq_nil_iff.2 fun e he => ?_
    simp [h.directory e he]
  rw [Index.packages_scan, hnone, List.append_nil]

theorem scan (h : Dated now s) : Dated now { s with index := (s.index.scan s.disk).2 } := by
  refine ⟨h.proper, h.times, fun e he => ?_, fun e he => ?_⟩
  · rw [h.packages_scan] at he
    exact Index.ne_of_mem_discover he
  · exact h.loaded e (Index.mem_loaded_scan.1 he).1

/-- Metadata that a scan leaves is what would be read now. -/
theorem isCurrent_scan (h : Dated now s) : (s.index.scan s.disk).2.IsCurrent s.disk := by
  intro e he
  obtain ⟨hmem, hstays⟩ := Index.mem_loaded_scan.1 he
  obtain ⟨hdir, past, hpast, ⟨time, -, htime, hfiles⟩, hread⟩ := h.loaded e hmem
  have hempty : e.2.directory.isEmpty = false := by simpa using hdir
  rw [if_neg (by simp [Loaded.isRegistered, hempty]), Index.isUnchanged_iff] at hstays
  obtain ⟨⟨dir, hfound, hsame⟩, hstamp⟩ := hstays
  have hmemFound := OrderedMap.mem_of_get? hfound
  have hdir' : dir ≠ "" := Index.ne_of_mem_discover hmemFound
  -- the same path leads to the directory that the scan has found
  have hposition : s.disk.position? e.2.directory = s.disk.position? dir :=
    Disk.position?_of_same h.proper hsame hdir hdir' ((Index.discover_spec s.disk _).2 _ hmemFound)
  -- the stamps are equal, so the files are those that the metadata was read from
  have hstamps : stampOf ⟨past, s.disk.current⟩ e.2.directory = stampOf s.disk e.2.directory := by
    rw [hread] at hstamp
    simpa [Loaded.read, hempty] using hstamp
  have hpackage : packageFiles s.disk dir = packageFiles ⟨past, s.disk.current⟩ e.2.directory :=
    calc packageFiles s.disk dir
      _ = packageFiles s.disk e.2.directory := by rw [packageFiles, packageFiles, hposition]
      _ = packageFiles ⟨past, s.disk.current⟩ e.2.directory :=
        packageFiles_of_stampOf hpast h.proper rfl hdir htime hfiles hstamps
  have hload : load s.disk e.1 dir = load ⟨past, s.disk.current⟩ e.1 e.2.directory :=
    load_congr h.proper hpast hdir' hdir hpackage e.1
  exact ⟨dir, by rw [h.packages_scan, hfound], by rw [hread, hload, Loaded.read]⟩

theorem after_chronicle {as : List Action} (h : Dated now s) (has : Chronicle now t as)
    (ht : s.disk.tree = t) : ∃ now', Dated now' (s.after as) := by
  induction has generalizing s with
  | nil => exact ⟨_, h⟩
  | scan _ ih => exact ih h.scan ht
  | metadata name _ ih =>
    exact ih (h.reads (Index.grows_metadata? s.disk s.index name).packages
      (Index.reads_metadata? s.disk s.index name)) ht
  | lookup name _ ih =>
    exact ih (h.reads (Index.grows_lookup s.disk s.index name).packages
      (Index.reads_lookup s.disk s.index name)) ht
  | write c hp hm _ ih =>
    subst ht
    exact ih (h.files (h.proper.write hp c _) (h.times.write (Nat.le_of_lt hm) hp.ne_nil c)
      fun past hs => hs.write hp.ne_nil hm c) rfl
  | remove p _ ih =>
    subst ht
    exact ih (h.files (h.proper.remove p) (h.times.remove p) fun past hs => hs.remove p) rfl
  | touch p m _ ih =>
    subst ht
    exact ih (h.files (h.proper.touch p m) (h.times.touch p m) fun past hs => hs.touch p m) rfl

end Dated

namespace Session

section

variable [Matcher] [Memory μ (List Signature)] [Memory ν (List Signature)]

/-- Right after a scan, an index whose files have changed in order gives the same names, the same
metadata and the same signatures as a new index of the same directories after its first scan. -/
theorem scan_after_chronicle (disk : Disk) (libraryPaths : List Path) (memoSize memoSize' : Nat)
    (as : List Action) (hdisk : disk.tree.Proper) (has : Chronicle disk.tree.latest disk.tree as) :
    let s := (new disk libraryPaths memoSize : Session μ).after as
    let rescanned := (s.index.scan s.disk).2
    let fresh := ((Index.new libraryPaths memoSize' : Index ν).scan s.disk).2
    rescanned.packages.names = fresh.packages.names ∧
      (∀ name, (rescanned.metadata? s.disk name).1 = (fresh.metadata? s.disk name).1) ∧
      ∀ name, (rescanned.lookup s.disk name).1 = (fresh.lookup s.disk name).1 := by
  intro s rescanned fresh
  have hnew : Dated disk.tree.latest (new disk libraryPaths memoSize : Session μ) :=
    .new disk hdisk libraryPaths memoSize
  obtain ⟨now, hs⟩ := hnew.after_chronicle has rfl
  have hpackages : rescanned.packages = fresh.packages := by
    have hroots : s.index.libraryPaths = libraryPaths := libraryPaths_after _ as
    have hfresh := Dated.packages_scan (s := (new s.disk libraryPaths memoSize' : Session ν))
      (.new s.disk hs.proper libraryPaths memoSize')
    exact (hroots ▸ hs.packages_scan).trans hfresh.symm
  have hcurrent : rescanned.IsCurrent s.disk := hs.isCurrent_scan
  have hfresh : fresh.IsCurrent s.disk := nofun
  refine ⟨by rw [hpackages], fun name => ?_, fun name => ?_⟩
  · rw [hcurrent.metadata?_fst, hfresh.metadata?_fst, hpackages]
  · rw [Index.lookup_of_empty (Memory.entries_clear _), Index.lookup_of_empty (Memory.entries_clear _)]
    exact hcurrent.search_eq_search hfresh hpackages name

end

/-- A description that is written anew after it has been read, with as many bytes: the rescan sees it
by its time. -/
theorem scan_after_chronicle_rewritten :
    let one := FileTree.write {} ["lib", "pkg", "DESCRIPTION"] (.text "Title: One".toList) 1
    let two := one.write ["lib", "pkg", "DESCRIPTION"] (.text "Title: Two".toList) 2
    let s := (new {} ["/lib"] 1 : Session).after [.files one, .scan, .metadata "pkg", .files two]
    let rescanned := (s.index.scan s.disk).2
    rescanned.packages.names = ["pkg"] ∧
      (s.index.metadata? s.disk "pkg").1.bind Metadata.description? = some "One" ∧
      (rescanned.metadata? s.disk "pkg").1.bind Metadata.description? = some "Two" := by
  intro one two s rescanned
  have hadmits : one.Admits ["lib", "pkg", "DESCRIPTION"] := ⟨by decide, by decide, by decide +kernel⟩
  have has : Chronicle 0 {} [.files one, .scan, .metadata "pkg", .files two] :=
    .write _ ⟨by decide, by decide, by decide⟩ (by decide)
      (.scan (.metadata "pkg" (.write _ hadmits (by decide) .nil)))
  obtain ⟨hnames, hmetadata, -⟩ := @scan_after_chronicle (Memo (List Signature)) (Memo (List Signature)) _ _ _
    {} ["/lib"] 1 1 _ FileTree.proper_empty has
  refine ⟨hnames.trans (by decide +kernel), by decide +kernel, ?_⟩
  rw [hmetadata "pkg"]
  decide +kernel

end Session

end Package

end RSource
