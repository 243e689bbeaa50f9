import RSource.Package.Metadata
import RSource.Proofs.FileTree.Resolve

/-!
# What a stamp tells

The metadata of a package is read from some files below its directory (`packageFiles`), and from
nothing else (`load_congr`). The stamp counts these files and is at least as late as each of them. So
if no file that is as old as the stamp has come since, an equal stamp means that no file has gone
either: the files are the same (`packageFiles_of_stampOf`), although the stamp knows neither their
names nor what they hold.
-/

namespace RSource

def Entry.file? : Entry → Option (Content × Nat)
  | .file content modified => some (content, modified)
  | .directory _ => none

theorem Entry.file?_eq_some_iff {e : Entry} {c : Content} {m : Nat} :
    e.file? = some (c, m) ↔ e = .file c m := by
  cases e <;> simp [Entry.file?]

namespace Package

variable {t : FileTree} {d d₁ d₂ : Disk} {x : Position} {dir dir₁ dir₂ : Path} {r : List String} {n : String}
  {c : Content} {m time : Nat}

/-! ### Adding up a stamp -/

theorem files_foldl_add (es : List (Option Entry)) (s : Stamp) :
    (es.foldl Stamp.add s).files = s.files + (es.filterMap fun e => e.bind Entry.file?).length := by
  induction es generalizing s with
  | nil => rfl
  | cons e es ih =>
    rw [List.foldl_cons, ih, List.filterMap_cons]
    rcases e with _ | ⟨c, m⟩ | m
    · rfl
    · simp only [Stamp.add, Entry.file?, Option.bind_some, List.length_cons]
      omega
    · rfl

theorem modified_foldl_add_le_iff (es : List (Option Entry)) (s : Stamp) :
    (es.foldl Stamp.add s).modified ≤ time ↔
      s.modified ≤ time ∧ ∀ e, some e ∈ es → e.modified ≤ time := by
  induction es generalizing s with
  | nil => simp
  | cons e es ih =>
    rw [List.foldl_cons, ih]
    rcases e with _ | ⟨c, m⟩ | m <;> simp [Stamp.add, Entry.modified, and_assoc]

/-! ### The files of a package -/

/-- The source files of a package whose directory is at the position. -/
def sourceNames (t : FileTree) (x : Position) : List String :=
  ((t.namesIn (x ++ ["R"])).filter Path.isSourceName).filter fun n =>
    ((t.entry? (x ++ ["R", n])).bind Entry.file?).isSome

/-- What the stamp of a package looks at, as names below its directory. -/
def parts (t : FileTree) (x : Position) : List (List String) :=
  [["DESCRIPTION"], ["NAMESPACE"], ["R"]] ++ (sourceNames t x).map fun n => ["R", n]

def filesAt (t : FileTree) (x : Position) : List (List String × Content × Nat) :=
  (parts t x).filterMap fun r => ((t.entry? (x ++ r)).bind Entry.file?).map fun f => (r, f)

/-- The files that the metadata of the package in a directory is read from, by their names below
it. -/
def packageFiles (d : Disk) (dir : Path) : List (List String × Content × Nat) :=
  ((d.position? dir).map (filesAt d.tree)).getD []

def IsPart (r : List String) : Prop :=
  r = ["DESCRIPTION"] ∨ r = ["NAMESPACE"] ∨ r = ["R"] ∨ ∃ n, Path.isSourceName n = true ∧ r = ["R", n]

theorem isName_of_mem_namesIn (h : t.Proper) (hn : n ∈ t.namesIn x) : IsName n := by
  obtain ⟨e, he⟩ := Option.isSome_iff_exists.1 (h.mem_namesIn.1 hn)
  exact h.isName _ (h.mem_entries_iff.2 ⟨by simp, he⟩) n (by simp)

theorem isName_of_mem_parts (h : t.Proper) (hr : r ∈ parts t x) : r ≠ [] ∧ ∀ n ∈ r, IsName n := by
  rcases List.mem_append.1 hr with hr | hr
  · simp only [List.mem_cons, List.not_mem_nil, or_false] at hr
    rcases hr with rfl | rfl | rfl <;> decide
  · obtain ⟨n, hn, rfl⟩ := List.mem_map.1 hr
    have hname := isName_of_mem_namesIn h (List.mem_filter.1 (List.mem_filter.1 hn).1).1
    exact ⟨by simp, by simpa using ⟨by decide, hname⟩⟩

theorem mem_filesAt (h : t.Proper) :
    (r, c, m) ∈ filesAt t x ↔ IsPart r ∧ t.entry? (x ++ r) = some (.file c m) := by
  have hfile : ∀ r, (t.entry? (x ++ r)).bind Entry.file? = some (c, m) ↔
      t.entry? (x ++ r) = some (.file c m) := by
    intro r
    rw [Option.bind_eq_some_iff]
    simp only [Entry.file?_eq_some_iff, exists_eq_right]
  simp only [filesAt, List.mem_filterMap, Option.map_eq_some_iff, Prod.mk.injEq]
  constructor
  · rintro ⟨r, hr, f, hf, rfl, rfl⟩
    refine ⟨?_, (hfile r).1 hf⟩
    rcases List.mem_append.1 hr with hr | hr
    · simp only [List.mem_cons, List.not_mem_nil, or_false] at hr
      exact hr.imp_right (.imp_right .inl)
    · obtain ⟨n, hn, rfl⟩ := List.mem_map.1 hr
      exact .inr (.inr (.inr ⟨n, (List.mem_filter.1 (List.mem_filter.1 hn).1).2, rfl⟩))
  · rintro ⟨hr, he⟩
    refine ⟨r, ?_, (c, m), (hfile r).2 he, rfl, rfl⟩
    rcases hr with rfl | rfl | rfl | ⟨n, hn, rfl⟩
    · simp [parts]
    · simp [parts]
    · simp [parts]
    · refine List.mem_append_right _ (List.mem_map_of_mem ?_)
      have hmem : n ∈ t.namesIn (x ++ ["R"]) := h.mem_namesIn.2 (by simpa using by rw [he]; rfl)
      exact List.mem_filter.2 ⟨List.mem_filter.2 ⟨hmem, hn⟩, by rw [(hfile _).2 he]; rfl⟩

theorem mem_packageFiles (h : d.tree.Proper) :
    (r, c, m) ∈ packageFiles d dir ↔
      IsPart r ∧ ∃ x, d.position? dir = some x ∧ d.tree.entry? (x ++ r) = some (.file c m) := by
  unfold packageFiles
  cases d.position? dir with
  | none => simp
  | some x => simp [mem_filesAt h]

/-- The files come in the order of their names. -/
theorem pairwise_packageFiles (h : d.tree.Proper) (dir : Path) :
    (packageFiles d dir).Pairwise fun f g => f.1 < g.1 := by
  unfold packageFiles
  cases d.position? dir with
  | none => exact .nil
  | some x =>
    have hparts : (parts d.tree x).Pairwise (· < ·) := by
      refine List.pairwise_append.2 ⟨by decide, ?_, ?_⟩
      · refine List.pairwise_map.2 ?_
        have hsub : (sourceNames d.tree x).Sublist (d.tree.namesIn (x ++ ["R"])) :=
          List.filter_sublist.trans List.filter_sublist
        exact ((h.pairwise_namesIn _).sublist hsub).imp fun hab => by
          simpa [List.cons_lt_cons_iff] using hab
      · intro a ha b hb
        obtain ⟨n, -, rfl⟩ := List.mem_map.1 hb
        simp only [List.mem_cons, List.not_mem_nil, or_false] at ha
        rcases ha with rfl | rfl | rfl
        · exact List.cons_lt_cons_iff.2 (.inl (by decide))
        · exact List.cons_lt_cons_iff.2 (.inl (by decide))
        · simp
    refine List.Pairwise.filterMap _ ?_ hparts
    intro a b hab f hf g hg
    obtain ⟨_, -, rfl⟩ := Option.map_eq_some_iff.1 hf
    obtain ⟨_, -, rfl⟩ := Option.map_eq_some_iff.1 hg
    exact hab

/-! ### Where the metadata is read from -/

theorem sourceFiles_eq (h : d.tree.Proper) (hdir : dir ≠ "") (hx : d.position? dir = some x) :
    sourceFiles d (dir.join "R") = (sourceNames d.tree x).map fun n => ["R", n].foldl Path.join dir := by
  have hnames : d.namesIn (dir.join "R") = d.tree.namesIn (x ++ ["R"]) := by
    rw [Disk.namesIn_join h hdir (by decide), hx]
    rfl
  rw [sourceFiles, hnames, sourceNames, ← List.filterMap_eq_map]
  refine Eq.trans ?_ List.filterMap_filter.symm
  refine List.filterMap_congr fun n hn => ?_
  have hname := isName_of_mem_namesIn h (List.mem_filter.1 hn).1
  have hentry := Disk.entry?_below h hdir (r := ["R", n]) (by simp) (by simpa using ⟨by decide, hname⟩)
  rw [hx, Option.bind_some] at hentry
  unfold Disk.isFile
  simp only [List.foldl_cons, List.foldl_nil] at hentry ⊢
  rw [hentry]
  rcases d.tree.entry? (x ++ ["R", n]) with _ | _ | _ <;> rfl

theorem sourceFiles_of_none (h : d.tree.Proper) (hdir : dir ≠ "") (hx : d.position? dir = none) :
    sourceFiles d (dir.join "R") = [] := by
  rw [sourceFiles, Disk.namesIn_join h hdir (by decide), hx]
  rfl

theorem stampOf_eq (h : d.tree.Proper) (hdir : dir ≠ "") (hx : d.position? dir = some x) :
    stampOf d dir = ((parts d.tree x).map fun r => d.tree.entry? (x ++ r)).foldl Stamp.add {} := by
  have hpaths : [dir.join "DESCRIPTION", dir.join "NAMESPACE", dir.join "R"] ++
      sourceFiles d (dir.join "R") = (parts d.tree x).map fun r => r.foldl Path.join dir := by
    rw [sourceFiles_eq h hdir hx, parts, List.map_append, List.map_map]
    rfl
  rw [stampOf, hpaths, List.foldl_map, List.foldl_map]
  refine List.foldl_ext _ _ _ fun s r hr => ?_
  obtain ⟨hne, hn⟩ := isName_of_mem_parts h hr
  rw [Disk.entry?_below h hdir hne hn, hx]
  rfl

theorem stampOf_of_none (h : d.tree.Proper) (hdir : dir ≠ "") (hx : d.position? dir = none) :
    stampOf d dir = {} := by
  have hentry : ∀ n, IsName n → d.entry? (dir.join n) = none := by
    intro n hn
    have hbelow := Disk.entry?_below h hdir (r := [n]) (by simp) (by simpa using hn)
    rwa [hx] at hbelow
  simp only [stampOf, sourceFiles_of_none h hdir hx, List.append_nil, List.foldl_cons, List.foldl_nil]
  rw [hentry _ (by decide), hentry _ (by decide), hentry _ (by decide)]
  rfl

theorem files_stampOf (h : d.tree.Proper) (hdir : dir ≠ "") :
    (stampOf d dir).files = (packageFiles d dir).length := by
  unfold packageFiles
  cases hx : d.position? dir with
  | none =>
    rw [stampOf_of_none h hdir hx]
    rfl
  | some x =>
    rw [stampOf_eq h hdir hx, files_foldl_add, List.filterMap_map, Nat.zero_add, Option.map_some,
      Option.getD_some, filesAt]
    have hsnd : (parts d.tree x).filterMap ((fun e => e.bind Entry.file?) ∘ fun r => d.tree.entry? (x ++ r)) =
        (filesAt d.tree x).map Prod.snd := by
      rw [filesAt, List.map_filterMap]
      refine List.filterMap_congr fun r _ => ?_
      rw [Option.map_map]
      exact Option.map_id'.symm
    rw [hsnd, List.length_map, filesAt]

theorem le_modified_stampOf (h : d.tree.Proper) (hdir : dir ≠ "") (hf : (r, c, m) ∈ packageFiles d dir) :
    m ≤ (stampOf d dir).modified := by
  unfold packageFiles at hf
  cases hx : d.position? dir with
  | none => simp [hx] at hf
  | some x =>
    rw [hx, Option.map_some, Option.getD_some] at hf
    have he := ((mem_filesAt h).1 hf).2
    obtain ⟨r', hr, hr'⟩ := List.mem_filterMap.1 hf
    obtain ⟨_, -, heq⟩ := Option.map_eq_some_iff.1 hr'
    obtain rfl : r' = r := congrArg Prod.fst heq
    rw [stampOf_eq h hdir hx]
    refine ((modified_foldl_add_le_iff _ _).1 (Nat.le_refl _)).2 (.file c m) ?_
    exact List.mem_map.2 ⟨r', hr, he⟩

theorem modified_stampOf_le (h : d.tree.Proper) (hdir : dir ≠ "") (htime : d.tree.Until time) :
    (stampOf d dir).modified ≤ time := by
  cases hx : d.position? dir with
  | none =>
    rw [stampOf_of_none h hdir hx]
    exact Nat.zero_le time
  | some x =>
    rw [stampOf_eq h hdir hx, modified_foldl_add_le_iff]
    refine ⟨Nat.zero_le time, fun e he => ?_⟩
    obtain ⟨r, -, hr⟩ := List.mem_map.1 he
    exact htime _ e hr

/-! ### Equal stamps -/

/-- The files of a package are those of an earlier disk if the stamps are equal and every file that is
not newer than the earlier disk was there. -/
theorem packageFiles_of_stampOf (h₁ : d₁.tree.Proper) (h₂ : d₂.tree.Proper)
    (hcurrent : d₁.current = d₂.current) (hdir : dir ≠ "") (htime : d₁.tree.Until time)
    (hsince : ∀ p c m, d₂.tree.entry? p = some (.file c m) → m ≤ time →
      d₁.tree.entry? p = some (.file c m))
    (hstamp : stampOf d₁ dir = stampOf d₂ dir) : packageFiles d₂ dir = packageFiles d₁ dir := by
  have hlength : (packageFiles d₁ dir).length = (packageFiles d₂ dir).length := by
    rw [← files_stampOf h₁ hdir, hstamp, files_stampOf h₂ hdir]
  have hsubset : packageFiles d₂ dir ⊆ packageFiles d₁ dir := by
    rintro ⟨r, c, m⟩ hf
    obtain ⟨hr, x, hx, he⟩ := (mem_packageFiles h₂).1 hf
    -- the file is not newer than the earlier stamp, so it was there
    have hm : m ≤ time := by
      refine Nat.le_trans (le_modified_stampOf h₂ hdir hf) ?_
      rw [← hstamp]
      exact modified_stampOf_le h₁ hdir htime
    have hold := hsince _ c m he hm
    refine (mem_packageFiles h₁).2 ⟨hr, x, ?_, hold⟩
    cases hx₁ : d₁.position? dir with
    | some y => rw [Disk.position?_unique hcurrent hx₁ hx]
    | none =>
      -- the earlier stamp counted no file
      have hnil : packageFiles d₁ dir = [] := by
        rw [packageFiles, hx₁]
        rfl
      rw [hnil, List.length_nil] at hlength
      rw [List.length_eq_zero_iff.1 hlength.symm] at hf
      cases hf
  have hsorted₁ := pairwise_packageFiles h₁ dir
  have hsorted₂ := pairwise_packageFiles h₂ dir
  have hnodup : (packageFiles d₂ dir).Nodup := by
    refine List.Pairwise.imp ?_ hsorted₂
    rintro f g hlt rfl
    exact lt_irrefl _ hlt
  have hperm := (List.subperm_of_subset hnodup hsubset).perm_of_length_le (Nat.le_of_eq hlength)
  exact hperm.eq_of_pairwise (fun f g _ _ hfg hgf => absurd hfg (lt_asymm hgf)) hsorted₂ hsorted₁

/-! ### Reading the metadata -/

theorem read?_eq_some_iff (h : d.tree.Proper) (hdir : dir ≠ "") (hn : IsName n) (hr : IsPart [n])
    {text : Text} : d.read? (dir.join n) = some text ↔
      ∃ c m, ([n], c, m) ∈ packageFiles d dir ∧ c.text? = some text := by
  have hentry := Disk.entry?_below h hdir (r := [n]) (by simp) (by simpa using hn)
  rw [List.foldl_cons, List.foldl_nil] at hentry
  unfold Disk.read?
  rw [hentry]
  simp only [mem_packageFiles h, hr, true_and]
  cases d.position? dir with
  | none => simp
  | some x =>
    rw [Option.bind_some]
    rcases he : d.tree.entry? (x ++ [n]) with _ | ⟨c, m⟩ | m <;> simp [he]

/-- The texts of the source files, from the files of the package. -/
theorem filterMap_read?_sourceFiles (h : d.tree.Proper) (hdir : dir ≠ "") :
    (sourceFiles d (dir.join "R")).filterMap d.read? =
      (packageFiles d dir).filterMap fun f => if f.1.length = 2 then f.2.1.text? else none := by
  unfold packageFiles
  cases hx : d.position? dir with
  | none =>
    rw [sourceFiles_of_none h hdir hx]
    rfl
  | some x =>
    rw [sourceFiles_eq h hdir hx, Option.map_some, Option.getD_some, filesAt, List.filterMap_filterMap,
      parts, List.filterMap_append, List.filterMap_map, List.filterMap_map]
    have hfirst : [["DESCRIPTION"], ["NAMESPACE"], ["R"]].filterMap (fun r =>
        (((d.tree.entry? (x ++ r)).bind Entry.file?).map fun f => (r, f)).bind
          fun f : List String × Content × Nat => if f.1.length = 2 then f.2.1.text? else none) = [] := by
      refine List.filterMap_eq_nil_iff.2 fun r hr => ?_
      have hlen : r.length ≠ 2 := by
        simp only [List.mem_cons, List.not_mem_nil, or_false] at hr
        rcases hr with rfl | rfl | rfl <;> decide
      cases (d.tree.entry? (x ++ r)).bind Entry.file? <;> simp [hlen]
    rw [hfirst, List.nil_append]
    refine List.filterMap_congr fun n hn => ?_
    have hname := isName_of_mem_namesIn h (List.mem_filter.1 (List.mem_filter.1 hn).1).1
    have hentry := Disk.entry?_below h hdir (r := ["R", n]) (by simp) (by simpa using ⟨by decide, hname⟩)
    rw [hx, Option.bind_some] at hentry
    simp only [Function.comp, Disk.read?, hentry]
    rcases d.tree.entry? (x ++ ["R", n]) with _ | ⟨c, m⟩ | m <;> simp [Entry.file?]

/-- The metadata depends on nothing but the files of the package. -/
theorem load_congr [Matcher] (h₁ : d₁.tree.Proper) (h₂ : d₂.tree.Proper) (hdir₁ : dir₁ ≠ "") (hdir₂ : dir₂ ≠ "")
    (hfiles : packageFiles d₁ dir₁ = packageFiles d₂ dir₂) (name : String) :
    load d₁ name dir₁ = load d₂ name dir₂ := by
  have hread : ∀ n, IsName n → IsPart [n] → d₁.read? (dir₁.join n) = d₂.read? (dir₂.join n) := by
    intro n hn hr
    refine Option.ext fun text => ?_
    rw [read?_eq_some_iff h₁ hdir₁ hn hr, read?_eq_some_iff h₂ hdir₂ hn hr, hfiles]
  have hsources : definedFunctions d₁ name dir₁ = definedFunctions d₂ name dir₂ := by
    rw [definedFunctions, definedFunctions, filterMap_read?_sourceFiles h₁ hdir₁,
      filterMap_read?_sourceFiles h₂ hdir₂, hfiles]
  rw [load, load, hread "DESCRIPTION" (by decide) (.inl rfl), hread "NAMESPACE" (by decide) (.inr (.inl rfl)),
    hsources]

end Package

end RSource
