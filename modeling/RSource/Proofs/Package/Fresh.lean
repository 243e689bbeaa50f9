import RSource.Proofs.Package.Rescan

/-!
# What a new index answers

The packages of a new index after its first scan and the functions of a package come out of folds over
ordered maps with different rules: the first directory of a package's name wins, the last definition of a
function's name wins. Here both are said as lists, `installed` and `definitionsIn`, and a lookup of a
name without a package is a walk over the one that takes at most one signature out of the other
(`lookup_scan_new`).
-/

namespace RSource

/-- The entries without those whose name has come before. -/
def firsts {α : Type} : List (String × α) → List (String × α)
  | [] => []
  | e :: es => e :: (firsts es).filter fun e' => e'.1 ≠ e.1

namespace OrderedMap

variable {α β : Type}

theorem insertEntry_of_not_mem {name : String} {es : List (String × α)}
    (h : ∀ e ∈ es, e.1 ≠ name) (a : α) : insertEntry name a es = es ++ [(name, a)] := by
  induction es with
  | nil => rfl
  | cons e es ih =>
    obtain ⟨he, hes⟩ := List.forall_mem_cons.1 h
    rw [insertEntry, if_neg (by simpa using he), ih hes, List.cons_append]

theorem contains_iff {m : OrderedMap α} {name : String} :
    m.contains name = true ↔ ∃ e ∈ m.entries, e.1 = name := by
  simp [contains]

/-- Entries are added while their name is new. -/
theorem entries_foldl_insert_new (es : List (String × α)) (m : OrderedMap α) :
    (es.foldl (fun m (name, a) => if m.contains name then m else m.insert name a) m).entries =
      m.entries ++ (firsts es).filter fun e => !m.contains e.1 := by
  induction es generalizing m with
  | nil => simp [firsts]
  | cons e es ih =>
    obtain ⟨name, a⟩ := e
    rw [List.foldl_cons, ih, firsts]
    by_cases hname : m.contains name = true
    · -- the name is in the map, so that leaving it out of the rest changes nothing
      have hsame : ∀ e ∈ firsts es, (!m.contains e.1) = (!m.contains e.1 && decide (e.1 ≠ name)) := by
        intro e _
        by_cases he : e.1 = name
        · simp [he, hname]
        · simp [he]
      simp only [hname, if_true, Bool.not_true, Bool.false_eq_true, not_false_eq_true,
        List.filter_cons_of_neg, List.filter_filter]
      rw [List.filter_congr hsame]
    · have hnew : ∀ e ∈ m.entries, e.1 ≠ name := by
        intro e he hen
        exact hname (contains_iff.2 ⟨e, he, hen⟩)
      have hentries : (m.insert name a).entries = m.entries ++ [(name, a)] :=
        insertEntry_of_not_mem hnew a
      have hsame : ∀ e ∈ firsts es,
          (!(m.insert name a).contains e.1) = (!m.contains e.1 && decide (e.1 ≠ name)) := by
        intro e _
        rw [contains, hentries, List.any_append, contains]
        by_cases he : e.1 = name
        · simp [he]
        · simp [he, Ne.symm he]
      simp only [hname, Bool.false_eq_true, if_false, hentries, Bool.not_false,
        List.filter_cons_of_pos, List.filter_filter]
      rw [List.filter_congr hsame, List.append_assoc, List.singleton_append]

/-- Of several entries of a name the last one is found. -/
theorem get?_foldl_insert (key : β → String) (value : β → α) (name : String) (bs : List β)
    (m : OrderedMap α) :
    (bs.foldl (fun m b => m.insert (key b) (value b)) m).get? name =
      (((bs.filter fun b => key b == name).getLast?).map value).or (m.get? name) := by
  induction bs generalizing m with
  | nil => rfl
  | cons b bs ih =>
    rw [List.foldl_cons, ih, get?_insert]
    by_cases hb : key b = name
    · rw [List.filter_cons_of_pos (by simpa using hb), List.getLast?_cons, if_pos hb.symm]
      cases (bs.filter fun b => key b == name).getLast? <;> rfl
    · rw [List.filter_cons_of_neg (by simpa using hb), if_neg (Ne.symm hb)]

end OrderedMap

namespace Package

/-! ### The packages -/

/-- The packages in the library directories, with their own directories: the library directories in
order, the names in each in their order, without hidden names and locks. A name comes only at the first
directory that has it. -/
def installed (disk : Disk) (roots : List Path) : List (String × Path) :=
  firsts <| roots.flatMap fun root =>
    ((disk.namesIn root).filter fun name =>
      disk.isDirectory (root.join name) && name.toList.head? != some '.'
        && !"00LOCK".toList.isPrefixOf name.toList).map fun name => (name, root.join name)

/-- The packages in the order in which they are searched: the attached ones that are there, then the
others. -/
def searched (disk : Disk) (roots : List Path) : List (String × Path) :=
  attachedPackages.filterMap (fun name => (installed disk roots).find? fun p => p.1 == name)
    ++ (installed disk roots).filter fun p => p.1 ∉ attachedPackages

theorem entries_discover (disk : Disk) (roots : List Path) :
    (Index.discover disk roots).entries = installed disk roots := by
  have hroot : ∀ root ∈ roots, Index.packagesIn disk root =
      ((disk.namesIn root).filter fun name =>
        disk.isDirectory (root.join name) && name.toList.head? != some '.'
          && !"00LOCK".toList.isPrefixOf name.toList).map fun name => (name, root.join name) := by
    intro root _
    rw [← List.filterMap_eq_map, List.filterMap_filter]
    refine List.filterMap_congr fun name _ => ?_
    have hcond : (disk.isDirectory (root.join name) && !Index.isHidden name) =
        (disk.isDirectory (root.join name) && name.toList.head? != some '.'
          && !"00LOCK".toList.isPrefixOf name.toList) := by
      rw [Index.isHidden, Bool.not_or, Bool.and_assoc, bne]
    dsimp only
    rw [hcond]
    rfl
  have hall : roots.flatMap (Index.packagesIn disk) = _ := List.flatMap_congr hroot
  rw [Index.discover, OrderedMap.entries_foldl_insert_new, hall, installed]
  simp [OrderedMap.empty, OrderedMap.contains]

theorem get?_discover (disk : Disk) (roots : List Path) (name : String) :
    (Index.discover disk roots).get? name =
      ((installed disk roots).find? fun p => p.1 == name).map Prod.snd := by
  rw [OrderedMap.get?, entries_discover]
  induction installed disk roots with
  | nil => rfl
  | cons p ps ih =>
    rw [List.lookup_cons, List.find?_cons, ih, BEq.comm]
    cases p.1 == name <;> rfl

/-- A walk over the names in search order is one over the packages in search order. -/
theorem filterMap_searchOrder {μ : Type} {i : Index μ} {disk : Disk} {roots : List Path}
    (hi : i.packages = Index.discover disk roots) (g : String → Path → Option Signature) :
    i.searchOrder.filterMap (fun name => (i.packages.get? name).bind (g name)) =
      (searched disk roots).filterMap fun p => g p.1 p.2 := by
  rw [Index.searchOrder, searched, List.filterMap_append, List.filterMap_append, hi]
  congr 1
  · rw [List.filterMap_filter, List.filterMap_filterMap]
    refine List.filterMap_congr fun name _ => ?_
    rw [OrderedMap.contains_eq_isSome, get?_discover]
    cases hfind : (installed disk roots).find? fun p => p.1 == name with
    | none => rfl
    | some p =>
      have hname : p.1 = name := by simpa using List.find?_some hfind
      simp [hname]
  · rw [OrderedMap.names, entries_discover, List.filter_map, List.filterMap_map]
    have hfilter : (installed disk roots).filter ((fun name => !attachedPackages.contains name) ∘ Prod.fst) =
        (installed disk roots).filter fun p => p.1 ∉ attachedPackages := by
      refine List.filter_congr fun p _ => ?_
      simp
    rw [hfilter]
    refine List.filterMap_congr fun p hp => ?_
    have hmem : p ∈ (Index.discover disk roots).entries := by
      rw [entries_discover]
      exact (List.mem_filter.1 hp).1
    have hget : (Index.discover disk roots).get? p.1 = some p.2 :=
      lookup_of_mem (Index.discover_spec disk roots).1 hmem
    simp [hget]

/-! ### The functions of a package -/

/-- The definitions of a function at the top level of the source files of a package, in the order of the
files' names. Files that hold no text are left out. -/
def definitionsIn (disk : Disk) (dir : Path) (f : String) : List Signature :=
  let names := (disk.namesIn (dir.join "R")).filter fun name =>
    Path.fileExtension? name = some "R" ∨ Path.fileExtension? name = some "r"
  let sources := names.filterMap fun name => disk.read? ((dir.join "R").join name)
  (sources.flatMap Signature.extract).filter fun s => s.name == f

/-- The package exports the name, if it defines it: the directives of its namespace file name it, or a
pattern among them that can be read matches it; without such a file, it starts with no dot. -/
def exportsIn [Matcher] (disk : Disk) (dir : Path) (f : String) : Bool :=
  match (disk.read? (dir.join "NAMESPACE")).map Namespace.parse with
  | some ns => ns.exports.contains f || ns.methods.contains f
    || ns.patterns.any fun p => (Matcher.read? p.toList).any fun isMatch => isMatch f.toList
  | none => f.toList.head? != some '.'

/-- What a package answers: its last definition of the function, if it exports it. -/
def answerIn [Matcher] (disk : Disk) (f : String) (package : String) (dir : Path) : Option Signature :=
  if exportsIn disk dir f then
    (definitionsIn disk dir f).getLast?.map fun s => s.inPackage package
  else none

theorem filterMap_read?_sources (disk : Disk) (dir : Path) :
    (sourceFiles disk dir).filterMap disk.read? =
      ((disk.namesIn dir).filter Path.isSourceName).filterMap fun name => disk.read? (dir.join name) := by
  rw [sourceFiles, List.filterMap_filterMap]
  refine List.filterMap_congr fun name _ => ?_
  rcases hentry : disk.entry? (dir.join name) with _ | ⟨content, modified⟩ | modified <;>
    simp [Disk.isFile, Disk.read?, hentry]

theorem get?_definedFunctions (disk : Disk) (package : String) (dir : Path) (f : String) :
    (definedFunctions disk package dir).get? f =
      (definitionsIn disk dir f).getLast?.map fun s => s.inPackage package := by
  have hnames : (disk.namesIn (dir.join "R")).filter Path.isSourceName =
      (disk.namesIn (dir.join "R")).filter fun name =>
        Path.fileExtension? name = some "R" ∨ Path.fileExtension? name = some "r" := by
    refine List.filter_congr fun name _ => ?_
    rw [Path.isSourceName, Bool.eq_iff_iff]
    simp
  rw [definedFunctions, OrderedMap.get?_foldl_insert, filterMap_read?_sources, hnames]
  exact Option.or_none

/-- A defined function is among the exports when the namespace, or the lack of one, says so. -/
theorem contains_resolveExports [Matcher] {disk : Disk} {dir : Path} {f : String} {functions : List String}
    (hf : f ∈ functions) :
    (resolveExports ((disk.read? (dir.join "NAMESPACE")).map Namespace.parse) functions).contains f =
      exportsIn disk dir f := by
  unfold exportsIn resolveExports
  cases (disk.read? (dir.join "NAMESPACE")).map Namespace.parse with
  | none =>
    rw [Bool.eq_iff_iff]
    simp [hf]
  | some ns =>
    have hpatterns : (ns.readPatterns.any fun isMatch => isMatch f.toList) =
        ns.patterns.any fun p => (Matcher.read? p.toList).any fun isMatch => isMatch f.toList := by
      rw [Namespace.readPatterns, List.any_filterMap]
      refine congrArg (fun test => ns.patterns.any test) (funext fun p => ?_)
      cases Matcher.read? p.toList <;> rfl
    dsimp only
    rw [← hpatterns, Bool.eq_iff_iff]
    simp only [Namespace.isExported, List.contains_iff_mem, List.mem_eraseDups, List.mem_append,
      List.mem_filter, hf, true_and, Bool.or_eq_true]
    tauto

theorem exportedSignature?_load [Matcher] (disk : Disk) (f package : String) (dir : Path) :
    (load disk package dir).exportedSignature? f = answerIn disk f package dir := by
  have hget := get?_definedFunctions disk package dir f
  rw [answerIn, ← hget]
  show ((definedFunctions disk package dir).get? f).filter (fun _ => (load disk package dir).isExported f) = _
  cases hdefined : (definedFunctions disk package dir).get? f with
  | none => simp
  | some s =>
    have hmem : f ∈ (definedFunctions disk package dir).names := by
      rw [OrderedMap.mem_names_iff, hdefined]
      rfl
    have hexported : (load disk package dir).isExported f = exportsIn disk dir f :=
      contains_resolveExports hmem
    rw [hexported, Option.filter_some]

/-! ### Names without a package -/

theorem infix_of_find? {pattern t : Text} {n : Nat} (h : Token.find? pattern t = some n) :
    pattern <:+: t := by
  induction t generalizing n with
  | nil =>
    rw [Token.find?] at h
    split at h
    · next hempty =>
      obtain rfl : pattern = [] := List.isEmpty_iff.1 hempty
      exact List.nil_infix
    · cases h
  | cons c t ih =>
    rw [Token.find?] at h
    split at h
    · next hfirst => exact (List.isPrefixOf_iff_prefix.1 hfirst).isInfix
    · obtain ⟨k, hk, -⟩ := Option.map_eq_some_iff.1 h
      exact (ih hk).trans (List.suffix_cons c t).isInfix

theorem qualified?_of_plain {f : String} (hf : ¬ "::".toList <:+: f.toList) :
    Index.qualified? f = none := by
  have hnone : ∀ pattern : Text, "::".toList <:+: pattern → Token.find? pattern f.toList = none := by
    intro pattern hpattern
    rw [Option.eq_none_iff_forall_ne_some]
    intro n hn
    exact hf (hpattern.trans (infix_of_find? hn))
  have hthree := hnone ":::".toList ⟨[], [':'], by decide⟩
  have htwo := hnone "::".toList (List.infix_refl _)
  rw [Index.qualified?, Index.splitOnce?, Index.splitOnce?, hthree, htwo]
  rfl

theorem pairwise_namesIn (disk : Disk) (path : Path) : (disk.namesIn path).Pairwise (· ≤ ·) := by
  unfold Disk.namesIn
  split
  · split
    · exact List.pairwise_mergeSort' (· ≤ ·) _
    · exact .nil
  · exact .nil

/-- A new index, once scanned, answers a lookup of a name without a package with one signature of each
package, in search order, that defines the function and exports it: the last of its definitions, files
being taken in the order of their names. -/
theorem lookup_scan_new {μ : Type} [Matcher] [Memory μ (List Signature)] (disk : Disk) (roots : List Path)
    (memoSize : Nat) (f : String) (hf : ¬ "::".toList <:+: f.toList) :
    (((Index.new roots memoSize : Index μ).scan disk).2.lookup disk f).1 =
        ((searched disk roots).filterMap fun p => answerIn disk f p.1 p.2) ∧
      ∀ path, (disk.namesIn path).Pairwise (· ≤ ·) := by
  refine ⟨?_, pairwise_namesIn disk⟩
  have hpackages : ((Index.new roots memoSize : Index μ).scan disk).2.packages = Index.discover disk roots := by
    rw [Index.packages_scan]
    exact congrArg OrderedMap.mk (List.append_nil _)
  generalize hi : ((Index.new roots memoSize : Index μ).scan disk).2 = i at hpackages
  have hcurrent : i.IsCurrent disk := by
    subst hi
    exact nofun
  have hmemo : Memory.entries i.memo = [] := by
    subst hi
    exact Memory.entries_clear _
  have hplain := qualified?_of_plain hf
  have hpick : Index.signatureIn? f = fun m => m.exportedSignature? f := by
    funext m
    rw [Index.signatureIn?, hplain]
  have horder : i.askedFor f = i.searchOrder := by
    rw [Index.askedFor, hplain]
  calc (i.lookup disk f).1
    _ = (i.search disk f).1 := Index.lookup_of_empty hmemo disk f
    _ = i.searchOrder.filterMap fun package =>
          ((i.packages.get? package).map (load disk package)).bind fun m => m.exportedSignature? f := by
      rw [Index.search_eq, hcurrent.collect_fst, hpick, horder]
    _ = i.searchOrder.filterMap fun package =>
          (i.packages.get? package).bind (answerIn disk f package) := by
      refine List.filterMap_congr fun package _ => ?_
      cases i.packages.get? package with
      | none => rfl
      | some dir => exact exportedSignature?_load disk f package dir
    _ = (searched disk roots).filterMap fun p => answerIn disk f p.1 p.2 :=
      filterMap_searchOrder hpackages (answerIn disk f)

/-- The package `zoo` of the first directory hides that of the second, the last of its definitions counts,
and the attached package `base` comes first although it is found last. -/
theorem lookup_scan_new_shadowed :
    let files : List (Position × String) :=
      [(["a", "zoo", "R", "x.R"], "fit <- function(x) 1; fit <- function(y) 2"),
        (["a", "zoo", "R", "y.r"], "fit = function(z) 3"),
        (["b", "zoo", "R", "z.R"], "fit <- function(w) 4"),
        (["b", "base", "R", "base.R"], "fit <- function(...) 5"),
        (["b", "base", "NAMESPACE"], "exportPattern('^f')"),
        (["b", "mice", "R", "mice.R"], "fit <- function() 6"),
        (["b", "mice", "NAMESPACE"], "export(mice)")]
    let tree := files.foldl (fun t (path, source) => t.write path (.text source.toList) 0) {}
    ¬ "::".toList <:+: "fit".toList ∧
      (((Index.new ["/a", "/b"] 1 : Index).scan ⟨tree, []⟩).2.lookup ⟨tree, []⟩ "fit").1 =
        [⟨"fit", [.of "..."], some "base"⟩, ⟨"fit", [.of "z"], some "zoo"⟩] := by
  intro files tree
  have hplain : ¬ "::".toList <:+: "fit".toList := by decide
  refine ⟨hplain, (lookup_scan_new ⟨tree, []⟩ ["/a", "/b"] 1 "fit" hplain).1.trans ?_⟩
  have hnames : ∀ l : List String, l.mergeSort (fun a b => a ≤ b) = l.insertionSort (· ≤ ·) :=
    fun l => List.mergeSort_eq_insertionSort (· ≤ ·) l
  simp only [searched, installed, answerIn, definitionsIn, Disk.namesIn, FileTree.namesIn, hnames]
  decide +kernel

end Package

end RSource
