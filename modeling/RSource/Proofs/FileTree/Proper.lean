import Mathlib.Data.List.Induction
import Mathlib.Data.List.Sort
import Mathlib.Data.String.Basic
import RSource.FileTree
import RSource.Proofs.OrderedMap

/-!
# Proper file trees

A file tree is proper when it could be one of a file system: no position comes twice, names are those
that an entry of a directory can have, and every entry stands in a directory. Writing a file where no
directory is, removing, and setting the time of a directory keep a tree proper (`Proper.write`,
`Proper.remove`, `Proper.touch`), and none of them but the writing brings a new file
(`file_of_write`, `entry?_of_remove`, `file_of_touch`).
-/

namespace RSource

/-- An entry of a directory can have the name. -/
def IsName (n : String) : Prop :=
  n ≠ "" ∧ n ≠ "." ∧ n ≠ ".." ∧ '/' ∉ n.toList

instance (n : String) : Decidable (IsName n) :=
  inferInstanceAs (Decidable (_ ∧ _))

def Entry.modified : Entry → Nat
  | .file _ modified | .directory modified => modified

namespace FileTree

variable {t : FileTree} {p q r : Position} {n : String} {e : Entry} {c c' : Content} {m m' time : Nat}

/-! ### Entries after a change -/

theorem entry?_of_ne_nil (h : p ≠ []) : t.entry? p = t.entries.lookup p := by
  unfold entry?
  rw [if_neg (by simpa using h)]

theorem isDirectory_iff : t.isDirectory p = true ↔ ∃ m, t.entry? p = some (.directory m) := by
  unfold isDirectory
  split
  · next h => simp [h]
  · next h =>
    refine ⟨nofun, ?_⟩
    rintro ⟨m, hm⟩
    exact absurd hm (h m)

theorem entry?_set (hp : p ≠ []) (e : Entry) (q : Position) :
    entry? (t.set p e) q = if q = p then some e else t.entry? q := by
  by_cases hq : q = []
  · subst hq
    rw [if_neg (Ne.symm hp)]
    rfl
  · rw [entry?_of_ne_nil hq, entry?_of_ne_nil hq, set]
    by_cases hqp : q = p
    · rw [if_pos hqp, hqp, List.lookup_cons_self]
    · rw [if_neg hqp, lookup_cons_of_ne hqp]
      exact lookup_filter_of_forall fun _ => by simpa using hqp

theorem entry?_remove (t : FileTree) (p q : Position) :
    entry? (t.remove p) q = if q ≠ [] ∧ p <+: q then none else t.entry? q := by
  by_cases hq : q = []
  · subst hq
    rfl
  · rw [entry?_of_ne_nil hq, entry?_of_ne_nil hq, remove]
    by_cases hpq : p <+: q
    · rw [if_pos ⟨hq, hpq⟩]
      exact lookup_filter_of_forall_not fun _ => by simpa using hpq
    · rw [if_neg (fun h => hpq h.2)]
      refine lookup_filter_of_forall fun _ => ?_
      rw [Bool.not_eq_true', Bool.eq_false_iff, ne_eq, List.isPrefixOf_iff_prefix]
      exact hpq

theorem entry?_touch (t : FileTree) (p : Position) (m : Nat) (q : Position) :
    entry? (t.touch p m) q = t.entry? q ∨
      t.isDirectory q = true ∧ entry? (t.touch p m) q = some (.directory m) := by
  unfold touch
  split
  · exact .inl rfl
  · next h =>
    obtain ⟨hne, hdir⟩ : p ≠ [] ∧ t.isDirectory p = true := by simpa using h
    rw [entry?_set hne]
    by_cases hq : q = p
    · exact .inr ⟨hq ▸ hdir, if_pos hq⟩
    · exact .inl (if_neg hq)

/-! ### Proper trees -/

structure Proper (t : FileTree) : Prop where
  nodup : (t.entries.map Prod.fst).Nodup
  ne_nil : ∀ e ∈ t.entries, e.1 ≠ []
  isName : ∀ e ∈ t.entries, ∀ n ∈ e.1, IsName n
  parent : ∀ e ∈ t.entries, t.isDirectory e.1.dropLast = true

theorem proper_empty : Proper {} :=
  ⟨List.nodup_nil, nofun, nofun, nofun⟩

theorem Proper.mem_entries_iff (h : t.Proper) : (p, e) ∈ t.entries ↔ p ≠ [] ∧ t.entry? p = some e := by
  constructor
  · intro hmem
    have hp := h.ne_nil _ hmem
    rw [entry?_of_ne_nil hp]
    exact ⟨hp, lookup_of_mem h.nodup hmem⟩
  · rintro ⟨hp, he⟩
    rw [entry?_of_ne_nil hp] at he
    exact mem_of_lookup he

/-- All that stands below a position stands in a directory there. -/
theorem Proper.isDirectory_of_append (h : t.Proper) (hr : r ≠ [])
    (he : (t.entry? (p ++ r)).isSome) : t.isDirectory p = true := by
  induction r using List.reverseRecOn with
  | nil => exact absurd rfl hr
  | append_singleton r n ih =>
    obtain ⟨e, he⟩ := Option.isSome_iff_exists.1 he
    have hmem : (p ++ (r ++ [n]), e) ∈ t.entries := h.mem_entries_iff.2 ⟨by simp, he⟩
    have hparent := h.parent _ hmem
    rw [← List.append_assoc, List.dropLast_concat] at hparent
    by_cases hr' : r = []
    · simpa [hr'] using hparent
    · refine ih hr' ?_
      obtain ⟨m, hm⟩ := isDirectory_iff.1 hparent
      rw [hm, Option.isSome_some]

theorem Proper.isDirectory_of_child (h : t.Proper) (hd : t.isDirectory (p ++ [n]) = true) :
    t.isDirectory p = true := by
  obtain ⟨m, hm⟩ := isDirectory_iff.1 hd
  exact h.isDirectory_of_append (List.cons_ne_nil n []) (by rw [hm, Option.isSome_some])

theorem Proper.entry?_append_of_not (h : t.Proper) (hp : ¬t.isDirectory p = true) (hr : r ≠ []) :
    t.entry? (p ++ r) = none := by
  cases he : t.entry? (p ++ r) with
  | none => rfl
  | some e => exact absurd (h.isDirectory_of_append hr (by simp [he])) hp

theorem Proper.set (h : t.Proper) (hp : p ≠ []) (hn : ∀ n ∈ p, IsName n)
    (hparent : t.isDirectory p.dropLast = true)
    (he : (∃ m, e = .directory m) ∨ t.isDirectory p = false) : (t.set p e).Proper := by
  have hmem : ∀ x ∈ (t.set p e).entries, x = (p, e) ∨ x ∈ t.entries ∧ x.1 ≠ p := by
    intro x hx
    rcases List.mem_cons.1 hx with hx | hx
    · exact .inl hx
    · obtain ⟨hx, hne⟩ := List.mem_filter.1 hx
      exact .inr ⟨hx, by simpa using hne⟩
  refine ⟨?_, ?_, ?_, ?_⟩
  · rw [FileTree.set, List.map_cons, List.nodup_cons]
    refine ⟨?_, h.nodup.sublist (List.filter_sublist.map _)⟩
    intro hin
    obtain ⟨x, hx, hxp⟩ := List.mem_map.1 hin
    have hne := (List.mem_filter.1 hx).2
    simp [hxp] at hne
  · intro x hx
    rcases hmem x hx with rfl | ⟨hx, -⟩
    · exact hp
    · exact h.ne_nil x hx
  · intro x hx
    rcases hmem x hx with rfl | ⟨hx, -⟩
    · exact hn
    · exact h.isName x hx
  · intro x hx
    rw [isDirectory_iff, entry?_set hp]
    rcases hmem x hx with rfl | ⟨hx, -⟩
    · have hne : p.dropLast ≠ p := by
        intro heq
        have hlen := congrArg List.length heq
        have hpos := List.length_pos_of_ne_nil hp
        rw [List.length_dropLast] at hlen
        omega
      rw [if_neg hne]
      exact isDirectory_iff.1 hparent
    · have hdir := h.parent x hx
      by_cases hxp : x.1.dropLast = p
      · -- only a directory may take the place of one that is not empty
        rw [if_pos hxp]
        rcases he with ⟨m, rfl⟩ | hnot
        · exact ⟨m, rfl⟩
        · rw [hxp, hnot] at hdir
          cases hdir
      · rw [if_neg hxp]
        exact isDirectory_iff.1 hdir

theorem Proper.remove (h : t.Proper) (p : Position) : (t.remove p).Proper := by
  have hmem : ∀ x ∈ (t.remove p).entries, x ∈ t.entries ∧ ¬p <+: x.1 := by
    intro x hx
    obtain ⟨hx, hp⟩ := List.mem_filter.1 hx
    rw [Bool.not_eq_true', Bool.eq_false_iff, ne_eq, List.isPrefixOf_iff_prefix] at hp
    exact ⟨hx, hp⟩
  refine ⟨h.nodup.sublist (List.filter_sublist.map _), fun x hx => h.ne_nil x (hmem x hx).1,
    fun x hx => h.isName x (hmem x hx).1, fun x hx => ?_⟩
  obtain ⟨hx, hp⟩ := hmem x hx
  rw [isDirectory_iff, entry?_remove, if_neg]
  · exact isDirectory_iff.1 (h.parent x hx)
  · rintro ⟨-, hpre⟩
    exact hp (hpre.trans (List.dropLast_prefix x.1))

theorem Proper.touch (h : t.Proper) (p : Position) (m : Nat) : (t.touch p m).Proper := by
  unfold FileTree.touch
  split
  · exact h
  · next hne =>
    obtain ⟨hp, hdir⟩ : p ≠ [] ∧ t.isDirectory p = true := by simpa using hne
    obtain ⟨m', he⟩ := isDirectory_iff.1 hdir
    have hmem := h.mem_entries_iff.2 ⟨hp, he⟩
    exact h.set hp (h.isName _ hmem) (h.parent _ hmem) (.inl ⟨m, rfl⟩)

/-! ### Making directories and writing -/

/-- The tree with directories at the first `k` positions on the way to `p`. -/
def makeFirst (t : FileTree) (p : Position) (k : Nat) : FileTree :=
  (List.range k).foldl (fun t i =>
    let q := p.take (i + 1)
    if t.isDirectory q then t else t.set q (.directory 0)) t

theorem makeFirst_succ (t : FileTree) (p : Position) (k : Nat) :
    t.makeFirst p (k + 1) =
      if (t.makeFirst p k).isDirectory (p.take (k + 1)) then t.makeFirst p k
      else (t.makeFirst p k).set (p.take (k + 1)) (.directory 0) := by
  rw [makeFirst, List.range_succ, List.foldl_append]
  rfl

theorem take_succ_ne_nil {k : Nat} (hk : k + 1 ≤ p.length) : p.take (k + 1) ≠ [] := by
  intro hnil
  have hlen := congrArg List.length hnil
  rw [List.length_take, List.length_nil] at hlen
  omega

/-- A position is left as it is, or a new directory is there. -/
theorem entry?_makeFirst (t : FileTree) (p : Position) (k : Nat) (hk : k ≤ p.length) (q : Position) :
    entry? (t.makeFirst p k) q = t.entry? q ∨
      q <+: p ∧ entry? (t.makeFirst p k) q = some (.directory 0) := by
  induction k with
  | zero => exact .inl rfl
  | succ k ih =>
    rw [makeFirst_succ]
    split
    · exact ih (by omega)
    · rw [entry?_set (take_succ_ne_nil hk)]
      by_cases hq : q = p.take (k + 1)
      · exact .inr ⟨hq ▸ List.take_prefix _ _, if_pos hq⟩
      · rw [if_neg hq]
        exact ih (by omega)

theorem isDirectory_makeFirst (t : FileTree) (p : Position) (k : Nat) (hk : k ≤ p.length) :
    (t.makeFirst p k).isDirectory (p.take k) = true := by
  cases k with
  | zero => rfl
  | succ k =>
    rw [makeFirst_succ]
    split
    · assumption
    · rw [isDirectory_iff, entry?_set (take_succ_ne_nil hk), if_pos rfl]
      exact ⟨0, rfl⟩

theorem Proper.makeFirst (h : t.Proper) (hn : ∀ n ∈ p, IsName n) (k : Nat) (hk : k ≤ p.length) :
    (t.makeFirst p k).Proper := by
  induction k with
  | zero => exact h
  | succ k ih =>
    rw [makeFirst_succ]
    split
    · exact ih (by omega)
    · refine (ih (by omega)).set (take_succ_ne_nil hk) (fun n hmem => hn n (List.mem_of_mem_take hmem)) ?_
        (.inl ⟨0, rfl⟩)
      have htake : (p.take (k + 1)).dropLast = p.take k := by
        rw [List.dropLast_eq_take, List.length_take, List.take_take]
        congr 1
        omega
      rw [htake]
      exact isDirectory_makeFirst t p k (by omega)

theorem write_eq (t : FileTree) (p : Position) (c : Content) (m : Nat) :
    t.write p c m = (t.makeFirst p.dropLast p.dropLast.length).set p (.file c m) :=
  rfl

structure Admits (t : FileTree) (p : Position) : Prop where
  ne_nil : p ≠ []
  isName : ∀ n ∈ p, IsName n
  isDirectory : t.isDirectory p = false

/-- The new file is there, directories may have been made on the way to it, and all else is as it
was. -/
theorem entry?_write (hp : p ≠ []) (c : Content) (m : Nat) (q : Position) :
    (q = p ∧ entry? (t.write p c m) q = some (.file c m)) ∨
      (q ≠ p ∧ entry? (t.write p c m) q = some (.directory 0)) ∨
      entry? (t.write p c m) q = t.entry? q := by
  rw [write_eq, entry?_set hp]
  by_cases hq : q = p
  · exact .inl ⟨hq, if_pos hq⟩
  · rw [if_neg hq]
    rcases entry?_makeFirst t p.dropLast _ (Nat.le_refl _) q with h | ⟨-, h⟩
    · exact .inr (.inr h)
    · exact .inr (.inl ⟨hq, h⟩)

theorem Proper.write (h : t.Proper) (hp : t.Admits p) (c : Content) (m : Nat) :
    (t.write p c m).Proper := by
  have hnames : ∀ n ∈ p.dropLast, IsName n := fun n hn =>
    hp.isName n ((List.dropLast_sublist p).subset hn)
  have hparent := isDirectory_makeFirst t p.dropLast _ (Nat.le_refl _)
  rw [List.take_length] at hparent
  refine (h.makeFirst hnames _ (Nat.le_refl _)).set hp.ne_nil hp.isName hparent (.inr ?_)
  rw [← hp.isDirectory, FileTree.isDirectory, FileTree.isDirectory]
  rcases entry?_makeFirst t p.dropLast _ (Nat.le_refl _) p with heq | ⟨hpre, -⟩
  · rw [heq]
  · -- no position stands before itself
    have hlen := hpre.length_le
    have hpos := List.length_pos_of_ne_nil hp.ne_nil
    rw [List.length_dropLast] at hlen
    omega

/-! ### Files after a change -/

theorem file_of_write (hp : p ≠ []) (h : entry? (t.write p c m) q = some (.file c' m')) :
    (q = p ∧ c' = c ∧ m' = m) ∨ t.entry? q = some (.file c' m') := by
  rcases entry?_write hp c m q with ⟨hq, he⟩ | ⟨-, he⟩ | he
  · rw [he] at h
    cases h
    exact .inl ⟨hq, rfl, rfl⟩
  · rw [he] at h
    cases h
  · exact .inr (he ▸ h)

theorem entry?_of_remove (h : entry? (t.remove p) q = some e) : t.entry? q = some e := by
  rw [entry?_remove] at h
  split at h
  · cases h
  · exact h

theorem file_of_touch (h : entry? (t.touch p m) q = some (.file c m')) :
    t.entry? q = some (.file c m') := by
  rcases entry?_touch t p m q with he | ⟨-, he⟩
  · exact he ▸ h
  · rw [he] at h
    cases h

/-! ### Times -/

def Until (t : FileTree) (now : Nat) : Prop :=
  ∀ p e, t.entry? p = some e → e.modified ≤ now

def latest (t : FileTree) : Nat :=
  t.entries.foldr (fun e time => max e.2.modified time) 0

theorem until_latest (t : FileTree) : t.Until t.latest := by
  intro p e he
  by_cases hp : p = []
  · subst hp
    cases he
    exact Nat.zero_le _
  · rw [entry?_of_ne_nil hp] at he
    have hmem := mem_of_lookup he
    unfold latest
    generalize t.entries = es at hmem
    induction es with
    | nil => cases hmem
    | cons x xs ih =>
      rw [List.foldr_cons]
      rcases List.mem_cons.1 hmem with rfl | hmem
      · exact Nat.le_max_left _ _
      · exact Nat.le_trans (ih hmem) (Nat.le_max_right _ _)

theorem Until.write (h : t.Until time) (hle : time ≤ m) (hp : p ≠ []) (c : Content) :
    (t.write p c m).Until m := by
  intro q e he
  rcases entry?_write hp c m q with ⟨-, hq⟩ | ⟨-, hq⟩ | hq
  · rw [hq] at he
    cases he
    exact Nat.le_refl m
  · rw [hq] at he
    cases he
    exact Nat.zero_le m
  · exact Nat.le_trans (h q e (hq ▸ he)) hle

theorem Until.remove (h : t.Until time) (p : Position) : (t.remove p).Until time :=
  fun q e he => h q e (entry?_of_remove he)

theorem Until.touch (h : t.Until time) (p : Position) (m : Nat) : (t.touch p m).Until (max time m) := by
  intro q e he
  rcases entry?_touch t p m q with hq | ⟨-, hq⟩
  · exact Nat.le_trans (h q e (hq ▸ he)) (Nat.le_max_left _ _)
  · rw [hq] at he
    cases he
    exact Nat.le_max_right _ _

/-! ### The names in a directory -/

theorem Proper.mem_namesIn (h : t.Proper) : n ∈ t.namesIn p ↔ (t.entry? (p ++ [n])).isSome := by
  rw [namesIn, (List.mergeSort_perm _ _).mem_iff, List.mem_filterMap, Option.isSome_iff_exists]
  constructor
  · rintro ⟨x, hx, hn⟩
    unfold nameIn? at hn
    split at hn
    · next hp =>
      have hxp : x.1 = p ++ [n] := by
        rw [← hp]
        exact (List.dropLast_append_getLast? n hn).symm
      exact ⟨x.2, (h.mem_entries_iff.1 (hxp ▸ hx)).2⟩
    · cases hn
  · rintro ⟨e, he⟩
    exact ⟨(p ++ [n], e), h.mem_entries_iff.2 ⟨by simp, he⟩, by simp [nameIn?]⟩

/-- The names come in their order, and none comes twice. -/
theorem Proper.pairwise_namesIn (h : t.Proper) (p : Position) : (t.namesIn p).Pairwise (· < ·) := by
  have hsorted : (t.namesIn p).Pairwise (fun a b => decide (a ≤ b) = true) := by
    refine List.pairwise_mergeSort ?_ ?_ _
    · intro a b c hab hbc
      simp only [decide_eq_true_eq] at *
      exact le_trans hab hbc
    · intro a b
      simpa using le_total a b
  have hnodup : (t.namesIn p).Nodup := by
    refine (List.mergeSort_perm _ _).nodup_iff.2 ?_
    refine List.Pairwise.filterMap _ ?_ (List.pairwise_map.1 h.nodup)
    intro x y hne a ha b hb hab
    unfold nameIn? at ha hb
    split at ha
    · next hx =>
      split at hb
      · next hy =>
        refine hne ?_
        rw [← List.dropLast_append_getLast? a ha, ← List.dropLast_append_getLast? b hb, hx, hy, hab]
      · cases hb
    · cases ha
  exact (hsorted.and hnodup).imp fun hab => lt_of_le_of_ne (by simpa using hab.1) hab.2

end FileTree

end RSource
