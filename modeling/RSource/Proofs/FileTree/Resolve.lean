import RSource.Proofs.FileTree.Proper
import RSource.Proofs.Text.Lines

/-!
# Where paths lead

On a proper tree an entry below a directory stands where the directory's path leads, with the names
added (`entry?_below`, `namesIn_join`). Two spellings of a path lead to the same directories
(`position?_of_same`), and where a path leads does not depend on the tree, as long as it leads
somewhere (`position?_unique`).
-/

namespace RSource

namespace Path

variable {dir p q : Path} {n : String}

theorem pieces_slash (p : Path) (n : String) : pieces (p ++ "/" ++ n) = pieces p ++ pieces n := by
  have hlist : (p ++ "/" ++ n).toList = p.toList ++ '/' :: n.toList := by simp
  rw [pieces, hlist, Text.splitAll_append_cons (by rfl), List.map_append]
  rfl

theorem pieces_of_isName (h : IsName n) : pieces n = [n] := by
  have hslash : ∀ c ∈ n.toList, ¬(c == '/') = true := by
    intro c hc heq
    exact h.2.2.2 (beq_iff_eq.1 heq ▸ hc)
  rw [pieces, Text.splitAll_of_forall_not hslash, List.map_singleton, String.ofList_toList]

/-- The name comes behind the pieces of the directory, in place of an empty last one. -/
theorem pieces_join (hdir : dir ≠ "") (hn : IsName n) :
    ∃ ps, pieces (dir.join n) = ps ++ [n] ∧ (pieces dir = ps ∨ pieces dir = ps ++ [""]) := by
  rw [join, if_neg (by simpa using hdir)]
  split
  · next hlast =>
    obtain ⟨a, rfl⟩ : ∃ a : Path, dir = a ++ "/" := by
      refine ⟨String.ofList dir.toList.dropLast, String.toList_inj.1 ?_⟩
      rw [String.toList_append, String.toList_ofList]
      exact (List.dropLast_append_getLast? '/' hlast).symm
    refine ⟨pieces a, ?_, .inr ?_⟩
    · rw [pieces_slash, pieces_of_isName hn]
    · have hempty := pieces_slash a ""
      rw [String.append_empty] at hempty
      rw [hempty]
      rfl
  · exact ⟨pieces dir, by rw [pieces_slash, pieces_of_isName hn], .inl rfl⟩

theorem join_ne_empty (hn : IsName n) : dir.join n ≠ "" := by
  intro h
  have hlist := congrArg String.toList h
  have hne : n.toList ≠ [] := fun hnil => hn.1 (String.toList_inj.1 hnil)
  unfold join at hlist
  split at hlist
  · exact hne hlist
  · split at hlist <;> simp [hn.1] at hlist

theorem isAbsolute_join (hdir : dir ≠ "") : (dir.join n).isAbsolute = dir.isAbsolute := by
  have hne : dir.toList ≠ [] := fun hnil => hdir (String.toList_inj.1 hnil)
  unfold isAbsolute join
  rw [if_neg (by simpa using hdir)]
  split <;> simp [List.head?_append_of_ne_nil _ hne]

def named (p : Path) : List String :=
  p.pieces.filter fun s => s != "" && s != "."

theorem named_eq_of_same (h : p.same q = true) : p.named = q.named := by
  have hsteps : ∀ p : Path, p.named = p.steps.filter (· != ".") := by
    intro p
    have hdots : p.named.filter (· != ".") = p.named := by
      refine List.filter_eq_self.2 fun s hs => ?_
      exact (Bool.and_eq_true_iff.1 (List.mem_filter.1 hs).2).2
    unfold steps
    dsimp only
    split
    · rw [List.filter_cons_of_neg (by simp)]
      exact hdots.symm
    · exact hdots.symm
  have hsame := beq_iff_eq.1 (Bool.and_eq_true_iff.1 h).2
  rw [hsteps p, hsteps q, hsame]

end Path

namespace Disk

variable {d d₁ d₂ : Disk} {p x y : Position} {path path' dir : Path} {n : String} {r ps : List String}

/-- The position that pieces lead to from a position. -/
def follow (d : Disk) (p : Position) (ps : List String) : Option Position :=
  ps.foldlM d.step p

def origin (d : Disk) (path : Path) : Position :=
  if path.isAbsolute then [] else d.current

theorem position?_eq (h : path ≠ "") : d.position? path = d.follow (d.origin path) path.pieces := by
  rw [position?, if_neg (by simpa using h)]
  rfl

theorem isDirectory_iff :
    d.isDirectory path = true ↔ ∃ x, d.position? path = some x ∧ d.tree.isDirectory x = true := by
  unfold isDirectory entry?
  cases d.position? path with
  | none => simp
  | some x => simp [FileTree.isDirectory]

theorem follow_cons (d : Disk) (p : Position) (s : String) (ps : List String) :
    d.follow p (s :: ps) = (d.step p s).bind fun p => d.follow p ps :=
  List.foldlM_cons ..

theorem follow_append (d : Disk) (p : Position) (ps qs : List String) :
    d.follow p (ps ++ qs) = (d.follow p ps).bind fun p => d.follow p qs :=
  List.foldlM_append ..

theorem step_of_isName (d : Disk) (p : Position) (h : IsName n) : d.step p n = some (p ++ [n]) := by
  rw [step, if_neg (by simp [h.1, h.2.1]), if_neg h.2.2.1]

theorem follow_singleton_of_isName (d : Disk) (p : Position) (h : IsName n) :
    d.follow p [n] = some (p ++ [n]) := by
  rw [follow_cons, step_of_isName d p h]
  rfl

theorem follow_singleton_empty (d : Disk) (p : Position) :
    d.follow p [""] = if d.tree.isDirectory p then some p else none := by
  rw [follow_cons, step, if_pos (.inl rfl)]
  split <;> rfl

/-! ### Below a directory -/

/-- A path with a name added leads on from where the path leads. Only a slash at its end keeps the
path itself from leading to what is no directory. -/
theorem position?_join (d : Disk) (hdir : dir ≠ "") (hn : IsName n) :
    ∃ x? : Option Position, d.position? (dir.join n) = x?.map (· ++ [n]) ∧
      (d.position? dir = x? ∨ d.position? dir = x?.filter d.tree.isDirectory) := by
  obtain ⟨ps, hjoin, hpieces⟩ := Path.pieces_join hdir hn
  have horigin : d.origin (dir.join n) = d.origin dir := by
    rw [origin, Path.isAbsolute_join hdir]
    rfl
  refine ⟨d.follow (d.origin dir) ps, ?_, ?_⟩
  · rw [position?_eq (Path.join_ne_empty hn), hjoin, horigin, follow_append]
    cases d.follow (d.origin dir) ps with
    | none => rfl
    | some x => exact follow_singleton_of_isName d x hn
  · rw [position?_eq hdir]
    rcases hpieces with hpieces | hpieces
    · exact .inl (by rw [hpieces])
    · right
      rw [hpieces, follow_append]
      cases d.follow (d.origin dir) ps with
      | none => rfl
      | some x => simpa [Option.filter] using follow_singleton_empty d x

/-- What is below a directory is found from where its path leads. -/
theorem bind_position?_join {α : Type} (hdir : dir ≠ "") (hn : IsName n) (f : Position → Option α)
    (hf : ∀ x, ¬d.tree.isDirectory x = true → f (x ++ [n]) = none) :
    (d.position? (dir.join n)).bind f = (d.position? dir).bind fun x => f (x ++ [n]) := by
  obtain ⟨x?, hjoin, hx⟩ := position?_join d hdir hn
  rw [hjoin]
  rcases hx with hx | hx
  · rw [hx, Option.bind_map]
    rfl
  · rw [hx]
    cases x? with
    | none => rfl
    | some x =>
      by_cases hd : d.tree.isDirectory x = true
      · simp [Option.filter, hd]
      · simp [Option.filter, hd, hf x hd]

theorem entry?_below (h : d.tree.Proper) (hdir : dir ≠ "") (hr : r ≠ []) (hn : ∀ n ∈ r, IsName n) :
    d.entry? (r.foldl Path.join dir) = (d.position? dir).bind fun x => d.tree.entry? (x ++ r) := by
  -- over the names, with the last path's own position as the last step
  suffices ∀ (r : List String) (dir : Path), dir ≠ "" → r ≠ [] → (∀ n ∈ r, IsName n) →
      (d.position? (r.foldl Path.join dir)).bind d.tree.entry? =
        (d.position? dir).bind fun x => d.tree.entry? (x ++ r) from this r dir hdir hr hn
  intro r
  induction r with
  | nil => exact fun _ _ hr => absurd rfl hr
  | cons n r ih =>
    intro dir hdir _ hn
    rw [List.forall_mem_cons] at hn
    rw [List.foldl_cons]
    by_cases hr : r = []
    · subst hr
      exact bind_position?_join hdir hn.1 _ fun x hx => h.entry?_append_of_not hx (by simp)
    · rw [ih _ (Path.join_ne_empty hn.1) hr hn.2]
      have hnone : ∀ x, ¬d.tree.isDirectory x = true → d.tree.entry? (x ++ [n] ++ r) = none := by
        intro x hx
        rw [List.append_assoc]
        exact h.entry?_append_of_not hx (by simp)
      rw [bind_position?_join hdir hn.1 (fun x => d.tree.entry? (x ++ r)) hnone]
      simp only [List.append_assoc, List.singleton_append]

theorem namesIn_join (h : d.tree.Proper) (hdir : dir ≠ "") (hn : IsName n) :
    d.namesIn (dir.join n) =
      ((d.position? dir).map fun x => d.tree.namesIn (x ++ [n])).getD [] := by
  have hnames : ∀ path, d.namesIn path = ((d.position? path).bind fun x =>
      if d.tree.isDirectory x then some (d.tree.namesIn x) else none).getD [] := by
    intro path
    unfold namesIn
    cases d.position? path with
    | none => rfl
    | some x =>
      rw [Option.bind_some]
      dsimp only
      split <;> rfl
  rw [hnames, bind_position?_join hdir hn]
  · cases d.position? dir with
    | none => rfl
    | some x =>
      rw [Option.bind_some, Option.map_some, Option.getD_some]
      split
      · rfl
      · next hx =>
        -- nothing stands below what is no directory
        refine (List.eq_nil_iff_forall_not_mem.2 fun n hmem => hx ?_).symm
        exact h.isDirectory_of_append (by simp) (h.mem_namesIn.1 hmem)
  · intro x hx
    rw [if_neg fun hbelow => hx (h.isDirectory_of_child hbelow)]

/-! ### Spellings of a path -/

theorem isDirectory_of_follow (h : d.tree.Proper) (hf : d.follow p ps = some x)
    (hx : d.tree.isDirectory x = true) : d.tree.isDirectory p = true := by
  induction ps generalizing p with
  | nil =>
    cases hf
    exact hx
  | cons s ps ih =>
    rw [follow_cons] at hf
    obtain ⟨y, hy, hf⟩ := Option.bind_eq_some_iff.1 hf
    have hdir := ih hf
    unfold step at hy
    split at hy
    · split at hy
      · assumption
      · cases hy
    · split at hy
      · split at hy
        · assumption
        · cases hy
      · cases hy
        exact h.isDirectory_of_child hdir

/-- Only the pieces that name something count on the way to a directory. -/
theorem follow_filter_iff (h : d.tree.Proper) (hx : d.tree.isDirectory x = true) :
    d.follow p (ps.filter fun s => s != "" && s != ".") = some x ↔ d.follow p ps = some x := by
  induction ps generalizing p with
  | nil => rfl
  | cons s ps ih =>
    by_cases hs : s = "" ∨ s = "."
    · rw [List.filter_cons_of_neg (by simpa [or_iff_not_imp_left] using hs), ih, follow_cons, step,
        if_pos hs]
      by_cases hp : d.tree.isDirectory p = true
      · rw [if_pos hp, Option.bind_some]
      · rw [if_neg hp]
        exact ⟨fun hf => absurd (isDirectory_of_follow h hf hx) hp, nofun⟩
    · rw [List.filter_cons_of_pos (by simpa [not_or] using hs), follow_cons, follow_cons]
      cases d.step p s with
      | none => rfl
      | some y => exact ih

/-- Two spellings of a path lead to the same directory. -/
theorem position?_of_same (h : d.tree.Proper) (hsame : path.same path' = true) (hpath : path ≠ "")
    (hpath' : path' ≠ "") (hd : d.isDirectory path' = true) : d.position? path = d.position? path' := by
  obtain ⟨x, hp, hx⟩ := isDirectory_iff.1 hd
  rw [hp]
  have horigin : d.origin path = d.origin path' := by
    rw [origin, origin, beq_iff_eq.1 (Bool.and_eq_true_iff.1 hsame).1]
  rw [position?_eq hpath', ← follow_filter_iff h hx] at hp
  rw [position?_eq hpath, ← follow_filter_iff h hx, horigin, ← hp]
  exact congrArg _ (Path.named_eq_of_same hsame)

/-! ### One path on two trees -/

theorem step_unique {s : String} (h₁ : d₁.step p s = some x) (h₂ : d₂.step p s = some y) : x = y := by
  unfold step at h₁ h₂
  grind

/-- A path leads to one position, whatever the tree. -/
theorem position?_unique (hcurrent : d₁.current = d₂.current) (h₁ : d₁.position? path = some x)
    (h₂ : d₂.position? path = some y) : x = y := by
  have hpath : path ≠ "" := by
    rintro rfl
    cases h₁
  rw [position?_eq hpath] at h₁ h₂
  rw [show d₁.origin path = d₂.origin path by rw [origin, origin, hcurrent]] at h₁
  generalize d₂.origin path = p at h₁ h₂
  generalize path.pieces = ps at h₁ h₂
  induction ps generalizing p with
  | nil =>
    cases h₁
    cases h₂
    rfl
  | cons s ps ih =>
    rw [follow_cons] at h₁ h₂
    obtain ⟨p₁, hs₁, h₁⟩ := Option.bind_eq_some_iff.1 h₁
    obtain ⟨p₂, hs₂, h₂⟩ := Option.bind_eq_some_iff.1 h₂
    obtain rfl := step_unique hs₁ hs₂
    exact ih p₁ h₁ h₂

end Disk

end RSource
