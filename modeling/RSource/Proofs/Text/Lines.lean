import RSource.Text.Trim

/-!
# Pieces and ends of a text

Splitting a text undoes joining its pieces (`splitAll_join`), and a blank at the end of a text is trimmed away
(`trim_cons`, `trim_concat`), but nothing else is (`trim_of_ends`).
-/

namespace RSource.Text

variable {p : Char → Bool} {t : Text} {c : Char}

theorem splitAll_ne_nil (p : Char → Bool) (t : Text) : splitAll p t ≠ [] := by
  cases t with
  | nil => simp [splitAll]
  | cons c cs =>
    rw [splitAll]
    split
    · simp
    · split <;> simp

theorem splitAll_append_cons (hc : p c = true) (a b : Text) :
    splitAll p (a ++ c :: b) = splitAll p a ++ splitAll p b := by
  induction a with
  | nil => simp [splitAll, hc]
  | cons d a ih =>
    rw [List.cons_append, splitAll, splitAll, ih]
    split
    · rfl
    · cases ha : splitAll p a with
      | nil => exact absurd ha (splitAll_ne_nil p a)
      | cons piece pieces => rfl

theorem splitAll_of_forall_not (h : ∀ c ∈ t, ¬p c = true) : splitAll p t = [t] := by
  induction t with
  | nil => rfl
  | cons c cs ih =>
    rw [List.forall_mem_cons] at h
    rw [splitAll, if_neg h.1, ih h.2]

theorem splitAll_join (hc : p c = true) {pieces : List Text} (hne : pieces ≠ [])
    (h : ∀ piece ∈ pieces, ∀ d ∈ piece, ¬p d = true) : splitAll p ([c].intercalate pieces) = pieces := by
  induction pieces with
  | nil => exact absurd rfl hne
  | cons piece pieces ih =>
    have hpiece := splitAll_of_forall_not (h piece List.mem_cons_self)
    cases pieces with
    | nil => rwa [List.intercalate_singleton]
    | cons next pieces =>
      rw [List.intercalate_cons_cons, List.append_assoc, List.singleton_append, splitAll_append_cons hc, hpiece,
        ih (List.cons_ne_nil _ _) fun l hl => h l (List.mem_cons_of_mem _ hl)]
      rfl

/-! ### Trimming -/

theorem trim_cons (hc : isBlank c = true) (t : Text) : trim (c :: t) = trim t := by
  rw [trim, trim, List.dropWhile_cons_of_pos hc]

theorem trim_concat (hc : isBlank c = true) (t : Text) : trim (t ++ [c]) = trim t := by
  unfold trim
  congr 1
  rw [List.dropWhile_append]
  split
  · rename_i hall
    rw [List.isEmpty_iff.1 hall]
    simp [hc]
  · rw [List.reverse_append, List.reverse_singleton, List.singleton_append, List.dropWhile_cons_of_pos hc]

theorem dropWhile_of_head? (h : ∀ c ∈ t.head?, p c = false) : t.dropWhile p = t := by
  cases t with
  | nil => rfl
  | cons c t => exact List.dropWhile_cons_of_neg (by simp [h c rfl])

theorem trim_of_ends (hfirst : ∀ c ∈ t.head?, isBlank c = false) (hlast : ∀ c ∈ t.getLast?, isBlank c = false) :
    trim t = t := by
  have hback : ∀ c ∈ t.reverse.head?, isBlank c = false := by rwa [List.head?_reverse]
  rw [trim, dropWhile_of_head? hfirst, dropWhile_of_head? hback, List.reverse_reverse]

end RSource.Text
