import Mathlib.Data.List.Basic
import RSource.Call.Binding

/-!
# A pass over the arguments

A pass leaves what is bound and binds an argument with the table of bound parameters as the arguments
before it have left it (`getElem?_pass`). The table lists every binding once (`Tracks`), so what an
argument sees of the table is what the other arguments are bound to at that moment (`Tracks.mem_take`).
The pass by position hands out the free parameters in order (`getElem?_pass_byPosition`).
-/

namespace RSource.Call

variable {s : Signature} {choose : List Nat → Argument → Option Binding} {filled : List Nat}
  {xs : List (Argument × Option Binding)} {a : Argument} {b : Binding} {i j p : Nat}

/-! ### One pass -/

def boundTo (p : Nat) (x : Argument × Option Binding) : Bool :=
  x.2 == some (.parameter p)

theorem boundTo_iff {x : Argument × Option Binding} :
    boundTo p x = true ↔ x.2 = some (.parameter p) :=
  beq_iff_eq

theorem pass_bound (a : Argument) (b : Binding) (xs : List (Argument × Option Binding)) :
    pass choose filled ((a, some b) :: xs) =
      ((a, some b) :: (pass choose filled xs).1, (pass choose filled xs).2) :=
  rfl

theorem pass_left (h : choose filled a = none) (xs : List (Argument × Option Binding)) :
    pass choose filled ((a, none) :: xs) =
      ((a, none) :: (pass choose filled xs).1, (pass choose filled xs).2) := by
  rw [pass, h]

theorem pass_chosen (h : choose filled a = some b) (xs : List (Argument × Option Binding)) :
    pass choose filled ((a, none) :: xs) =
      ((a, some b) :: (pass choose (fill filled b) xs).1, (pass choose (fill filled b) xs).2) := by
  rw [pass, h]

/-- A pass leaves what is bound, and what it binds is chosen with the table left by the arguments
before. -/
theorem getElem?_pass (choose : List Nat → Argument → Option Binding) (filled : List Nat)
    (xs : List (Argument × Option Binding)) (i : Nat) :
    (pass choose filled xs).1[i]? = xs[i]?.map fun x =>
      (x.1, x.2.or (choose (pass choose filled (xs.take i)).2 x.1)) := by
  induction xs generalizing filled i with
  | nil => simp [pass]
  | cons x xs ih =>
    obtain ⟨a, _ | b⟩ := x
    · cases hc : choose filled a with
      | none =>
        rw [pass_left hc]
        cases i with
        | zero => simp [pass, hc]
        | succ i => simp [pass_left hc, ih]
      | some b =>
        rw [pass_chosen hc]
        cases i with
        | zero => simp [pass, hc]
        | succ i => simp [pass_chosen hc, ih]
    · rw [pass_bound]
      cases i with
      | zero => simp
      | succ i => simp [pass_bound, ih]

theorem take_pass (choose : List Nat → Argument → Option Binding) (filled : List Nat)
    (xs : List (Argument × Option Binding)) (i : Nat) :
    (pass choose filled xs).1.take i = (pass choose filled (xs.take i)).1 := by
  refine List.ext_getElem? fun j => ?_
  rw [List.getElem?_take, getElem?_pass, getElem?_pass, List.getElem?_take]
  split
  · rename_i hj
    rw [List.take_take, Nat.min_eq_left (Nat.le_of_lt hj)]
  · rfl

theorem count_fill (filled : List Nat) (b : Binding) (p : Nat) :
    (fill filled b).count p = filled.count p + if b = .parameter p then 1 else 0 := by
  cases b with
  | parameter q => simp [fill, List.count_cons]
  | unmatched | ambiguous => simp [fill]

/-- Every new binding comes into the table once. -/
theorem count_pass (choose : List Nat → Argument → Option Binding) (filled : List Nat)
    (xs : List (Argument × Option Binding)) (p : Nat) :
    (pass choose filled xs).2.count p + xs.countP (boundTo p) =
      filled.count p + (pass choose filled xs).1.countP (boundTo p) := by
  induction xs generalizing filled with
  | nil => rfl
  | cons x xs ih =>
    obtain ⟨a, _ | b⟩ := x
    · cases hc : choose filled a with
      | none =>
        rw [pass_left hc]
        simp only [List.countP_cons, boundTo]
        have := ih filled
        omega
      | some b =>
        have := ih (fill filled b)
        rw [pass_chosen hc]
        rw [count_fill] at this
        simp only [List.countP_cons, boundTo_iff, reduceCtorEq, if_false, Option.some.injEq] at this ⊢
        omega
    · rw [pass_bound]
      simp only [List.countP_cons]
      have := ih filled
      omega

def Tracks (filled : List Nat) (xs : List (Argument × Option Binding)) : Prop :=
  ∀ p, filled.count p = xs.countP (boundTo p)

theorem Tracks.pass (h : Tracks filled xs) (choose : List Nat → Argument → Option Binding) :
    Tracks (pass choose filled xs).2 (pass choose filled xs).1 := by
  intro p
  have := count_pass choose filled xs p
  rw [h p] at this
  omega

theorem Tracks.mem_iff (h : Tracks filled xs) :
    p ∈ filled ↔ ∃ (i : Nat) (x : Argument × Option Binding), xs[i]? = some x ∧ boundTo p x = true := by
  rw [← List.count_pos_iff, h p, List.countP_pos_iff]
  constructor
  · rintro ⟨x, hx, hp⟩
    obtain ⟨i, hi⟩ := List.mem_iff_getElem?.1 hx
    exact ⟨i, x, hi, hp⟩
  · rintro ⟨i, x, hi, hp⟩
    exact ⟨x, List.mem_of_getElem? hi, hp⟩

/-- What an argument sees in the table is what the arguments before it are bound to after the pass, and
those behind it before the pass. -/
theorem Tracks.mem_take (h : Tracks filled xs) (choose : List Nat → Argument → Option Binding) (i p : Nat) :
    p ∈ (Call.pass choose filled (xs.take i)).2 ↔
      (∃ j < i, ∃ x, (Call.pass choose filled xs).1[j]? = some x ∧ boundTo p x = true) ∨
        ∃ j ≥ i, ∃ x, xs[j]? = some x ∧ boundTo p x = true := by
  have hcount := count_pass choose filled (xs.take i) p
  have hsplit := congrArg (List.countP (boundTo p)) (List.take_append_drop i xs)
  rw [List.countP_append] at hsplit
  rw [h p, ← take_pass] at hcount
  have hpos : 0 < (Call.pass choose filled (xs.take i)).2.count p ↔
      0 < ((Call.pass choose filled xs).1.take i).countP (boundTo p) ∨
        0 < (xs.drop i).countP (boundTo p) := by omega
  rw [← List.count_pos_iff, hpos, List.countP_pos_iff, List.countP_pos_iff]
  refine or_congr ?_ ?_
  · constructor
    · rintro ⟨x, hx, hp⟩
      obtain ⟨j, hj⟩ := List.mem_iff_getElem?.1 hx
      rw [List.getElem?_take] at hj
      split at hj
      · exact ⟨j, ‹_›, x, hj, hp⟩
      · cases hj
    · rintro ⟨j, hj, x, hx, hp⟩
      exact ⟨x, List.mem_iff_getElem?.2 ⟨j, by rw [List.getElem?_take, if_pos hj, hx]⟩, hp⟩
  · constructor
    · rintro ⟨x, hx, hp⟩
      obtain ⟨j, hj⟩ := List.mem_iff_getElem?.1 hx
      rw [List.getElem?_drop] at hj
      exact ⟨i + j, Nat.le_add_right .., x, hj, hp⟩
    · rintro ⟨j, hj, x, hx, hp⟩
      obtain ⟨d, rfl⟩ := Nat.exists_eq_add_of_le hj
      exact ⟨x, List.mem_iff_getElem?.2 ⟨d, by rw [List.getElem?_drop, hx]⟩, hp⟩

/-- A parameter to which a pass binds only while it is not in the table stays in it at most once. -/
theorem count_pass_le_one (hfresh : ∀ filled a, choose filled a = some (.parameter p) → p ∉ filled)
    (h : filled.count p ≤ 1) : (pass choose filled xs).2.count p ≤ 1 := by
  induction xs generalizing filled with
  | nil => exact h
  | cons x xs ih =>
    obtain ⟨a, _ | b⟩ := x
    · cases hc : choose filled a with
      | none =>
        rw [pass_left hc]
        exact ih h
      | some b =>
        rw [pass_chosen hc]
        refine ih ?_
        rw [count_fill]
        split
        · rename_i hb
          have hzero := List.count_eq_zero_of_not_mem (hfresh filled a (hb ▸ hc))
          omega
        · exact h
    · exact ih h

/-- What a pass puts into the table it has chosen. -/
theorem forall_mem_pass {P : Nat → Prop}
    (hchoose : ∀ filled a p, choose filled a = some (.parameter p) → P p) (h : ∀ p ∈ filled, P p) :
    ∀ p ∈ (pass choose filled xs).2, P p := by
  induction xs generalizing filled with
  | nil => exact h
  | cons x xs ih =>
    obtain ⟨a, _ | b⟩ := x
    · cases hc : choose filled a with
      | none =>
        rw [pass_left hc]
        exact ih h
      | some b =>
        rw [pass_chosen hc]
        refine ih ?_
        cases b with
        | parameter p => exact List.forall_mem_cons.2 ⟨hchoose filled a p hc, h⟩
        | unmatched | ambiguous => exact h
    · exact ih h

theorem map_fst_pass (choose : List Nat → Argument → Option Binding) (filled : List Nat)
    (xs : List (Argument × Option Binding)) :
    (pass choose filled xs).1.map Prod.fst = xs.map Prod.fst := by
  refine List.ext_getElem? fun i => ?_
  rw [List.getElem?_map, List.getElem?_map, getElem?_pass, Option.map_map]
  rfl

theorem pass_none (filled : List Nat) (xs : List (Argument × Option Binding)) :
    pass (fun _ _ => none) filled xs = (xs, filled) := by
  induction xs with
  | nil => rfl
  | cons x xs ih =>
    obtain ⟨a, _ | b⟩ := x
    · rw [pass_left rfl, ih]
    · rw [pass_bound, ih]

/-! ### What each pass chooses -/

/-- The first parameter that the argument names and that is not variadic. -/
def namedIndex? (s : Signature) (a : Argument) : Option Nat :=
  a.name?.bind fun name => s.parameters.findIdx? fun q => !q.isVariadic && q.name == name

/-- Where an argument goes that finds no parameter of its own. -/
def surplus (s : Signature) : Binding :=
  (s.variadicIndex?.map .parameter).getD .unmatched

/-- The second pass, which is left out unless beginnings are allowed. -/
def byBeginningIf (s : Signature) (allowBeginnings : Bool) (filled : List Nat) (a : Argument) :
    Option Binding :=
  if allowBeginnings then byBeginning s filled a else none

/-- The parameters that can be bound by position and are not in the table. -/
def free (s : Signature) (filled : List Nat) : List Nat :=
  (List.range (positionalLimit s)).filter fun p => !filled.contains p

theorem byName_eq (s : Signature) (filled : List Nat) (a : Argument) :
    byName s filled a = (namedIndex? s a).map fun k =>
      if filled.contains k then .unmatched else .parameter k := by
  unfold byName namedIndex?
  cases a.name? <;> rfl

theorem name_of_namedIndex? {k : Nat} (h : namedIndex? s a = some k) :
    ∃ q, s.parameters[k]? = some q ∧ a.name? = some q.name := by
  obtain ⟨name, hname, hk⟩ := Option.bind_eq_some_iff.1 h
  obtain ⟨hlt, hq, -⟩ := List.findIdx?_eq_some_iff_getElem.1 hk
  rw [Bool.and_eq_true, beq_iff_eq] at hq
  exact ⟨_, List.getElem?_eq_getElem hlt, by rw [hname, hq.2]⟩

theorem firstLeft?_eq (s : Signature) (filled : List Nat) : firstLeft? s filled = (free s filled).head? :=
  (List.head?_filter ..).symm

theorem not_mem_of_byName (h : byName s filled a = some (.parameter p)) : p ∉ filled := by
  rw [byName_eq] at h
  obtain ⟨k, -, hk⟩ := Option.map_eq_some_iff.1 h
  split at hk
  · cases hk
  · rename_i hnot
    cases hk
    simpa using hnot

theorem mem_begunBy_of_byBeginning (h : byBeginning s filled a = some (.parameter p)) :
    p < positionalLimit s ∧ p ∉ filled := by
  obtain ⟨name, -, hb⟩ := Option.bind_eq_some_iff.1 h
  split at hb
  · cases hb
  · rename_i q hq
    cases hb
    have hp : p ∈ begunBy s filled name := by rw [hq]; exact List.mem_singleton_self p
    obtain ⟨hrange, hfilter⟩ := List.mem_filter.1 hp
    rw [Bool.and_eq_true] at hfilter
    exact ⟨List.mem_range.1 hrange, by simpa using hfilter.1⟩
  · cases hb

theorem variadic_of_bySurplusName (h : bySurplusName s filled a = some (.parameter p)) :
    s.variadicIndex? = some p := by
  obtain ⟨-, -, hb⟩ := Option.bind_eq_some_iff.1 h
  obtain ⟨v, hv, heq⟩ := Option.map_eq_some_iff.1 hb
  cases heq
  exact hv

theorem mem_free_or_variadic_of_byPosition (h : byPosition s filled a = some (.parameter p)) :
    p ∈ free s filled ∨ s.variadicIndex? = some p := by
  unfold byPosition at h
  split at h
  · cases h
  · obtain ⟨q, hq, heq⟩ := Option.map_eq_some_iff.1 h
    cases heq
    rw [firstLeft?_eq] at hq
    rcases Option.or_eq_some_iff.1 hq with hq | ⟨-, hq⟩
    · exact .inl (List.mem_of_head? hq)
    · exact .inr hq

theorem lt_of_mem_free (h : p ∈ free s filled) : p < positionalLimit s ∧ p ∉ filled := by
  obtain ⟨hrange, hfilter⟩ := List.mem_filter.1 h
  exact ⟨List.mem_range.1 hrange, by simpa using hfilter⟩

/-! ### By position -/

theorem free_cons (s : Signature) (p : Nat) (filled : List Nat) :
    free s (p :: filled) = (free s filled).filter (· != p) := by
  unfold free
  rw [List.filter_filter]
  refine List.filter_congr fun q _ => ?_
  rw [List.contains_cons, Bool.not_or]
  rfl

/-- An argument without a name takes the first free parameter from those that come after. -/
theorem free_fill (h : byPosition s filled a = some b) : free s (fill filled b) = (free s filled).tail := by
  unfold byPosition at h
  split at h
  · cases h
  · obtain ⟨p, hp, rfl⟩ := Option.map_eq_some_iff.1 h
    rw [firstLeft?_eq] at hp
    have hnodup : (free s filled).Nodup := List.nodup_range.filter _
    rw [fill, free_cons]
    cases hf : free s filled with
    | nil => rfl
    | cons q rest =>
      rw [hf, List.head?_cons, Option.some_or, Option.some.injEq] at hp
      subst hp
      rw [hf, List.nodup_cons] at hnodup
      rw [List.filter_cons_of_neg (by simp), List.tail_cons, List.filter_eq_self]
      intro x hx
      rw [bne_iff_ne]
      rintro rfl
      exact hnodup.1 hx

/-- The arguments without a name take the free parameters one after the other. -/
theorem getElem?_pass_byPosition (hxs : ∀ x ∈ xs, x.1.name? = none → x.2 = none) (ha : a.name? = none)
    (h : xs[i]? = some (a, none)) :
    (pass (byPosition s) filled xs).1[i]? =
      some (a, ((free s filled)[(xs.take i).countP (·.1.name?.isNone)]?.or s.variadicIndex?).map
        .parameter) := by
  induction xs generalizing filled i with
  | nil => simp at h
  | cons x xs ih =>
    rw [List.forall_mem_cons] at hxs
    cases i with
    | zero =>
      rw [List.getElem?_cons_zero, Option.some.injEq] at h
      subst h
      rw [getElem?_pass]
      simp [pass, byPosition, ha, firstLeft?_eq, List.head?_eq_getElem?]
    | succ i =>
      rw [List.getElem?_cons_succ] at h
      obtain ⟨a', o⟩ := x
      rw [List.take_succ_cons, List.countP_cons]
      cases hname : a'.name? with
      | some name =>
        -- an argument with a name is passed over
        have hskip : (pass (byPosition s) filled ((a', o) :: xs)).1[i + 1]? =
            (pass (byPosition s) filled xs).1[i]? := by
          cases o with
          | none => rw [pass_left (by rw [byPosition, hname])]; rfl
          | some b => rfl
        rw [hskip, ih hxs.2 h, if_neg (by simp), Nat.add_zero]
      | none =>
        obtain rfl : o = none := hxs.1 hname
        rw [if_pos (by simp)]
        cases hc : byPosition s filled a' with
        | none =>
          -- nothing is free, and no parameter takes the surplus
          have hnone : (free s filled).head?.or s.variadicIndex? = none := by
            simpa [byPosition, hname, firstLeft?_eq] using hc
          obtain ⟨hfree, -⟩ := Option.or_eq_none_iff.1 hnone
          rw [pass_left hc, List.getElem?_cons_succ, ih hxs.2 h, List.head?_eq_none_iff.1 hfree]
          rfl
        | some b =>
          rw [pass_chosen hc, List.getElem?_cons_succ, ih hxs.2 h, free_fill hc, List.getElem?_tail]

end RSource.Call
