import Mathlib.Data.Fintype.Card
import Mathlib.Data.Fintype.Fin
import RSource.Proofs.Call.Binding

/-!
# Arguments in another order

Without beginnings of names, the order of the arguments of a call matters only among those without a name
and among those of one name. When these stay in order (`Rearranged`), every argument has as many arguments
of its own name before it as it had (`Rearranged.countP_take`). That decides where an argument with a name
goes; so the same parameters are left for the arguments without a name, which take them in the same order
(`bind_rearranged`).
-/

namespace RSource.Call

/-! ### Lists whose members change places -/

section Lists

variable {α : Type}

/-- The members of the beginning of a list, counted by their places. -/
theorem card_filter_lt (l : List α) (q : α → Bool) (n : Nat) :
    (Finset.univ.filter fun j : Fin l.length => j.1 < n ∧ q l[j] = true).card = (l.take n).countP q := by
  induction l generalizing n with
  | nil => simp
  | cons a l ih =>
    cases n with
    | zero => simp
    | succ n =>
      rw [List.take_succ_cons, List.countP_cons, ← ih n]
      refine (Fin.card_filter_univ_succ' _).trans ?_
      simp [Nat.add_comm]

theorem perm_of_getElem?_equiv {l m : List α} {a b : Nat} (ha : l.length = a) (hb : m.length = b)
    (e : Fin a ≃ Fin b) (h : ∀ i, m[(e i).1]? = l[i.1]?) : m.Perm l := by
  subst ha hb
  have hget : ∀ i, m[e i] = l[i] := fun i => by
    have hi := h i
    rwa [List.getElem?_eq_getElem (e i).2, List.getElem?_eq_getElem i.2, Option.some.injEq] at hi
  have hcoe : ∀ k : List α, (k : Multiset α) = Finset.univ.val.map fun i : Fin k.length => k[i] := by
    intro k
    rw [Fin.univ_val_map]
    exact congrArg _ List.ofFn_getElem.symm
  rw [← Multiset.coe_eq_coe, hcoe m, hcoe l, ← Multiset.map_univ_val_equiv e, Multiset.map_map]
  exact Multiset.map_congr rfl fun i _ => hget i

end Lists

variable {s : Signature} {xs ys : List Argument} {place : Fin xs.length ≃ Fin ys.length}

/-- The second call has the arguments of the first in another order: that at `i` has gone to `place i`.
Arguments without a name keep their order, and so do arguments of the same name. Only names count: the
arguments may stand in other slots and at other offsets. -/
structure Rearranged (xs ys : List Argument) (place : Fin xs.length ≃ Fin ys.length) : Prop where
  name_place : ∀ i, ys[place i].name? = xs[i].name?
  lt_place : ∀ i j, i < j → xs[i].name? = xs[j].name? → place i < place j

namespace Rearranged

theorem lt_place_iff (h : Rearranged xs ys place) {i j : Fin xs.length} (hname : xs[i].name? = xs[j].name?) :
    place i < place j ↔ i < j := by
  refine ⟨fun hlt => ?_, fun hlt => h.lt_place i j hlt hname⟩
  rcases Nat.lt_trichotomy i j with hij | hij | hij
  · exact hij
  · rw [Fin.ext hij] at hlt
    exact absurd hlt (Nat.lt_irrefl _)
  · exact absurd (h.lt_place j i hij hname.symm) (Nat.lt_asymm hlt)

/-- As many arguments of its own name stand before an argument as before. -/
theorem countP_take (h : Rearranged xs ys place) (i : Fin xs.length) :
    (ys.take (place i)).countP (·.name? == xs[i].name?) = (xs.take i).countP (·.name? == xs[i].name?) := by
  rw [← card_filter_lt, ← card_filter_lt]
  refine (Finset.card_equiv place fun j => ?_).symm
  simp only [Finset.mem_filter, Finset.mem_univ, true_and, beq_iff_eq, h.name_place]
  exact and_congr_left fun hj => (h.lt_place_iff hj).symm

theorem any_take (h : Rearranged xs ys place) (i : Fin xs.length) :
    (ys.take (place i)).any (·.name? == xs[i].name?) = (xs.take i).any (·.name? == xs[i].name?) := by
  rw [Bool.eq_iff_iff, List.any_eq_true, List.any_eq_true, ← List.countP_pos_iff, ← List.countP_pos_iff,
    h.countP_take]

end Rearranged

/-! ### Where the arguments go -/

theorem namedIndex?_congr {a b : Argument} (h : a.name? = b.name?) (s : Signature) :
    namedIndex? s a = namedIndex? s b := by
  rw [namedIndex?, h, namedIndex?]

theorem getElem?_eq_some (i : Fin xs.length) : xs[i.1]? = some xs[i] :=
  List.getElem?_eq_getElem i.2

theorem Rearranged.bindings_of_isSome (h : Rearranged xs ys place) {i : Fin xs.length}
    (hi : xs[i].name?.isSome) :
    (bind s ys false).bindings[(place i).1]? = (bind s xs false).bindings[i.1]? := by
  have hindex := namedIndex?_congr (h.name_place i) s
  cases hk : namedIndex? s xs[i] with
  | some k =>
    rw [bindings_of_named (getElem?_eq_some i) hk,
      bindings_of_named (getElem?_eq_some (place i)) (hindex.trans hk), h.name_place, h.any_take]
  | none =>
    obtain ⟨name, hname⟩ := Option.isSome_iff_exists.1 hi
    rw [bindings_of_begun (getElem?_eq_some i) hname hk,
      bindings_of_begun (getElem?_eq_some (place i)) ((h.name_place i).trans hname) (hindex.trans hk)]
    rfl

/-- The parameters that the arguments with names take. -/
theorem mem_afterSurplus (s : Signature) (xs : List Argument) (allowBeginnings : Bool) (p : Nat) :
    p ∈ (afterSurplus s xs allowBeginnings).2 ↔ ∃ i : Fin xs.length, xs[i].name?.isSome ∧
      (bind s xs allowBeginnings).bindings[i.1]? = some (.parameter p) := by
  rw [(tracks_afterSurplus s xs allowBeginnings).mem_iff]
  simp only [boundTo_afterSurplus]
  constructor
  · rintro ⟨i, a, ha, hname, hb⟩
    obtain ⟨hi, rfl⟩ := List.getElem?_eq_some_iff.1 ha
    exact ⟨⟨i, hi⟩, hname, hb⟩
  · rintro ⟨i, hname, hb⟩
    exact ⟨i, _, getElem?_eq_some i, hname, hb⟩

theorem Rearranged.free_eq (h : Rearranged xs ys place) :
    free s (afterSurplus s ys false).2 = free s (afterSurplus s xs false).2 := by
  refine List.filter_congr fun p _ => ?_
  congr 1
  rw [Bool.eq_iff_iff, List.contains_iff_mem, List.contains_iff_mem, mem_afterSurplus, mem_afterSurplus]
  -- a parameter is taken by an argument with a name, and those go where they went
  refine (place.exists_congr fun i => ?_).symm
  rw [h.name_place]
  exact and_congr_right fun hi => by rw [h.bindings_of_isSome hi]

theorem Rearranged.bindings_place (h : Rearranged xs ys place) (i : Fin xs.length) :
    (bind s ys false).bindings[(place i).1]? = (bind s xs false).bindings[i.1]? := by
  cases hname : xs[i].name? with
  | some name => exact h.bindings_of_isSome (by rw [hname]; rfl)
  | none =>
    -- the argument has the same rank among those without a name, and the same parameters are left
    have hrank := h.countP_take i
    rw [hname] at hrank
    have hnone : ∀ a : Argument, (a.name? == none) = a.name?.isNone := fun a => by cases a.name? <;> rfl
    simp only [hnone] at hrank
    rw [bindings_of_unnamed (getElem?_eq_some i) hname,
      bindings_of_unnamed (getElem?_eq_some (place i)) ((h.name_place i).trans hname), h.free_eq, hrank]

/-- The table holds a parameter once for every argument that is bound to it. -/
theorem count_filled (s : Signature) (xs : List Argument) (allowBeginnings : Bool) (p : Nat) :
    (bind s xs allowBeginnings).filled.count p =
      (bind s xs allowBeginnings).bindings.count (.parameter p) := by
  have hbound : ∀ x : Argument × Option Binding,
      boundTo p x = (x.2.getD .unmatched == .parameter p) := by
    rintro ⟨a, _ | b⟩ <;> rfl
  rw [bind_eq, tracks_afterPositions s xs allowBeginnings p, List.count, List.countP_map]
  exact List.countP_congr fun x _ => by rw [hbound]; rfl

/-- Without beginnings of names, a call whose arguments stand in another order binds every argument to
what it was bound to, leaves the same table and fits as well or as badly. -/
theorem bind_rearranged (s : Signature) (xs ys : List Argument) (place : Fin xs.length ≃ Fin ys.length)
    (h : Rearranged xs ys place) :
    (∀ i : Fin xs.length, ∃ b, (bind s xs false).bindings[i.1]? = some b ∧
      (bind s ys false).bindings[(place i).1]? = some b) ∧
    (∀ p, (bind s ys false).filled.contains p = (bind s xs false).filled.contains p) ∧
    misfit s (bind s ys false) = misfit s (bind s xs false) := by
  have hperm : (bind s ys false).bindings.Perm (bind s xs false).bindings :=
    perm_of_getElem?_equiv (length_bindings s xs false) (length_bindings s ys false) place h.bindings_place
  have hfilled : (bind s ys false).filled.Perm (bind s xs false).filled :=
    List.perm_iff_count.2 fun p => by rw [count_filled, count_filled, hperm.count_eq]
  have hcontains : ∀ p, (bind s ys false).filled.contains p = (bind s xs false).filled.contains p :=
    fun p => by rw [Bool.eq_iff_iff, List.contains_iff_mem, List.contains_iff_mem, hfilled.mem_iff]
  refine ⟨fun i => ?_, hcontains, ?_⟩
  · have hi : i.1 < (bind s xs false).bindings.length := by
      rw [length_bindings]
      exact i.2
    exact ⟨_, List.getElem?_eq_getElem hi, (h.bindings_place i).trans (List.getElem?_eq_getElem hi)⟩
  · have hmissing : missing s (bind s ys false).filled = missing s (bind s xs false).filled := by
      unfold missing
      simp only [hcontains]
    rw [misfit, misfit, hperm.count_eq, hperm.count_eq, hmissing]

/-- A parameter named twice, a name for the variadic parameter and an argument without a name, each of them
in another slot than before. -/
theorem bind_rearranged_repeated :
    let s : Signature := ⟨"f", [.of "x", .of "y", .of "..."], none⟩
    let xs : List Argument := [⟨0, some "y", 2⟩, ⟨1, none, 9⟩, ⟨2, some "y", 12⟩, ⟨3, some "z", 19⟩]
    let ys : List Argument := [⟨0, none, 2⟩, ⟨1, some "y", 5⟩, ⟨2, some "z", 12⟩, ⟨3, some "y", 19⟩]
    let place : Fin 4 ≃ Fin 4 := (Equiv.swap 0 1).trans (Equiv.swap 2 3)
    Rearranged xs ys place ∧
      (bind s xs false).bindings = [.parameter 1, .parameter 0, .unmatched, .parameter 2] ∧
      (bind s ys false).bindings = [.parameter 0, .parameter 1, .parameter 2, .unmatched] ∧
      (∀ p, (bind s ys false).filled.contains p = (bind s xs false).filled.contains p) ∧
      misfit s (bind s ys false) = misfit s (bind s xs false) := by
  intro s xs ys place
  have h : Rearranged xs ys place := ⟨by decide, by decide⟩
  obtain ⟨-, hfilled, hmisfit⟩ := bind_rearranged s xs ys place h
  exact ⟨h, by decide, by decide, hfilled, hmisfit⟩

end RSource.Call
