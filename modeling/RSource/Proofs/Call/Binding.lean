import RSource.Proofs.Call.Pass

/-!
# Where arguments go

The result of the four passes, argument by argument and without the table that the passes share
(`bind_matched`): an argument that names a parameter goes to it unless an earlier one has the same name;
any other argument with a name goes where its name leads among the parameters that are left then, or to
the surplus; the arguments without a name take in order the parameters that no named argument is bound to.
-/

namespace RSource.Call

variable {s : Signature} {arguments : List Argument} {allowBeginnings : Bool} {a : Argument}
  {name : String} {i j k p : Nat}

/-! ### Between the passes -/

/-- The arguments and the table after the pass by name. -/
def afterNames (s : Signature) (arguments : List Argument) :
    List (Argument × Option Binding) × List Nat :=
  pass (byName s) [] (arguments.map fun a => (a, none))

/-- The arguments and the table after the pass by beginnings. -/
def afterBeginnings (s : Signature) (arguments : List Argument) (allowBeginnings : Bool) :
    List (Argument × Option Binding) × List Nat :=
  pass (byBeginningIf s allowBeginnings) (afterNames s arguments).2 (afterNames s arguments).1

/-- The arguments and the table after the pass of the surplus names. -/
def afterSurplus (s : Signature) (arguments : List Argument) (allowBeginnings : Bool) :
    List (Argument × Option Binding) × List Nat :=
  pass (bySurplusName s) (afterBeginnings s arguments allowBeginnings).2
    (afterBeginnings s arguments allowBeginnings).1

/-- The arguments and the table after the pass by position. -/
def afterPositions (s : Signature) (arguments : List Argument) (allowBeginnings : Bool) :
    List (Argument × Option Binding) × List Nat :=
  pass (byPosition s) (afterSurplus s arguments allowBeginnings).2
    (afterSurplus s arguments allowBeginnings).1

theorem bind_eq (s : Signature) (arguments : List Argument) (allowBeginnings : Bool) :
    bind s arguments allowBeginnings =
      ⟨(afterPositions s arguments allowBeginnings).1.map fun x => x.2.getD .unmatched,
        (afterPositions s arguments allowBeginnings).2⟩ := by
  have hbeginnings : afterBeginnings s arguments allowBeginnings =
      if allowBeginnings then pass (byBeginning s) (afterNames s arguments).2 (afterNames s arguments).1
      else afterNames s arguments := by
    cases allowBeginnings with
    | true => rfl
    | false => exact pass_none _ _
  unfold bind afterPositions afterSurplus
  rw [hbeginnings]
  rfl

theorem tracks_start (arguments : List Argument) : Tracks [] (arguments.map fun a => (a, none)) := by
  intro p
  rw [List.countP_map]
  exact (List.countP_eq_zero.2 fun a _ => by simp [boundTo]).symm

theorem tracks_afterNames (s : Signature) (arguments : List Argument) :
    Tracks (afterNames s arguments).2 (afterNames s arguments).1 :=
  (tracks_start arguments).pass _

theorem tracks_afterBeginnings (s : Signature) (arguments : List Argument) (allowBeginnings : Bool) :
    Tracks (afterBeginnings s arguments allowBeginnings).2 (afterBeginnings s arguments allowBeginnings).1 :=
  (tracks_afterNames s arguments).pass _

theorem tracks_afterSurplus (s : Signature) (arguments : List Argument) (allowBeginnings : Bool) :
    Tracks (afterSurplus s arguments allowBeginnings).2 (afterSurplus s arguments allowBeginnings).1 :=
  (tracks_afterBeginnings s arguments allowBeginnings).pass _

theorem tracks_afterPositions (s : Signature) (arguments : List Argument) (allowBeginnings : Bool) :
    Tracks (afterPositions s arguments allowBeginnings).2 (afterPositions s arguments allowBeginnings).1 :=
  (tracks_afterSurplus s arguments allowBeginnings).pass _

/-! ### The way of one argument -/

/-- The table that the argument at `i` meets in the pass by name. -/
def seenByName (s : Signature) (arguments : List Argument) (i : Nat) : List Nat :=
  (pass (byName s) [] ((arguments.map fun a => (a, none)).take i)).2

/-- The table that the argument at `i` meets in the pass by beginnings. -/
def seenByBeginning (s : Signature) (arguments : List Argument) (allowBeginnings : Bool) (i : Nat) :
    List Nat :=
  (pass (byBeginningIf s allowBeginnings) (afterNames s arguments).2
    ((afterNames s arguments).1.take i)).2

theorem getElem?_afterNames (h : arguments[i]? = some a) :
    (afterNames s arguments).1[i]? = some (a, byName s (seenByName s arguments i) a) := by
  rw [afterNames, getElem?_pass, List.getElem?_map, h]
  rfl

theorem getElem?_afterBeginnings (h : arguments[i]? = some a) :
    (afterBeginnings s arguments allowBeginnings).1[i]? =
      some (a, (byName s (seenByName s arguments i) a).or
        (byBeginningIf s allowBeginnings (seenByBeginning s arguments allowBeginnings i) a)) := by
  rw [afterBeginnings, getElem?_pass, getElem?_afterNames h]
  rfl

theorem getElem?_afterSurplus (h : arguments[i]? = some a) :
    (afterSurplus s arguments allowBeginnings).1[i]? =
      some (a, ((byName s (seenByName s arguments i) a).or
        (byBeginningIf s allowBeginnings (seenByBeginning s arguments allowBeginnings i) a)).or
          (a.name?.bind fun _ => s.variadicIndex?.map .parameter)) := by
  rw [afterSurplus, getElem?_pass, getElem?_afterBeginnings h]
  rfl

theorem getElem?_afterPositions (h : arguments[i]? = some a) (hname : a.name? = some name) :
    (afterPositions s arguments allowBeginnings).1[i]? =
      some (a, ((byName s (seenByName s arguments i) a).or
        (byBeginningIf s allowBeginnings (seenByBeginning s arguments allowBeginnings i) a)).or
          (s.variadicIndex?.map .parameter)) := by
  rw [afterPositions, getElem?_pass, getElem?_afterSurplus h]
  simp [byPosition, hname]

theorem byName_of_unnamed (hname : a.name? = none) (filled : List Nat) : byName s filled a = none := by
  rw [byName, hname, Option.bind_none]

theorem byBeginningIf_of_unnamed (hname : a.name? = none) (filled : List Nat) :
    byBeginningIf s allowBeginnings filled a = none := by
  rw [byBeginningIf, byBeginning, hname, Option.bind_none, ite_self]

/-- No pass before the last one binds an argument without a name. -/
theorem getElem?_afterSurplus_of_unnamed (h : arguments[i]? = some a) (hname : a.name? = none) :
    (afterSurplus s arguments allowBeginnings).1[i]? = some (a, none) := by
  rw [getElem?_afterSurplus h, byName_of_unnamed hname, byBeginningIf_of_unnamed hname, hname]
  rfl

theorem getElem?_bindings (i : Nat) : (bind s arguments allowBeginnings).bindings[i]? =
    (afterPositions s arguments allowBeginnings).1[i]?.map fun x => x.2.getD .unmatched := by
  rw [bind_eq, List.getElem?_map]

theorem getElem?_of_map_fst {xs : List (Argument × Option Binding)} {x : Argument × Option Binding}
    (hxs : xs.map Prod.fst = arguments) (h : xs[i]? = some x) : arguments[i]? = some x.1 := by
  rw [← hxs, List.getElem?_map, h]
  rfl

theorem map_fst_afterNames (s : Signature) (arguments : List Argument) :
    (afterNames s arguments).1.map Prod.fst = arguments := by
  rw [afterNames, map_fst_pass, List.map_map]
  exact List.map_id _

theorem map_fst_afterSurplus (s : Signature) (arguments : List Argument) (allowBeginnings : Bool) :
    (afterSurplus s arguments allowBeginnings).1.map Prod.fst = arguments := by
  rw [afterSurplus, map_fst_pass, afterBeginnings, map_fst_pass, map_fst_afterNames]

theorem map_fst_afterPositions (s : Signature) (arguments : List Argument) (allowBeginnings : Bool) :
    (afterPositions s arguments allowBeginnings).1.map Prod.fst = arguments := by
  rw [afterPositions, map_fst_pass, map_fst_afterSurplus]

theorem length_bindings (s : Signature) (arguments : List Argument) (allowBeginnings : Bool) :
    (bind s arguments allowBeginnings).bindings.length = arguments.length := by
  have hlength := congrArg List.length (map_fst_afterPositions s arguments allowBeginnings)
  rw [List.length_map] at hlength
  rw [bind_eq, List.length_map, hlength]

/-! ### What is bound at which time -/

/-- An argument is bound to a parameter in the end if the last pass leaves it so. -/
theorem boundTo_afterPositions :
    (∃ x, (afterPositions s arguments allowBeginnings).1[i]? = some x ∧ boundTo p x = true) ↔
      (bind s arguments allowBeginnings).bindings[i]? = some (.parameter p) := by
  rw [getElem?_bindings]
  constructor
  · rintro ⟨x, hx, hp⟩
    rw [hx, Option.map_some, boundTo_iff.1 hp, Option.getD_some]
  · intro h
    obtain ⟨x, hx, hp⟩ := Option.map_eq_some_iff.1 h
    refine ⟨x, hx, boundTo_iff.2 ?_⟩
    cases ho : x.2 with
    | none => simp [ho] at hp
    | some b => simpa [ho] using hp

/-- The pass by name binds the arguments that name a parameter, and all that it binds stays. -/
theorem boundTo_afterNames (s : Signature) (arguments : List Argument) (allowBeginnings : Bool) (i p : Nat) :
    (∃ x, (afterNames s arguments).1[i]? = some x ∧ boundTo p x = true) ↔
      ∃ a, arguments[i]? = some a ∧ (namedIndex? s a).isSome ∧
        (bind s arguments allowBeginnings).bindings[i]? = some (.parameter p) := by
  constructor
  · rintro ⟨x, hx, hp⟩
    have ha := getElem?_of_map_fst (map_fst_afterNames s arguments) hx
    rw [getElem?_afterNames ha, Option.some.injEq] at hx
    have hname : byName s (seenByName s arguments i) x.1 = some (.parameter p) := by
      rw [← boundTo_iff.1 hp, ← hx]
    have hsome : (namedIndex? s x.1).isSome := by
      rw [byName_eq] at hname
      obtain ⟨k, hk, -⟩ := Option.map_eq_some_iff.1 hname
      rw [hk, Option.isSome_some]
    refine ⟨x.1, ha, hsome, ?_⟩
    obtain ⟨k, hk⟩ := Option.isSome_iff_exists.1 hsome
    obtain ⟨q, -, hq⟩ := name_of_namedIndex? hk
    rw [getElem?_bindings, getElem?_afterPositions ha hq, hname]
    rfl
  · rintro ⟨a, ha, hsome, hp⟩
    obtain ⟨k, hk⟩ := Option.isSome_iff_exists.1 hsome
    obtain ⟨q, -, hq⟩ := name_of_namedIndex? hk
    refine ⟨_, getElem?_afterNames ha, boundTo_iff.2 ?_⟩
    rw [getElem?_bindings, getElem?_afterPositions ha hq, byName_eq, hk] at hp
    rw [byName_eq, hk]
    simpa using hp

/-- The passes before the last one bind arguments with names only, and all that they bind stays. -/
theorem boundTo_afterSurplus :
    (∃ x, (afterSurplus s arguments allowBeginnings).1[i]? = some x ∧ boundTo p x = true) ↔
      ∃ a, arguments[i]? = some a ∧ a.name?.isSome ∧
        (bind s arguments allowBeginnings).bindings[i]? = some (.parameter p) := by
  constructor
  · rintro ⟨x, hx, hp⟩
    have ha := getElem?_of_map_fst (map_fst_afterSurplus s arguments allowBeginnings) hx
    cases hname : x.1.name? with
    | none =>
      rw [getElem?_afterSurplus_of_unnamed ha hname, Option.some.injEq] at hx
      rw [← hx] at hp
      cases hp
    | some name =>
      refine ⟨x.1, ha, by simp [hname], boundTo_afterPositions.1 ⟨x, ?_, hp⟩⟩
      rw [getElem?_afterPositions ha hname, ← hx, getElem?_afterSurplus ha, hname]
      rfl
  · rintro ⟨a, ha, hsome, hp⟩
    obtain ⟨name, hname⟩ := Option.isSome_iff_exists.1 hsome
    obtain ⟨x, hx, hp⟩ := boundTo_afterPositions.2 hp
    refine ⟨x, ?_, hp⟩
    rw [← hx, getElem?_afterPositions ha hname, getElem?_afterSurplus ha, hname]
    rfl

/-- Of the passes before the last one, the third binds to the variadic parameter only. -/
theorem boundTo_afterBeginnings (hp : s.variadicIndex? ≠ some p) (arguments : List Argument)
    (allowBeginnings : Bool) (i : Nat) :
    (∃ x, (afterBeginnings s arguments allowBeginnings).1[i]? = some x ∧ boundTo p x = true) ↔
      ∃ a, arguments[i]? = some a ∧ a.name?.isSome ∧
        (bind s arguments allowBeginnings).bindings[i]? = some (.parameter p) := by
  rw [← boundTo_afterSurplus, afterSurplus]
  simp only [getElem?_pass, Option.map_eq_some_iff]
  constructor
  · rintro ⟨x, hx, hb⟩
    refine ⟨_, ⟨x, hx, rfl⟩, ?_⟩
    rw [boundTo_iff] at hb ⊢
    simp [hb]
  · rintro ⟨-, ⟨x, hx, rfl⟩, hb⟩
    refine ⟨x, hx, ?_⟩
    rw [boundTo_iff] at hb ⊢
    rcases Option.or_eq_some_iff.1 hb with hb | ⟨-, hb⟩
    · exact hb
    · exact absurd (variadic_of_bySurplusName hb) hp

/-! ### The result without the table -/

/-- One of the arguments that satisfy `q` is bound to the parameter. -/
def takenBy (q : Argument → Bool) (p : Nat) (bound : List (Argument × Binding)) : Bool :=
  bound.any fun x => q x.1 && x.2 == .parameter p

theorem takenBy_iff {q : Argument → Bool} {bindings : List Binding} :
    takenBy q p (arguments.zip bindings) = true ↔
      ∃ (j : Nat) (a : Argument), arguments[j]? = some a ∧ q a = true ∧ bindings[j]? = some (Binding.parameter p) := by
  rw [takenBy, List.any_eq_true]
  constructor
  · rintro ⟨⟨a, b⟩, hx, hq⟩
    obtain ⟨j, hj⟩ := List.mem_iff_getElem?.1 hx
    obtain ⟨ha, hb⟩ := List.getElem?_zip_eq_some.1 hj
    rw [Bool.and_eq_true, beq_iff_eq] at hq
    exact ⟨j, a, ha, hq.1, hq.2 ▸ hb⟩
  · rintro ⟨j, a, ha, hq, hb⟩
    refine ⟨(a, .parameter p), List.mem_iff_getElem?.2 ⟨j, List.getElem?_zip_eq_some.2 ⟨ha, hb⟩⟩, ?_⟩
    simp [hq]

/-- The bindings `o` of the arguments of a call of `s`. Below `positionalLimit s`, the index of the first
variadic parameter or the number of parameters, stand the parameters that can be bound otherwise than by
their name. -/
structure Matched (s : Signature) (arguments : List Argument) (allowBeginnings : Bool) (o : Outcome) :
    Prop where
  length_eq : o.bindings.length = arguments.length
  /-- The table holds what the arguments are bound to. -/
  mem_filled_iff : ∀ p, p ∈ o.filled ↔ .parameter p ∈ o.bindings
  /-- Only the first variadic parameter takes more than one argument. -/
  once : ∀ p, s.variadicIndex? ≠ some p → o.bindings.count (.parameter p) ≤ 1
  /-- An argument that names a parameter goes to it, unless an earlier argument has the same name. -/
  named : ∀ (i : Nat) (a : Argument) (k : Nat), arguments[i]? = some a → namedIndex? s a = some k →
    o.bindings[i]? = some
      (if (arguments.take i).any (·.name? == a.name?) then .unmatched else .parameter k)
  /-- Behind the first variadic parameter nothing is bound but by name. -/
  behind : ∀ (i v p : Nat), s.variadicIndex? = some v → v < p → o.bindings[i]? = some (Binding.parameter p) →
    ∃ a, arguments[i]? = some a ∧ namedIndex? s a = some p
  /-- Any other name begins the names of parameters that are still left: those to which no argument is
  bound by its full name and no earlier argument by the beginning of one. -/
  begun : ∀ (i : Nat) (a : Argument) (name : String), arguments[i]? = some a → a.name? = some name →
    namedIndex? s a = none →
    o.bindings[i]? = some
      (match if allowBeginnings then
          (List.range (positionalLimit s)).filter fun p =>
            !(takenBy (fun a => (namedIndex? s a).isSome) p (arguments.zip o.bindings)
                || takenBy (·.name?.isSome) p ((arguments.take i).zip (o.bindings.take i)))
              && s.parameters[p]?.any fun q => name.toList.isPrefixOf q.name.toList
        else [] with
      | [] => surplus s
      | [p] => .parameter p
      | _ => .ambiguous)
  /-- The arguments without a name take in order the parameters to which no named argument is bound. -/
  placed : ∀ (i : Nat) (a : Argument), arguments[i]? = some a → a.name? = none →
    o.bindings[i]? = some
      (match ((List.range (positionalLimit s)).filter fun p =>
          !takenBy (·.name?.isSome) p (arguments.zip o.bindings))[
            (arguments.take i).countP (·.name?.isNone)]? with
      | some p => .parameter p
      | none => surplus s)

/-- A name has been seen before by the pass by name if an earlier argument has it. -/
theorem mem_seenByName (hk : namedIndex? s a = some k) (i : Nat) :
    k ∈ seenByName s arguments i ↔ (arguments.take i).any (·.name? == a.name?) = true := by
  -- what the pass has bound before `i`; no argument is bound before the pass
  have hseen : ∀ i, k ∈ seenByName s arguments i ↔
      ∃ j < i, ∃ x, (afterNames s arguments).1[j]? = some x ∧ boundTo k x = true := by
    intro i
    refine ((tracks_start arguments).mem_take (byName s) i k).trans (or_iff_left ?_)
    rintro ⟨j, -, x, hx, hb⟩
    rw [List.getElem?_map] at hx
    obtain ⟨a, -, rfl⟩ := Option.map_eq_some_iff.1 hx
    cases hb
  rw [List.any_eq_true]
  constructor
  · intro hmem
    obtain ⟨j, hj, x, hx, hb⟩ := (hseen i).1 hmem
    have ha := getElem?_of_map_fst (map_fst_afterNames s arguments) hx
    rw [getElem?_afterNames ha, Option.some.injEq] at hx
    have hname : byName s (seenByName s arguments j) x.1 = some (.parameter k) := by
      rw [← boundTo_iff.1 hb, ← hx]
    rw [byName_eq] at hname
    obtain ⟨k', hk', heq⟩ := Option.map_eq_some_iff.1 hname
    split at heq
    · cases heq
    · cases heq
      -- both arguments have the name of the parameter
      obtain ⟨q, hq, hqa⟩ := name_of_namedIndex? hk
      obtain ⟨q', hq', hqx⟩ := name_of_namedIndex? hk'
      rw [hq, Option.some.injEq] at hq'
      refine ⟨x.1, List.mem_iff_getElem?.2 ⟨j, by rw [List.getElem?_take, if_pos hj, ha]⟩, ?_⟩
      rw [hqa, hqx, hq', beq_iff_eq]
  · rintro ⟨a', ha', hname⟩
    rw [beq_iff_eq] at hname
    obtain ⟨j, hj⟩ := List.mem_iff_getElem?.1 ha'
    rw [List.getElem?_take] at hj
    split at hj
    · rename_i hji
      have hk' : namedIndex? s a' = some k := by rw [namedIndex?, hname, ← namedIndex?, hk]
      -- the earlier argument is bound to the parameter, or one before it is
      by_cases hmem : k ∈ seenByName s arguments j
      · obtain ⟨l, hl, hx⟩ := (hseen j).1 hmem
        exact (hseen i).2 ⟨l, Nat.lt_trans hl hji, hx⟩
      · refine (hseen i).2 ⟨j, hji, _, getElem?_afterNames hj, boundTo_iff.2 ?_⟩
        rw [byName_eq, hk', Option.map_some, if_neg (by simpa using hmem)]
    · cases hj

theorem bindings_of_named (h : arguments[i]? = some a) (hk : namedIndex? s a = some k) :
    (bind s arguments allowBeginnings).bindings[i]? = some
      (if (arguments.take i).any (·.name? == a.name?) then .unmatched else .parameter k) := by
  obtain ⟨q, -, hname⟩ := name_of_namedIndex? hk
  rw [getElem?_bindings, getElem?_afterPositions h hname, byName_eq, hk, Option.map_some]
  simp only [List.contains_iff_mem, mem_seenByName hk, Option.some_or, Option.map_some, Option.getD_some]

/-- Below the limit, the table that an argument meets in the pass by beginnings holds the parameters of
the arguments that name theirs and of the earlier arguments with names. -/
theorem mem_seenByBeginning (hp : s.variadicIndex? ≠ some p) (arguments : List Argument)
    (allowBeginnings : Bool) (i : Nat) :
    p ∈ seenByBeginning s arguments allowBeginnings i ↔
      (takenBy (fun a => (namedIndex? s a).isSome) p
          (arguments.zip (bind s arguments allowBeginnings).bindings) ||
        takenBy (·.name?.isSome) p
          ((arguments.take i).zip ((bind s arguments allowBeginnings).bindings.take i))) = true := by
  rw [Bool.or_eq_true, takenBy_iff, takenBy_iff, seenByBeginning,
    (tracks_afterNames s arguments).mem_take (byBeginningIf s allowBeginnings)]
  have hearlier : ∀ j, (∃ x, (pass (byBeginningIf s allowBeginnings) (afterNames s arguments).2
      (afterNames s arguments).1).1[j]? = some x ∧ boundTo p x = true) ↔ _ :=
    boundTo_afterBeginnings hp arguments allowBeginnings
  simp only [hearlier, boundTo_afterNames s arguments allowBeginnings]
  constructor
  · rintro (⟨j, hj, a, ha, hname, hb⟩ | ⟨j, -, a, ha, hk, hb⟩)
    · exact .inr ⟨j, a, by rw [List.getElem?_take, if_pos hj, ha], hname,
        by rw [List.getElem?_take, if_pos hj, hb]⟩
    · exact .inl ⟨j, a, ha, hk, hb⟩
  · rintro (⟨j, a, ha, hk, hb⟩ | ⟨j, a, ha, hname, hb⟩)
    · by_cases hj : j < i
      · obtain ⟨k, hk⟩ := Option.isSome_iff_exists.1 hk
        obtain ⟨q, -, hname⟩ := name_of_namedIndex? hk
        exact .inl ⟨j, hj, a, ha, by simp [hname], hb⟩
      · exact .inr ⟨j, Nat.le_of_not_lt hj, a, ha, hk, hb⟩
    · rw [List.getElem?_take] at ha hb
      split at ha
      · rename_i hj
        rw [if_pos hj] at hb
        exact .inl ⟨j, hj, a, ha, hname, hb⟩
      · cases ha

theorem variadicIndex?_ne_of_lt (h : p < positionalLimit s) : s.variadicIndex? ≠ some p := by
  intro hv
  rw [positionalLimit, hv] at h
  exact Nat.lt_irrefl p h

theorem bindings_of_begun (h : arguments[i]? = some a) (hname : a.name? = some name)
    (hk : namedIndex? s a = none) :
    (bind s arguments allowBeginnings).bindings[i]? = some
      (match if allowBeginnings then begunBy s (seenByBeginning s arguments allowBeginnings i) name
        else [] with
      | [] => surplus s
      | [p] => .parameter p
      | _ => .ambiguous) := by
  rw [getElem?_bindings, getElem?_afterPositions h hname, byName_eq, hk, Option.map_none, Option.none_or,
    Option.map_some, byBeginningIf, byBeginning, hname, Option.bind_some]
  cases allowBeginnings with
  | false => rfl
  | true =>
    simp only [if_true]
    split <;> simp_all [surplus]

theorem bindings_of_unnamed (h : arguments[i]? = some a) (hname : a.name? = none) :
    (bind s arguments allowBeginnings).bindings[i]? = some
      (match (free s (afterSurplus s arguments allowBeginnings).2)[
          (arguments.take i).countP (·.name?.isNone)]? with
      | some p => .parameter p
      | none => surplus s) := by
  have hunbound : ∀ x ∈ (afterSurplus s arguments allowBeginnings).1, x.1.name? = none → x.2 = none := by
    intro x hx hx'
    obtain ⟨j, hj⟩ := List.mem_iff_getElem?.1 hx
    have ha := getElem?_of_map_fst (map_fst_afterSurplus s arguments allowBeginnings) hj
    rw [getElem?_afterSurplus_of_unnamed ha hx', Option.some.injEq] at hj
    rw [← hj]
  have hrank : ((afterSurplus s arguments allowBeginnings).1.take i).countP (·.1.name?.isNone) =
      (arguments.take i).countP (·.name?.isNone) := by
    rw [← map_fst_afterSurplus s arguments allowBeginnings, ← List.map_take, List.countP_map,
      map_fst_afterSurplus]
    rfl
  rw [getElem?_bindings, afterPositions,
    getElem?_pass_byPosition hunbound hname (getElem?_afterSurplus_of_unnamed h hname), hrank]
  cases (free s (afterSurplus s arguments allowBeginnings).2)[
    (arguments.take i).countP (·.name?.isNone)]? <;> rfl

theorem count_filled_le_one (hp : s.variadicIndex? ≠ some p) (arguments : List Argument)
    (allowBeginnings : Bool) :
    (afterPositions s arguments allowBeginnings).2.count p ≤ 1 := by
  unfold afterPositions afterSurplus afterBeginnings afterNames
  refine count_pass_le_one (fun filled a h => ?_) (count_pass_le_one (fun filled a h => ?_)
    (count_pass_le_one (fun filled a h => ?_) (count_pass_le_one (fun filled a h => ?_) (by simp))))
  · exact (lt_of_mem_free ((mem_free_or_variadic_of_byPosition h).resolve_right hp)).2
  · exact absurd (variadic_of_bySurplusName h) hp
  · unfold byBeginningIf at h
    split at h
    · exact (mem_begunBy_of_byBeginning h).2
    · cases h
  · exact not_mem_of_byName h

/-- A parameter behind the first variadic one is bound only by an argument that names it. -/
theorem namedIndex?_of_behind {v : Nat} (hv : s.variadicIndex? = some v) (hp : v < p)
    (h : (bind s arguments allowBeginnings).bindings[i]? = some (.parameter p)) :
    ∃ a, arguments[i]? = some a ∧ namedIndex? s a = some p := by
  have hlimit : positionalLimit s = v := by rw [positionalLimit, hv, Option.getD_some]
  have hsurplus : surplus s = .parameter v := by rw [surplus, hv]; rfl
  obtain ⟨x, hx, -⟩ := boundTo_afterPositions.2 h
  obtain ⟨a, ha⟩ : ∃ a, arguments[i]? = some a :=
    ⟨_, getElem?_of_map_fst (map_fst_afterPositions s arguments allowBeginnings) hx⟩
  refine ⟨a, ha, ?_⟩
  cases hname : a.name? with
  | none =>
    rw [bindings_of_unnamed ha hname, Option.some.injEq] at h
    split at h
    · rename_i q hq
      cases h
      have := (lt_of_mem_free (List.mem_of_getElem? hq)).1
      omega
    · rw [hsurplus] at h
      cases h
      omega
  | some name =>
    cases hk : namedIndex? s a with
    | some k =>
      rw [bindings_of_named ha hk, Option.some.injEq] at h
      split at h
      · cases h
      · cases h
        rfl
    | none =>
      rw [bindings_of_begun ha hname hk, Option.some.injEq] at h
      split at h
      · rw [hsurplus] at h
        cases h
        omega
      · rename_i q hq
        cases h
        split at hq
        · have hmem := List.mem_singleton_self p
          rw [← hq] at hmem
          have := List.mem_range.1 (List.mem_filter.1 hmem).1
          omega
        · cases hq
      · cases h

/-- Binding the arguments of a call gives each of them its place by the rules. -/
theorem bind_matched (s : Signature) (arguments : List Argument) (allowBeginnings : Bool) :
    Matched s arguments allowBeginnings (bind s arguments allowBeginnings) where
  length_eq := by
    have hlen := congrArg List.length (map_fst_afterPositions s arguments allowBeginnings)
    rw [List.length_map] at hlen
    rw [bind_eq, List.length_map, hlen]
  mem_filled_iff p := by
    rw [List.mem_iff_getElem? (l := (bind s arguments allowBeginnings).bindings)]
    simp only [← boundTo_afterPositions]
    rw [bind_eq, (tracks_afterPositions s arguments allowBeginnings).mem_iff]
  once p hp := by
    have hcount := tracks_afterPositions s arguments allowBeginnings p
    have hle := count_filled_le_one hp arguments allowBeginnings
    rw [bind_eq, List.count, List.countP_map]
    refine Nat.le_trans (List.countP_mono_left fun x _ hx => ?_) (hcount ▸ hle)
    rw [Function.comp_apply, beq_iff_eq] at hx
    rw [boundTo_iff]
    cases ho : x.2 with
    | none => simp [ho] at hx
    | some b => simpa [ho] using hx
  named i a k h hk := bindings_of_named h hk
  behind i v p hv hp h := namedIndex?_of_behind hv hp h
  begun i a name h hname hk := by
    rw [bindings_of_begun h hname hk]
    congr 3
    refine List.filter_congr fun p hp => ?_
    have hseen := mem_seenByBeginning (variadicIndex?_ne_of_lt (List.mem_range.1 hp)) arguments
      allowBeginnings i
    congr 2
    rw [Bool.eq_iff_iff, List.contains_iff_mem, hseen]
  placed i a h hname := by
    have hfree : free s (afterSurplus s arguments allowBeginnings).2 =
        (List.range (positionalLimit s)).filter fun p =>
          !takenBy (·.name?.isSome) p (arguments.zip (bind s arguments allowBeginnings).bindings) := by
      refine List.filter_congr fun p _ => ?_
      congr 1
      rw [Bool.eq_iff_iff, List.contains_iff_mem, takenBy_iff,
        (tracks_afterSurplus s arguments allowBeginnings).mem_iff]
      simp only [boundTo_afterSurplus]
    rw [bindings_of_unnamed h hname, hfree]

end RSource.Call
