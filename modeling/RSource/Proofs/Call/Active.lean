import Mathlib.Data.Prod.Lex
import Mathlib.Order.Lattice.Nat
import RSource.Proofs.Call.Binding
import RSource.Proofs.Call.Site
import RSource.Proofs.Call.Slots

/-!
# The active parameter

Of the candidates the first one that fits best is chosen (`leftmost_bestIndex`). Whatever is answered is one
of its parameters (`lt_of_parameterAt?`), a variadic parameter always gives an answer
(`isSome_parameterAt?`), and before the first argument the first parameter is active. For the tree of a text
this is put together in `active?_parse`.
-/

namespace RSource.Call
open RSource.Tree RSource.Grammar

/-! ### The first of the best -/

section Leftmost

variable {α β : Type*} [LinearOrder β] {rank : α → β} {l : List α} {best : Nat × α}
  {better : α → α → Bool}

/-- The element stands at its index, no other has less rank, and all that stand before it have more. -/
structure Leftmost (rank : α → β) (l : List α) (best : Nat × α) : Prop where
  get : l[best.1]? = some best.2
  le : ∀ y ∈ l, rank best.2 ≤ rank y
  lt : ∀ y ∈ l.take best.1, rank best.2 < rank y

/-- One more element takes the place only if it has less rank. -/
theorem Leftmost.concat (h : Leftmost rank l best) (y : α) :
    Leftmost rank (l ++ [y]) (if rank y < rank best.2 then (l.length, y) else best) := by
  have hindex : best.1 < l.length := (List.getElem?_eq_some_iff.1 h.get).1
  split
  · rename_i hlt
    refine ⟨by simp, fun z hz => ?_, fun z hz => ?_⟩
    · rcases List.mem_append.1 hz with hz | hz
      · exact hlt.le.trans (h.le z hz)
      · rw [List.mem_singleton.1 hz]
    · rw [List.take_left] at hz
      exact hlt.trans_le (h.le z hz)
  · rename_i hge
    refine ⟨by rw [List.getElem?_append_left hindex, h.get], fun z hz => ?_, fun z hz => ?_⟩
    · rcases List.mem_append.1 hz with hz | hz
      · exact h.le z hz
      · rw [List.mem_singleton.1 hz]
        exact not_lt.1 hge
    · rw [List.take_append_of_le_length hindex.le] at hz
      exact h.lt z hz

theorem Leftmost.foldl (hbetter : ∀ y z, better y z = true ↔ rank y < rank z)
    (h : Leftmost rank l best) (ys : List α) :
    Leftmost rank (l ++ ys)
      ((ys.zipIdx l.length).foldl (fun best b => if better b.1 best.2 then (b.2, b.1) else best) best) := by
  induction ys generalizing l best with
  | nil => simpa using h
  | cons y ys ih =>
    -- the new element stands at the end of what was seen, which is the index that the fold has for it
    have hstep := ih (h.concat y)
    simp only [← hbetter, List.length_append, List.length_singleton] at hstep
    rw [List.zipIdx_cons, List.foldl_cons, List.append_cons]
    exact hstep

theorem leftmost_bestIndex (hbetter : ∀ y z, better y z = true ↔ rank y < rank z) (hne : l ≠ []) :
    ∃ best, bestIndex better l = some best ∧ Leftmost rank l best := by
  cases l with
  | nil => exact absurd rfl hne
  | cons x xs =>
    have hfirst : Leftmost rank [x] (0, x) := ⟨rfl, by simp, by simp⟩
    exact ⟨_, rfl, hfirst.foldl hbetter xs⟩

theorem Leftmost.of_map {γ : Type*} {f : γ → α} {l : List γ} (h : Leftmost rank (l.map f) best) :
    ∃ x, best.2 = f x ∧ Leftmost (fun y => rank (f y)) l (best.1, x) := by
  have hget := h.get
  rw [List.getElem?_map] at hget
  obtain ⟨x, hx, heq⟩ := Option.map_eq_some_iff.1 hget
  refine ⟨x, heq.symm, hx, fun y hy => ?_, fun y hy => ?_⟩
  · rw [heq]
    exact h.le _ (List.mem_map_of_mem hy)
  · rw [heq]
    exact h.lt _ (List.map_take ▸ List.mem_map_of_mem hy)

end Leftmost

variable {s : Signature} {arguments : List Argument} {allowBeginnings : Bool} {a : Argument}
  {i p v caret : Nat} {source : Text} {site : Site} {signatures : List Signature}

/-- The parts of a misfit in the order of their weight. -/
def Misfit.rank (m : Misfit) : ℕ ×ₗ ℕ ×ₗ ℕ :=
  toLex (m.ambiguous, toLex (m.unmatched, m.missing))

theorem Misfit.less_iff {m n : Misfit} : m.less n = true ↔ m.rank < n.rank := by
  simp [Misfit.less, Misfit.rank, Prod.Lex.toLex_lt_toLex]

/-- How badly the arguments at the caret fit the signature. -/
def rankAt (site : Site) (source : Text) (caret : Nat) (allowBeginnings : Bool) (s : Signature) :
    ℕ ×ₗ ℕ ×ₗ ℕ :=
  (misfit s (bind s (argumentsAt site source caret).1 allowBeginnings)).rank

/-- The answer is read off the first of the signatures that the arguments fit best. -/
theorem exists_activeAt?_eq (site : Site) (source : Text) (caret : Nat) (allowBeginnings : Bool)
    (hne : signatures ≠ []) :
    ∃ k s, Leftmost (rankAt site source caret allowBeginnings) signatures (k, s) ∧
      activeAt? site source caret signatures allowBeginnings =
        (parameterAt? s (bind s (argumentsAt site source caret).1 allowBeginnings)
          (argumentsAt site source caret).1 (argumentsAt site source caret).2 caret).map (⟨k, ·⟩) := by
  have hless : ∀ x y : Signature × Outcome, (misfit x.1 x.2).less (misfit y.1 y.2) = true ↔
      (misfit x.1 x.2).rank < (misfit y.1 y.2).rank := fun _ _ => Misfit.less_iff
  have hmap : (signatures.map fun s =>
      (s, bind s (argumentsAt site source caret).1 allowBeginnings)) ≠ [] :=
    fun hnil => hne (List.map_eq_nil_iff.1 hnil)
  obtain ⟨⟨k, outcome⟩, hbest, hleftmost⟩ := leftmost_bestIndex hless hmap
  obtain ⟨s, rfl, hleftmost⟩ := hleftmost.of_map
  refine ⟨k, s, hleftmost, ?_⟩
  unfold activeAt?
  dsimp only
  rw [hbest, Option.bind_some]

/-! ### Parameters -/

theorem lt_of_variadicIndex? (h : s.variadicIndex? = some v) : v < s.parameters.length :=
  (List.findIdx?_eq_some_iff_getElem.1 h).1

theorem positionalLimit_le (s : Signature) : positionalLimit s ≤ s.parameters.length := by
  unfold positionalLimit
  cases h : s.variadicIndex? with
  | none => exact Nat.le_refl _
  | some v => exact (lt_of_variadicIndex? h).le

theorem lt_of_bindings (h : (bind s arguments allowBeginnings).bindings[i]? = some (.parameter p)) :
    p < s.parameters.length := by
  have hmem : p ∈ (afterPositions s arguments allowBeginnings).2 :=
    (tracks_afterPositions s arguments allowBeginnings).mem_iff.2 ⟨i, boundTo_afterPositions.2 h⟩
  have hfree : ∀ {q}, q < positionalLimit s → q < s.parameters.length :=
    fun hq => Nat.lt_of_lt_of_le hq (positionalLimit_le s)
  -- the passes from the last to the first
  refine forall_mem_pass (P := (· < s.parameters.length)) (fun filled a q h => ?_)
    (forall_mem_pass (fun filled a q h => ?_) (forall_mem_pass (fun filled a q h => ?_)
      (forall_mem_pass (fun filled a q h => ?_) (List.forall_mem_nil _)))) p hmem
  · rcases mem_free_or_variadic_of_byPosition h with h | h
    · exact hfree (lt_of_mem_free h).1
    · exact lt_of_variadicIndex? h
  · exact lt_of_variadicIndex? (variadic_of_bySurplusName h)
  · unfold byBeginningIf at h
    split at h
    · exact hfree (mem_begunBy_of_byBeginning h).1
    · cases h
  · rw [byName_eq] at h
    obtain ⟨k, hk, heq⟩ := Option.map_eq_some_iff.1 h
    obtain ⟨parameter, hparameter, -⟩ := name_of_namedIndex? hk
    split at heq
    · cases heq
    · cases heq
      exact (List.getElem?_eq_some_iff.1 hparameter).1

theorem lt_of_attributed? {o : Outcome} (h : attributed? s o = some p) : p < s.parameters.length := by
  rw [attributed?, firstLeft?_eq] at h
  rcases Option.or_eq_some_iff.1 h with h | ⟨-, h⟩
  · exact (lt_of_mem_free (List.mem_of_head? h)).1.trans_le (positionalLimit_le s)
  · exact lt_of_variadicIndex? h

theorem exists_binding (s : Signature) (allowBeginnings : Bool) (h : arguments[i]? = some a) :
    ∃ b, (bind s arguments allowBeginnings).bindings[i]? = some b := by
  have hlt := (List.getElem?_eq_some_iff.1 h).1
  rw [← length_bindings s arguments allowBeginnings] at hlt
  exact ⟨_, List.getElem?_eq_getElem hlt⟩

/-! ### The answer -/

theorem lt_of_parameterAt?
    (h : parameterAt? s (bind s arguments allowBeginnings) arguments i caret = some p) :
    p < s.parameters.length := by
  unfold parameterAt? at h
  split at h
  · rename_i a b ha hb
    split at h
    · cases h
    · rename_i hempty
      split at h
      · cases h
        exact List.length_pos_iff.2 (by simpa using hempty)
      · split at h
        · cases h
          exact lt_of_bindings hb
        · exact lt_of_attributed? h
        · split at h
          · exact lt_of_attributed? h
          · cases h
  · cases h

theorem isSome_attributed? (hv : s.variadicIndex? = some v) (o : Outcome) : (attributed? s o).isSome := by
  rw [attributed?, hv]
  simp

/-- A variadic parameter leaves no argument without a name unmatched. -/
theorem bindings_ne_unmatched (hv : s.variadicIndex? = some v) (h : arguments[i]? = some a)
    (hname : a.name? = none) : (bind s arguments allowBeginnings).bindings[i]? ≠ some .unmatched := by
  rw [bindings_of_unnamed h hname]
  split
  · intro heq
    cases heq
  · rw [surplus, hv]
    intro heq
    cases heq

theorem isSome_parameterAt? (hv : s.variadicIndex? = some v) (h : arguments[i]? = some a) :
    (parameterAt? s (bind s arguments allowBeginnings) arguments i caret).isSome := by
  obtain ⟨b, hb⟩ := exists_binding s allowBeginnings h
  have hne : s.parameters.isEmpty = false := by
    have hlt := lt_of_variadicIndex? hv
    cases hparameters : s.parameters with
    | nil => simp [hparameters] at hlt
    | cons => rfl
  have hattributed := isSome_attributed? hv (bind s arguments allowBeginnings)
  simp only [parameterAt?, h, hb, hne, Bool.false_eq_true, if_false]
  split
  · rfl
  · cases b with
    | parameter q => rfl
    | ambiguous => exact hattributed
    | unmatched =>
      -- without a name the argument would be the surplus that the variadic parameter takes
      cases hname : a.name? with
      | none => exact absurd hb (bindings_ne_unmatched hv h hname)
      | some name => exact hattributed

theorem parameterAt?_before (hne : s.parameters ≠ []) (h : arguments[i]? = some a) (hslot : a.slot = 0)
    (hcaret : caret < a.start) :
    parameterAt? s (bind s arguments allowBeginnings) arguments i caret = some 0 := by
  obtain ⟨b, hb⟩ := exists_binding s allowBeginnings h
  simp [parameterAt?, h, hb, hne, hslot, hcaret]

theorem firstLeft?_or_variadicIndex? (hne : s.parameters ≠ []) :
    (firstLeft? s []).or s.variadicIndex? = some 0 := by
  have hlength := List.length_pos_iff.2 hne
  rw [firstLeft?_eq, free]
  cases hlimit : positionalLimit s with
  | succ n => simp [List.range_succ_eq_map]
  | zero =>
    -- nothing stands before the variadic parameter, so it is the first one
    rw [positionalLimit] at hlimit
    cases hv : s.variadicIndex? with
    | none =>
      rw [hv, Option.getD_none] at hlimit
      omega
    | some v =>
      rw [hv, Option.getD_some] at hlimit
      simp [hlimit]

theorem parameterAt?_alone (hne : s.parameters ≠ []) :
    parameterAt? s (bind s [⟨0, none, caret⟩] allowBeginnings) [⟨0, none, caret⟩] 0 caret = some 0 := by
  have hfirst := firstLeft?_or_variadicIndex? hne
  have hbindings : (bind s [⟨0, none, caret⟩] allowBeginnings).bindings = [.parameter 0] := by
    cases allowBeginnings <;>
      simp [bind, pass, byName, byBeginning, bySurplusName, byPosition, hfirst]
  simp [parameterAt?, hbindings, hne]

/-! ### The answer in a text -/

theorem exists_argumentAt (site : Site) (source : Text) (caret : Nat) :
    ∃ a, (argumentsAt site source caret).1[(argumentsAt site source caret).2]? = some a := by
  unfold argumentsAt
  dsimp only
  split
  · rename_i i hi
    obtain ⟨hlt, -⟩ := List.findIdx?_eq_some_iff_getElem.1 hi
    exact ⟨_, List.getElem?_eq_getElem hlt⟩
  · exact ⟨_, List.getElem?_concat_length⟩

theorem exists_find? (h : ∃ site : Site, site.call ∈ (parse source).nodes ∧ Encloses caret site) :
    ∃ site, find? (parse source) caret = some site := by
  obtain ⟨site, hmem, hin⟩ := h
  obtain ⟨⟨d, call⟩, hat, rfl⟩ := List.mem_map.1 hmem
  have hcaret := hin.le_stop (sound_parse source) hat
  cases hfind : find? (parse source) caret with
  | none => exact absurd hin ((find?_eq_none_iff (sound_parse source) hcaret).1 hfind site hmem)
  | some found => exact ⟨found, rfl⟩

theorem alternate_of_find? (h : find? (parse source) caret = some site) :
    Alternate site.arguments.span.stop (site.arguments.span.start + 1) site.arguments.separators
      site.arguments.arguments := by
  have hcaret : caret ≤ (parse source).span.stop := by
    unfold find? at h
    split at h
    · cases h
    · omega
  obtain ⟨d, hmem, hin, -⟩ := (find?_eq_some_iff (sound_parse source) hcaret).1 h
  obtain ⟨hchild, hlist⟩ := callParts?_eq_some hin.2.1
  exact (alternate_of_mem_parse (child_mem_nodes (List.mem_map_of_mem hmem) hchild) hlist).1

theorem argumentsAt_alone (harguments : site.arguments.arguments = [])
    (hcommas : site.arguments.separators = []) :
    argumentsAt site source caret = ([⟨0, none, caret⟩], 0) := by
  simp [argumentsAt, writtenArguments, slotOf, harguments, hcommas]

theorem argumentsAt_before {t : Tree} {b c : Nat}
    (h : Alternate b c site.arguments.separators site.arguments.arguments)
    (hfirst : site.arguments.arguments.head? = some t) (hcaret : caret < t.span.start) :
    (argumentsAt site source caret).2 = 0 ∧ ∃ a, (argumentsAt site source caret).1[0]? = some a ∧
      a.slot = 0 ∧ a.start = t.span.start := by
  obtain ⟨ts, hts⟩ := List.head?_eq_some_iff.1 hfirst
  have hslots := slots_of_alternate h source
  rw [hts] at h
  have hzero : slotOf site.arguments.separators caret = 0 := slotOf_of_le_start h hcaret.le
  have hstart : slotOf site.arguments.separators t.span.start = 0 := slotOf_of_le_start h (Nat.le_refl _)
  rw [argumentsAt_eq site hslots, hzero, if_pos (by simp [hts])]
  exact ⟨rfl, _, by rw [writtenArguments, hts]; rfl, hstart, rfl⟩

/-- What is answered at a caret in the call `site` when the signature `s` at `k` is chosen. -/
structure Answers (site : Site) (caret k : Nat) (s : Signature) (answer : Option Active) : Prop where
  /-- An answer is one of the parameters of the signature. -/
  parameter : ∀ r, answer = some r → r.signature = k ∧ r.parameter < s.parameters.length
  /-- There is an answer if one of them is variadic. -/
  variadic : (∃ q ∈ s.parameters, q.isVariadic = true) → answer.isSome = true
  /-- The first parameter is active while nothing is written, and before the first argument. -/
  first : s.parameters ≠ [] →
    (site.arguments.arguments = [] ∧ site.arguments.separators = [] ∨
      ∃ t, site.arguments.arguments.head? = some t ∧ caret < t.span.start) →
    answer = some ⟨k, 0⟩

theorem answers_parameterAt? (h : find? (parse source) caret = some site) (k : Nat) (s : Signature) :
    Answers site caret k s
      ((parameterAt? s (bind s (argumentsAt site source caret).1 allowBeginnings)
        (argumentsAt site source caret).1 (argumentsAt site source caret).2 caret).map (⟨k, ·⟩)) := by
  refine ⟨fun r hr => ?_, fun hvariadic => ?_, fun hne hcaret => ?_⟩
  · obtain ⟨p, hp, rfl⟩ := Option.map_eq_some_iff.1 hr
    exact ⟨rfl, lt_of_parameterAt? hp⟩
  · obtain ⟨v, hv⟩ : ∃ v, s.variadicIndex? = some v := by
      rw [← Option.isSome_iff_exists, Signature.variadicIndex?, List.findIdx?_isSome]
      simpa using hvariadic
    obtain ⟨a, ha⟩ := exists_argumentAt site source caret
    rw [Option.isSome_map]
    exact isSome_parameterAt? hv ha
  · rcases hcaret with ⟨harguments, hcommas⟩ | ⟨t, hfirst, hcaret⟩
    · rw [argumentsAt_alone harguments hcommas, parameterAt?_alone hne]
      rfl
    · obtain ⟨hindex, a, ha, hslot, hstart⟩ := argumentsAt_before (alternate_of_find? h) hfirst hcaret
      rw [hindex, parameterAt?_before hne ha hslot (hstart ▸ hcaret)]
      rfl

/-- At a caret in the arguments of a call, the signature that the arguments fit best is chosen of those
given, the first one on a tie, and the answer is read off its bindings. -/
theorem active?_parse (source : Text) (caret : Nat) (signatures : List Signature) (allowBeginnings : Bool)
    (hne : signatures ≠ [])
    (hcall : ∃ site : Site, site.call ∈ (parse source).nodes ∧ Encloses caret site) :
    ∃ site k s, find? (parse source) caret = some site ∧
      Leftmost (rankAt site source caret allowBeginnings) signatures (k, s) ∧
      active? (parse source) source caret signatures allowBeginnings =
        (parameterAt? s (bind s (argumentsAt site source caret).1 allowBeginnings)
          (argumentsAt site source caret).1 (argumentsAt site source caret).2 caret).map (⟨k, ·⟩) ∧
      Answers site caret k s (active? (parse source) source caret signatures allowBeginnings) := by
  obtain ⟨site, hfind⟩ := exists_find? hcall
  obtain ⟨k, s, hleftmost, hactive⟩ := exists_activeAt?_eq site source caret allowBeginnings hne
  have hfound : active? (parse source) source caret signatures allowBeginnings =
      activeAt? site source caret signatures allowBeginnings := by
    rw [active?, hfind, Option.bind_some]
  rw [hfound]
  exact ⟨site, k, s, hfind, hleftmost, hactive, hactive ▸ answers_parameterAt? hfind k s⟩

/-- The first signature cannot take the argument implied at the caret; the other two fit equally well. -/
theorem active?_parse_tie :
    let source := "f(1, x = 2, ".toList
    let signatures : List Signature :=
      [⟨"f", [.of "a", .of "x"], none⟩, ⟨"f", [.of "a", .of "x", .of "..."], none⟩,
        ⟨"f", [.of "a", .of "b", .of "x"], none⟩]
    signatures ≠ [] ∧ (∃ site : Site, site.call ∈ (parse source).nodes ∧ Encloses 12 site) ∧
      active? (parse source) source 12 signatures true = some ⟨1, 2⟩ ∧
      ∃ site k s, find? (parse source) 12 = some site ∧
        Leftmost (rankAt site source 12 true) signatures (k, s) ∧
        active? (parse source) source 12 signatures true =
          (parameterAt? s (bind s (argumentsAt site source 12).1 true)
            (argumentsAt site source 12).1 (argumentsAt site source 12).2 12).map (⟨k, ·⟩) ∧
        Answers site 12 k s (active? (parse source) source 12 signatures true) := by
  intro source signatures
  have hne : signatures ≠ [] := List.cons_ne_nil _ _
  have hcall : ∃ site : Site, site.call ∈ (parse source).nodes ∧ Encloses 12 site := by
    have hsome : (siteAt? 12 ((parse source).nodes.get ⟨2, by decide +kernel⟩)).isSome = true := by
      decide +kernel
    obtain ⟨site, hsite⟩ := Option.isSome_iff_exists.1 hsome
    obtain ⟨hmem, hin⟩ := siteAt?_eq_some_iff.1 hsite
    exact ⟨site, hmem ▸ List.get_mem _ _, hin⟩
  exact ⟨hne, hcall, by decide +kernel, active?_parse source 12 signatures true hne hcall⟩

end RSource.Call
