import Mathlib.Data.List.Nodup
import RSource.Call.Active
import RSource.Proofs.Grammar.Slots

/-!
# The slots of an argument list

The slot of an offset is the number of commas before it. Since arguments and commas take turns, the
arguments stand in the slots one after the other (`map_slotOf`), and a slot without an argument can only
be the last one, behind all arguments that are written (`stop_lt_of_behind`). So the argument that is
implied at a caret comes after all others (`slotted_parse`).
-/

namespace RSource.Call
open RSource.Tree RSource.Grammar

variable {a b c caret k m : Nat} {commas : List Nat} {ts : List Tree} {source : Text}
  {arguments : List Argument}

/-! ### Counting commas -/

theorem slotOf_cons_of_lt (h : c < caret) : slotOf (c :: commas) caret = slotOf commas caret + 1 := by
  simp [slotOf, h]

theorem slotOf_eq_zero (h : ∀ c ∈ commas, caret ≤ c) : slotOf commas caret = 0 := by
  simpa [slotOf] using h

theorem slotOf_le (commas : List Nat) (caret : Nat) : slotOf commas caret ≤ commas.length :=
  List.length_filter_le ..

theorem slotOf_eq_length_iff : slotOf commas caret = commas.length ↔ ∀ c ∈ commas, c < caret := by
  simp [slotOf]

theorem slotOf_of_le_start {t : Tree} (h : Alternate b a commas (t :: ts)) (hcaret : caret ≤ t.span.start) :
    slotOf commas caret = 0 := by
  cases h with
  | last => rfl
  | comma h more =>
    obtain ⟨-, ht, hc⟩ := forest_cons.1 h
    have hle := Nat.le_trans hcaret (Nat.le_trans ht.start_le_stop (forest_nil.1 hc))
    refine slotOf_eq_zero (List.forall_mem_cons.2 ⟨hle, fun d hd => ?_⟩)
    exact Nat.le_trans hle (Nat.le_of_succ_le (more.le_of_mem hd))

theorem map_slotOf (h : Alternate b a commas ts) :
    ts.map (fun t => slotOf commas t.span.start) = List.range ts.length := by
  induction h with
  | none => rfl
  | last => rfl
  | @comma a c t commas ts h more ih =>
    have hfirst : slotOf (c :: commas) t.span.start = 0 :=
      slotOf_of_le_start (.comma h more) (Nat.le_refl _)
    -- all further trees stand behind the first comma
    have hrest : ts.map (fun u => slotOf (c :: commas) u.span.start) =
        (ts.map fun u => slotOf commas u.span.start).map Nat.succ := by
      rw [List.map_map]
      exact List.map_congr_left fun u hu => slotOf_cons_of_lt (more.span_of_mem hu).1
    rw [List.map_cons, hfirst, hrest, ih, List.length_cons, List.range_succ_eq_map]

/-- Where nothing stands behind the last comma, all trees end before an offset behind the commas. -/
theorem stop_lt_of_behind (h : Alternate b a commas ts) (hlength : ts.length = commas.length)
    (hbehind : ∀ c ∈ commas, c < caret) : ∀ t ∈ ts, t.span.stop < caret := by
  induction h with
  | none => exact List.forall_mem_nil _
  | last => cases hlength
  | comma h _ ih =>
    obtain ⟨hc, hmore⟩ := List.forall_mem_cons.1 hbehind
    have hstop := forest_nil.1 (forest_cons.1 h).2.2
    exact List.forall_mem_cons.2 ⟨Nat.lt_of_le_of_lt hstop hc, ih (Nat.succ.inj hlength) hmore⟩

/-- An offset is in the slot of an argument or in the last slot, which has none. -/
theorem slotOf_cases (h : Alternate b a commas ts) (caret : Nat) :
    slotOf commas caret < ts.length ∨ slotOf commas caret = commas.length ∧ ts.length = commas.length := by
  have hle := slotOf_le commas caret
  rcases h.length_eq with hlength | hlength <;> omega

/-! ### The argument at a caret -/

theorem map_slot_writtenArguments (list : Tree) (source : Text) :
    (writtenArguments list source).map (·.slot) =
      list.arguments.map fun t => slotOf list.separators t.span.start := by
  rw [writtenArguments, List.map_map]
  rfl

theorem findIdx?_slot (h : arguments.map (·.slot) = List.range m) (k : Nat) :
    arguments.findIdx? (·.slot == k) = if k < m then some k else none := by
  have hmap : arguments.findIdx? (·.slot == k) = (List.range m).findIdx? (· == k) := by
    rw [← h, List.findIdx?_map]
    rfl
  rw [hmap]
  split
  · rename_i hk
    refine List.findIdx?_eq_some_iff_getElem.2 ⟨by simpa using hk, by simp, fun j hj => ?_⟩
    simp only [List.getElem_range, beq_iff_eq]
    omega
  · rename_i hk
    refine List.findIdx?_eq_none_iff.2 fun j hj => ?_
    have hlt := List.mem_range.1 hj
    simp only [beq_eq_false_iff_ne]
    omega

theorem countP_slot (h : arguments.map (·.slot) = List.range m) (hk : k < m) :
    arguments.countP (·.slot == k) = 1 := by
  have hmap : arguments.countP (·.slot == k) = (arguments.map (·.slot)).count k := by
    rw [List.count, List.countP_map]
    rfl
  rw [hmap, h]
  exact List.count_eq_one_of_mem List.nodup_range (List.mem_range.2 hk)

/-- The arguments of a call are those written and, for a caret in an empty last slot, one more. -/
theorem argumentsAt_eq (site : Site)
    (h : (writtenArguments site.arguments source).map (·.slot) = List.range m) :
    argumentsAt site source caret =
      if slotOf site.arguments.separators caret < m then
        (writtenArguments site.arguments source, slotOf site.arguments.separators caret)
      else (writtenArguments site.arguments source ++
        [⟨slotOf site.arguments.separators caret, none, caret⟩], m) := by
  have hlength : (writtenArguments site.arguments source).length = m := by
    simpa using congrArg List.length h
  by_cases hslot : slotOf site.arguments.separators caret < m
  · simp only [argumentsAt, findIdx?_slot h, if_pos hslot]
  · simp only [argumentsAt, findIdx?_slot h, if_neg hslot, hlength]

/-- The slots of an argument list in the tree of `source`. -/
structure Slotted (source : Text) (list : Tree) : Prop where
  increasing : list.separators.Pairwise (· < ·)
  /-- The commas are tokens inside the list. -/
  token : ∀ c ∈ list.separators, ∃ token ∈ Token.tokenizeAll source,
    token.kind = .comma ∧ token.start = c ∧ list.span.start < c ∧ token.stop ≤ list.span.stop
  length_le : list.separators.length ≤ list.arguments.length
  le_length : list.arguments.length ≤ list.separators.length + 1
  lt_start : ∀ (i : Nat) (t : Tree) (c : Nat), list.arguments[i + 1]? = some t →
    list.separators[i]? = some c → c < t.span.start
  stop_le : ∀ (i : Nat) (t : Tree) (c : Nat), list.arguments[i]? = some t →
    list.separators[i]? = some c → t.span.stop ≤ c
  /-- The arguments stand in the slots one after the other. -/
  slots : (writtenArguments list source).map (·.slot) = List.range list.arguments.length
  /-- A slot has one argument, except that the last one may have none. -/
  one : ∀ caret, (writtenArguments list source).countP (·.slot == slotOf list.separators caret) = 1 ∨
    slotOf list.separators caret = list.separators.length ∧
      list.arguments.length = list.separators.length
  /-- The argument that is implied at a caret in an empty slot comes behind all that are written. -/
  implied : ∀ (site : Site) (caret : Nat), site.arguments = list →
    if slotOf list.separators caret < list.arguments.length then
      argumentsAt site source caret = (writtenArguments list source, slotOf list.separators caret)
    else
      argumentsAt site source caret =
          (writtenArguments list source ++ [⟨list.separators.length, none, caret⟩],
            list.arguments.length) ∧
        ∀ t ∈ list.arguments, t.span.stop < caret

theorem slots_of_alternate {list : Tree} (h : Alternate b a list.separators list.arguments)
    (source : Text) :
    (writtenArguments list source).map (·.slot) = List.range list.arguments.length :=
  (map_slot_writtenArguments list source).trans (map_slotOf h)

/-- In every argument list of the tree of a text, of a call, an index or a function, the slots hold the
arguments one by one, whatever else stands between the commas. -/
theorem slotted_parse (source : Text) (list : Tree) (hmem : list ∈ (parse source).nodes)
    (hlist : list.kind.isArgumentList = true) : Slotted source list := by
  obtain ⟨h, htokens⟩ := alternate_of_mem_parse hmem hlist
  have hslots := slots_of_alternate h source
  refine ⟨h.pairwise, fun c hc => ?_, ?_, ?_, fun _ _ _ ht hc => h.lt_start ht hc,
    fun _ _ _ ht hc => h.stop_le ht hc, hslots, fun caret => ?_, fun site caret hsite => ?_⟩
  · obtain ⟨token, htoken, hkind, hstart, hstop⟩ := htokens c hc
    exact ⟨token, htoken, hkind, hstart, h.le_of_mem hc, hstop⟩
  · rcases h.length_eq with hlength | hlength <;> omega
  · rcases h.length_eq with hlength | hlength <;> omega
  · exact (slotOf_cases h caret).imp (countP_slot hslots) id
  · subst hsite
    rw [argumentsAt_eq site hslots]
    rcases slotOf_cases h caret with hlt | ⟨hslot, hlength⟩
    · rw [if_pos hlt, if_pos hlt]
    · rw [if_neg (by omega), if_neg (by omega), hslot]
      exact ⟨rfl, stop_lt_of_behind h hlength (slotOf_eq_length_iff.1 hslot)⟩

/-- An empty slot, junk with a comma in braces, commas of an inner call, and nothing behind the last one. -/
theorem slotted_parse_unclosed :
    let source := "f(a, , b {x, y} c, g(1, 2), ".toList
    ∃ list ∈ (parse source).nodes, list.kind = .argumentList false [3, 5, 17, 26] ∧
      list.arguments.map (·.span) = [⟨2, 3⟩, ⟨4, 5⟩, ⟨7, 17⟩, ⟨19, 26⟩] ∧ Slotted source list := by
  intro source
  have hmem := List.get_mem (parse source).nodes ⟨4, by decide +kernel⟩
  exact ⟨_, hmem, by decide +kernel, by decide +kernel, slotted_parse source _ hmem (by decide +kernel)⟩

end RSource.Call
