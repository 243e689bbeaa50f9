import Mathlib.Data.List.Basic
import RSource.Call.Site
import RSource.Proofs.Grammar.Soundness
import RSource.Proofs.Tree.Path
import RSource.Proofs.Tree.Relocate

/-!
# The innermost call around a caret

The search for a call does not look at all calls: it goes down to one innermost node at the caret and back
up. No call is missed that way, since the argument list around the caret starts before it, and so every
such call stands on the path (`Encloses.getElem?_pathTo`). What is found is the deepest one of them, and
nothing is found only where there is none (`find?_parse`).
-/

namespace RSource.Call
open RSource.Tree

variable {caret d : Nat} {t : Tree} {site : Site}

/-- The caret stands in the argument list of the call: behind the opener, and before the closer if there
is one. -/
def Encloses (caret : Nat) (site : Site) : Prop :=
  site.call.kind = .call ∧ site.call.callParts? = some (site.callee, site.arguments) ∧
    ∃ closed commas, site.arguments.kind = .argumentList closed commas ∧
      site.arguments.span.start < caret ∧
      if closed then caret < site.arguments.span.stop else caret ≤ site.arguments.span.stop

theorem callParts?_eq_some {callee list : Tree} (h : t.callParts? = some (callee, list)) :
    list ∈ t.children ∧ list.kind.isArgumentList = true := by
  unfold callParts? at h
  split at h
  · rename_i hchildren
    split at h
    · obtain ⟨rfl, rfl⟩ := Prod.mk.inj (Option.some.inj h)
      exact ⟨by simp [hchildren], ‹_›⟩
    · cases h
  · rename_i hchildren
    split at h
    · obtain ⟨rfl, rfl⟩ := Prod.mk.inj (Option.some.inj h)
      exact ⟨by simp [hchildren], ‹_›⟩
    · cases h
  · cases h

theorem isInside_iff {closed : Bool} {commas : List Nat} (h : t.kind = .argumentList closed commas) :
    isInside caret t = true ↔
      t.span.start < caret ∧ if closed then caret < t.span.stop else caret ≤ t.span.stop := by
  unfold isInside
  rw [h]
  cases closed <;> simp

theorem siteAt?_eq_some_iff : siteAt? caret t = some site ↔ site.call = t ∧ Encloses caret site := by
  unfold siteAt?
  constructor
  · intro h
    split at h
    · rename_i hcall
      obtain ⟨⟨callee, list⟩, hparts, hsite⟩ := Option.bind_eq_some_iff.1 h
      dsimp only at hsite
      split at hsite
      · rename_i hin
        cases hsite
        obtain ⟨-, hlist⟩ := callParts?_eq_some hparts
        unfold Kind.isArgumentList at hlist
        split at hlist
        · rename_i closed commas hkind
          exact ⟨rfl, hcall, hparts, closed, commas, hkind, (isInside_iff hkind).1 hin⟩
        · cases hlist
      · cases hsite
    · cases h
  · rintro ⟨rfl, hcall, hparts, closed, commas, hkind, hin⟩
    rw [if_pos hcall, hparts, Option.bind_some]
    exact if_pos ((isInside_iff hkind).2 hin)

/-- The call starts before the caret and reaches to it. -/
theorem Encloses.span (h : Encloses caret site) (hs : site.call.Sound) :
    site.call.span.start < caret ∧ caret ≤ site.call.span.stop := by
  obtain ⟨-, hparts, closed, commas, -, hstart, hstop⟩ := h
  have hmem : (1, site.arguments) ∈ outlineForest 1 site.call.children :=
    (outline_of_mem 1 (callParts?_eq_some hparts).1).1
  obtain ⟨h1, h2⟩ := Forest.span_of_mem_outline (sound_iff.1 hs) hmem
  dsimp only at h1 h2
  have hle : caret ≤ site.arguments.span.stop := by
    split at hstop <;> omega
  omega

/-- A call around the caret is on the path to the caret. -/
theorem Encloses.getElem?_pathTo (h : Encloses caret site) (hs : t.Sound)
    (hmem : (d, site.call) ∈ t.outline) : (t.pathTo caret)[d]? = some site.call := by
  obtain ⟨h1, h2⟩ := h.span (hs.of_mem_outline hmem)
  exact (hs.getElem?_pathTo hmem h1 h2).2

theorem Encloses.le_stop (h : Encloses caret site) (hs : t.Sound) (hmem : (d, site.call) ∈ t.outline) :
    caret ≤ t.span.stop :=
  Nat.le_trans (h.span (hs.of_mem_outline hmem)).2 (hs.span_of_mem_outline hmem).2

/-- In a sound tree the search finds a call exactly if it is the deepest one around the caret. -/
theorem find?_eq_some_iff (hs : t.Sound) (hcaret : caret ≤ t.span.stop) :
    find? t caret = some site ↔ ∃ d, (d, site.call) ∈ t.outline ∧ Encloses caret site ∧
      ∀ d' site', (d', site'.call) ∈ t.outline → Encloses caret site' → d' ≤ d := by
  rw [find?, if_neg (Nat.not_lt.2 hcaret), List.findSome?_eq_some_iff]
  constructor
  · rintro ⟨below, call, above, hpath, hsite, hnone⟩
    obtain ⟨rfl, hin⟩ := siteAt?_eq_some_iff.1 hsite
    have hpath : t.pathTo caret = above.reverse ++ site.call :: below.reverse := by
      simpa using congrArg List.reverse hpath
    have hat : (t.pathTo caret)[above.reverse.length]? = some site.call := by simp [hpath]
    have hmem := mem_outline_of_pathTo (n := 0) hat
    rw [Nat.zero_add] at hmem
    refine ⟨_, hmem, hin, fun d' site' hmem' hin' => ?_⟩
    -- a deeper one would have been met first
    by_contra hdeep
    have hat' := hin'.getElem?_pathTo hs hmem'
    rw [hpath, List.getElem?_append_right (by omega), List.getElem?_cons,
      if_neg (by omega)] at hat'
    have hbelow : site'.call ∈ below := List.mem_reverse.1 (List.mem_of_getElem? hat')
    have hsome := siteAt?_eq_some_iff.2 ⟨rfl, hin'⟩
    rw [hnone _ hbelow] at hsome
    cases hsome
  · rintro ⟨d, hmem, hin, hdeepest⟩
    have hat := hin.getElem?_pathTo hs hmem
    obtain ⟨hlt, hget⟩ := List.getElem?_eq_some_iff.1 hat
    have hpath : t.pathTo caret = (t.pathTo caret).take d ++ site.call :: (t.pathTo caret).drop (d + 1) := by
      rw [← hget, List.getElem_cons_drop, List.take_append_drop]
    refine ⟨((t.pathTo caret).drop (d + 1)).reverse, site.call, ((t.pathTo caret).take d).reverse, ?_,
      siteAt?_eq_some_iff.2 ⟨rfl, hin⟩, fun u hu => ?_⟩
    · conv_lhs => rw [hpath]
      simp
    · -- what stands below is no call around the caret
      obtain ⟨i, hi⟩ := List.mem_iff_getElem?.1 (List.mem_reverse.1 hu)
      rw [List.getElem?_drop] at hi
      have hmem' := mem_outline_of_pathTo (n := 0) hi
      cases hsite : siteAt? caret u with
      | none => rfl
      | some site' =>
        obtain ⟨rfl, hin'⟩ := siteAt?_eq_some_iff.1 hsite
        have hle := hdeepest _ site' hmem' hin'
        omega

theorem find?_eq_none_iff (hs : t.Sound) (hcaret : caret ≤ t.span.stop) :
    find? t caret = none ↔ ∀ site, site.call ∈ t.nodes → ¬ Encloses caret site := by
  rw [find?, if_neg (Nat.not_lt.2 hcaret), List.findSome?_eq_none_iff]
  constructor
  · intro h site hmem hin
    obtain ⟨⟨d, u⟩, hmem, rfl⟩ := List.mem_map.1 hmem
    have hpath := List.mem_of_getElem? (hin.getElem?_pathTo hs hmem)
    have hsome := siteAt?_eq_some_iff.2 ⟨rfl, hin⟩
    rw [h _ (List.mem_reverse.2 hpath)] at hsome
    cases hsome
  · intro h u hu
    obtain ⟨i, hi⟩ := List.mem_iff_getElem?.1 (List.mem_reverse.1 hu)
    cases hsite : siteAt? caret u with
    | none => rfl
    | some site =>
      obtain ⟨rfl, hin⟩ := siteAt?_eq_some_iff.1 hsite
      exact absurd hin (h site (List.mem_map_of_mem (mem_outline_of_pathTo (n := 0) hi)))

/-- In the tree of a text, the call found at a caret is the deepest one around it, with its callee and its
argument list; none is found exactly if no call of the tree is around the caret or the caret stands behind
the text. -/
theorem find?_parse (source : Text) (caret : Nat) :
    (∀ site, find? (Grammar.parse source) caret = some site ↔
      ∃ d, (d, site.call) ∈ (Grammar.parse source).outline ∧ Encloses caret site ∧
        ∀ d' site', (d', site'.call) ∈ (Grammar.parse source).outline → Encloses caret site' → d' ≤ d) ∧
    (find? (Grammar.parse source) caret = none ↔
      (∀ site, site.call ∈ (Grammar.parse source).nodes → ¬ Encloses caret site) ∨
        source.byteLength < caret) := by
  have hs := Grammar.sound_parse source
  by_cases hcaret : caret ≤ source.byteLength
  · refine ⟨fun site => find?_eq_some_iff hs hcaret, ?_⟩
    rw [find?_eq_none_iff hs hcaret, or_iff_left (by omega)]
  · -- behind the text there is no call and none is looked for
    have hnone : find? (Grammar.parse source) caret = none := if_pos (Nat.not_le.1 hcaret)
    have hout : ∀ {d site}, (d, site.call) ∈ (Grammar.parse source).outline → ¬ Encloses caret site := by
      intro d site hmem hin
      exact hcaret (hin.le_stop hs hmem)
    refine ⟨fun site => ?_, iff_of_true hnone (.inr (Nat.not_le.1 hcaret))⟩
    rw [hnone]
    refine iff_of_false nofun ?_
    rintro ⟨d, hmem, hin, -⟩
    exact hout hmem hin

end RSource.Call
