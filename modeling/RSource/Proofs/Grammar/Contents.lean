import RSource.Grammar.Argument
import RSource.Grammar.Statement
import RSource.Proofs.Grammar.Place

/-!
# Recovery, statements and arguments stand in order

Given a reader whose expressions stand in order (`Reader.InOrder`), so do the errors of recovery, the
statements of a program or a block, and the arguments of a list.
-/

namespace RSource.Grammar
open RSource.Tree Cursor

variable {eof : Nat} {sub : Reader} {s s' : Cursor} {x : Lexeme} {xs : List Lexeme} {t : Tree}
  {ts : List Tree} {stops : Lexeme → Bool} {closer : Token.Kind} {context : Context} {power : Nat}

def Reader.InOrder (eof : Nat) (sub : Reader) : Prop :=
  ∀ {power : Nat} {context : Context} {s s' : Cursor} {t : Tree}, s.Ordered eof →
    sub.run power context s = some (t, s') → Reads eof s [t] s'

theorem reads_optional (hsub : sub.InOrder eof) (hs : s.Ordered eof) (power : Nat) (context : Context) :
    Reads eof s (optional sub power context s).1 (optional sub power context s).2 := by
  unfold optional
  split
  · rename_i t s' h
    exact hsub hs h
  · exact .refl hs

/-! ### Recovery -/

/-- Skipping keeps the order, and leaves a bracket open only at the end of the text. -/
theorem skipLoop_spec {depth last : Nat} (h : InOrder eof last xs) :
    (skipLoop stops depth last xs).2.Ordered eof ∧ last ≤ (skipLoop stops depth last xs).2.lastStop ∧
      (0 < (skipLoop stops depth last xs).1 → (skipLoop stops depth last xs).2.rest = []) := by
  induction xs generalizing depth last with
  | nil => exact ⟨h, Nat.le_refl _, fun _ => rfl⟩
  | cons x xs ih =>
    obtain ⟨h1, h2, h3⟩ := h
    rw [skipLoop]
    split
    · rename_i hd
      exact ⟨⟨h1, h2, h3⟩, Nat.le_refl _, fun hpos => absurd hd.1 (Nat.ne_of_gt hpos)⟩
    · obtain ⟨i1, i2, i3⟩ := @ih (depthAfter depth x) _ h3
      exact ⟨i1, Nat.le_trans h1 (Nat.le_trans h2 i2), i3⟩

theorem stands_errorTree {a : Nat} {unclosed : Bool} (h : s.Ordered eof) (ha : a ≤ s.lastStop)
    (hu : unclosed = true → s.rest = []) :
    Stands eof a (errorTree eof a s.lastStop unclosed) s := by
  cases unclosed with
  | false => exact .node h (forest_nil.2 ha) h.lastStop_le_reach
  | true =>
    have hr : s.reach eof = eof := reach_of_nil (hu rfl)
    exact .node h (forest_nil.2 (Nat.le_trans ha h.le)) (Nat.le_of_eq hr.symm)

theorem stands_skip (h : s.Ordered eof) (hs : s.rest = x :: xs) :
    Stands eof x.span.start (skip eof stops x xs).1 (skip eof stops x xs).2 := by
  obtain ⟨-, h2⟩ := h.next hs
  obtain ⟨i1, i2, i3⟩ :=
    @skipLoop_spec eof xs stops (if x.kind.isOpener then 1 else 0) x.span.stop h2.ordered
  exact stands_errorTree i1 (Nat.le_trans h2.start_le_stop i2) fun hu => i3 (by simpa using hu)

theorem reads_skip (h : s.Ordered eof) (hs : s.rest = x :: xs) :
    Reads eof s [(skip eof stops x xs).1] (skip eof stops x xs).2 :=
  (stands_skip h hs).reads (h.next hs).1

/-- Up to a closer, which is missing only at the end of the text. -/
theorem reads_expectCloser (h : s.Ordered eof) :
    Reads eof s (expectCloser eof closer s).2.1 (expectCloser eof closer s).2.2 ∧
      ((expectCloser eof closer s).1 = false → (expectCloser eof closer s).2.2.rest = []) := by
  unfold expectCloser
  split
  · rename_i hs
    exact ⟨.refl h, fun _ => hs⟩
  · rename_i x xs hs
    split
    · exact ⟨.advance h, nofun⟩
    · have hskip : Reads eof s _ (skip eof (·.kind == closer) x xs).2 := reads_skip h hs
      refine ⟨hskip.trans (.advance hskip.ordered), fun hclosed => ?_⟩
      have hnil : (skip eof (·.kind == closer) x xs).2.rest = [] := by simpa using hclosed
      dsimp only
      rwa [advance_of_nil hnil]

/-! ### Statements -/

/-- The statements stand in order, and behind them is the closer or the end of the text. -/
theorem reads_statements (hsub : sub.InOrder eof) (hs : s.Ordered eof) (context : Context)
    (closer : Option Token.Kind) :
    Reads eof s (statements eof sub context closer s).1 (statements eof sub context closer s).2 ∧
      ((statements eof sub context closer s).2.rest = [] ∨
        ∃ x xs, (statements eof sub context closer s).2.rest = x :: xs ∧ closer = some x.kind) := by
  fun_induction statements eof sub context closer s with
  | case1 s h => exact ⟨.refl hs, .inl h⟩
  | case2 s x xs h _ hx => exact ⟨.refl hs, .inr ⟨x, xs, h, hx⟩⟩
  | case3 s x xs h _ _ _ ih =>
    have hnext := Reads.next hs h
    obtain ⟨i1, i2⟩ := ih hnext.ordered
    exact ⟨hnext.trans i1, i2⟩
  | case4 s x xs h _ _ _ _ ts s' hst ih =>
    have hleaf := (Stands.leaf (hs.next h).2 (.error false)).reads (hs.next h).1
    rw [hst] at ih
    obtain ⟨i1, i2⟩ := ih hleaf.ordered
    exact ⟨hleaf.trans i1, i2⟩
  | case5 s x xs h _ _ _ _ he r _ ts s' hst ih =>
    have hskip : Reads eof s [r.1] r.2 := reads_skip hs h
    rw [hst] at ih
    obtain ⟨i1, i2⟩ := ih hskip.ordered
    exact ⟨hskip.trans i1, i2⟩
  | case6 s x xs h _ _ _ _ e after he _ statement ha => exact ⟨(hsub hs he).wrap, .inl ha⟩
  | case7 s x xs h _ _ _ _ e after he _ statement y ys ha hy ts s' hst ih =>
    have hstatement : Reads eof s [statement] after := (hsub hs he).wrap
    rw [hst] at ih
    obtain ⟨i1, i2⟩ := ih hstatement.ordered
    exact ⟨hstatement.trans i1, i2⟩
  | case8 s x xs h _ _ _ _ e after he _ statement y ys ha hy r _ ts s' hst ih =>
    have hstatement : Reads eof s [statement] after := (hsub hs he).wrap
    have hskip : Reads eof after [r.1] r.2 := reads_skip hstatement.ordered ha
    rw [hst] at ih
    obtain ⟨i1, i2⟩ := ih hskip.ordered
    exact ⟨hstatement.trans (hskip.trans i1), i2⟩

/-! ### Arguments -/

/-- An expression that is read and put into a node. -/
theorem reads_map_wrap (hsub : sub.InOrder eof) (hs : s.Ordered eof) {k : Tree.Kind}
    {f : Tree × Cursor → Tree × Cursor} (hf : ∀ v s₁, f (v, s₁) = (.node k v.span [v], s₁))
    (h : (sub.run power context s).map f = some (t, s')) : Reads eof s [t] s' := by
  obtain ⟨⟨value, s₁⟩, hrun, heq⟩ := Option.map_eq_some_iff.1 h
  rw [hf] at heq
  obtain ⟨rfl, rfl⟩ := Prod.mk.inj heq
  exact (hsub hs hrun).wrap

theorem reads_argument (hsub : sub.InOrder eof) (hs : s.Ordered eof)
    (h : argument sub s = some (t, s')) : Reads eof s [t] s' := by
  unfold argument at h
  split at h
  · rename_i x equals rest hrest
    split at h
    · obtain ⟨rfl, rfl⟩ := Prod.mk.inj (Option.some.inj h)
      obtain ⟨h1, hx⟩ := hs.next hrest
      obtain ⟨h2, hequals⟩ := hx.ordered.next rfl
      have hname : x.span.stop ≤ equals.span.stop :=
        Nat.le_trans hx.stop_le_reach (Nat.le_trans h2 hequals.start_le_stop)
      have hvalue := reads_optional hsub hequals.ordered argumentPower .bracket
      exact (hvalue.node_cons hequals.stop_le_reach (sound_leaf hx.start_le_stop) hname).reads h1
    · exact reads_map_wrap hsub hs (fun _ _ => rfl) h
  · exact reads_map_wrap hsub hs (fun _ _ => rfl) h

theorem Reads.adopt {u : Tree} {s'' : Cursor} (h : Reads eof s [t] s') (h' : Reads eof s' [u] s'') :
    Reads eof s [t.adopt u] s'' := by
  obtain ⟨h1, h2, h3⟩ := forest_cons.1 h.forest
  obtain ⟨i1, i2, i3⟩ := forest_cons.1 h'.forest
  have htu : t.span.stop ≤ u.span.start := Nat.le_trans (forest_nil.1 h3) i1
  refine ⟨h'.ordered, forest_singleton h1 (h2.adopt i2 htu) ?_⟩
  exact Nat.max_le.2 ⟨Nat.le_trans (forest_nil.1 h3) h'.reach_le, forest_nil.1 i3⟩

/-- What a slot holds stands in order, and an empty slot takes nothing. -/
theorem reads_slot (hsub : sub.InOrder eof) (hs : s.Ordered eof) :
    Reads eof s (slot eof sub closer s).1.toList (slot eof sub closer s).2 ∧
      ((slot eof sub closer s).1 = none → (slot eof sub closer s).2 = s) := by
  unfold slot
  split
  · exact ⟨.refl hs, fun _ => rfl⟩
  · rename_i x xs hrest
    split
    · exact ⟨.refl hs, fun _ => rfl⟩
    · split
      · exact ⟨(reads_skip hs hrest).wrap, nofun⟩
      · rename_i a s' ha
        have hargument := reads_argument hsub hs ha
        split
        · exact ⟨hargument, nofun⟩
        · rename_i y ys hy
          split
          · exact ⟨hargument, nofun⟩
          · exact ⟨hargument.adopt (reads_skip hargument.ordered hy), nofun⟩

/-- The argument of a slot stands before the lexeme behind it, also where nothing was written. -/
theorem forest_slot (hsub : sub.InOrder eof) (hs : s.Ordered eof)
    (hrest : (slot eof sub closer s).2.rest = x :: xs) :
    Forest (s.reach eof) x.span.start
      [(slot eof sub closer s).1.getD (.leaf (.argument false) ⟨s.lastStop, x.span.start⟩)] := by
  obtain ⟨hslot, hnone⟩ := @reads_slot eof sub s closer hsub hs
  obtain ⟨h1, -⟩ := hslot.ordered.next hrest
  have hforest := hslot.forest.le_stop h1
  cases hopt : (slot eof sub closer s).1 with
  | none =>
    -- nothing was taken, so the empty argument stands between two lexemes
    rw [hnone hopt] at hrest h1
    have hreach : s.reach eof = s.lastStop := by rw [reach, if_neg (by simp [hrest])]
    rw [hreach] at h1 ⊢
    exact forest_singleton (Nat.le_refl _) (sound_leaf h1) (Nat.le_refl _)
  | some t =>
    rw [hopt] at hforest
    exact hforest

/-- The arguments stand in order before the end of the list: the closer, which is missing only at the
end of the text. -/
theorem slots_spec (hsub : sub.InOrder eof) {start : Nat} (hs : s.Ordered eof)
    (hstart : start = s.lastStop) :
    (slots eof sub closer start s).2.Ordered eof ∧
      Forest (s.reach eof)
        (if (slots eof sub closer start s).1.closed then (slots eof sub closer start s).2.lastStop else eof)
        (slots eof sub closer start s).1.arguments ∧
      ((slots eof sub closer start s).1.closed = false → (slots eof sub closer start s).2.rest = []) := by
  fun_induction slots eof sub closer start s with
  | case1 start s r hr =>
    have hslot : Reads eof s r.1.toList r.2 := (reads_slot hsub hs).1
    have hforest := hslot.forest
    rw [reach_of_nil hr] at hforest
    exact ⟨hslot.ordered, hforest, fun _ => hr⟩
  | case2 start s r x xs hr hx =>
    have hslot : Reads eof s r.1.toList r.2 := (reads_slot hsub hs).1
    obtain ⟨h1, h2⟩ := hslot.ordered.next hr
    exact ⟨h2.ordered, hslot.forest.le_stop (Nat.le_trans h1 h2.start_le_stop), fun h => by cases h⟩
  | case3 start s r x xs hr hx _ more s' hm first ih =>
    have hslot : Reads eof s r.1.toList r.2 := (reads_slot hsub hs).1
    obtain ⟨h1, h2⟩ := hslot.ordered.next hr
    obtain ⟨i1, i2, i3⟩ := ih h2.ordered rfl
    rw [hm] at i1 i2 i3
    have hfirst : Forest (s.reach eof) x.span.start [first] := by
      subst hstart
      exact forest_slot hsub hs hr
    exact ⟨i1, (hfirst.le_stop h2.start_le_reach).append i2, i3⟩

/-- An argument list stands behind its opener and ends with its closer, which is missing only at the
end of the text. -/
theorem argumentList_spec (hsub : sub.InOrder eof) {opener : Lexeme} (hs : Behind eof opener s) :
    Stands eof opener.span.start (argumentList eof sub closer opener s).1
        (argumentList eof sub closer opener s).2 ∧
      (argumentList eof sub closer opener s).1.span.stop =
        (if isClosedList (argumentList eof sub closer opener s).1 then
          (argumentList eof sub closer opener s).2.lastStop else eof) ∧
      (isClosedList (argumentList eof sub closer opener s).1 = false →
        (argumentList eof sub closer opener s).2.rest = []) := by
  obtain ⟨h1, h2, h3⟩ := @slots_spec _ _ _ closer hsub _ hs.ordered hs.stop_eq
  unfold argumentList
  refine ⟨.node h1 (h2.start_le hs.start_le_reach) ?_, rfl, h3⟩
  split
  · exact h1.lastStop_le_reach
  · rename_i hopen
    exact Nat.le_of_eq (reach_of_nil (h3 (by simpa using hopen))).symm

/-- An object before its argument list, with or without a second closer. -/
theorem Stands.index {a : Nat} {object list : Tree} {double paired : Bool} (hobject : object.Sound)
    (hlist : Stands eof a list s) (ha : object.span.stop ≤ a)
    (hstop : list.span.stop = if isClosedList list then s.lastStop else eof)
    (hopen : isClosedList list = false → s.rest = []) :
    Stands eof object.span.start
      (.node (.index double)
        ⟨object.span.start,
          if isClosedList list then (if paired then s.advance else s).lastStop else eof⟩
        [object, list])
      (if paired then s.advance else s) := by
  have hread : Reads eof s [] (if paired then s.advance else s) := by
    split
    · exact .advance hlist.ordered
    · exact .refl hlist.ordered
  have hforest : Forest object.span.start list.span.stop [object, list] :=
    forest_cons.2 ⟨Nat.le_refl _, hobject,
      forest_singleton (hlist.start_eq ▸ ha) hlist.sound (Nat.le_refl _)⟩
  cases hclosed : isClosedList list with
  | true =>
    rw [hclosed] at hstop
    have hle : s.lastStop ≤ (if paired then s.advance else s).lastStop := by
      split
      · exact hlist.ordered.lastStop_le_advance
      · exact Nat.le_refl _
    exact .node hread.ordered (hforest.le_stop (Nat.le_trans (Nat.le_of_eq hstop) hle))
      hread.ordered.lastStop_le_reach
  | false =>
    rw [hclosed] at hstop
    have hrest := hopen hclosed
    rw [advance_of_nil hrest, ite_self]
    exact .node hlist.ordered (hforest.le_stop (Nat.le_of_eq hstop)) (Nat.le_of_eq (reach_of_nil hrest).symm)

theorem stands_index (hsub : sub.InOrder eof) {opener : Lexeme} {object : Tree}
    (hs : Behind eof opener s) (hobject : object.Sound) (hle : object.span.stop ≤ opener.span.start) :
    Stands eof object.span.start (index eof sub object opener s).1 (index eof sub object opener s).2 := by
  unfold index
  dsimp only
  split
  · rename_i y hy
    obtain ⟨ys, hys, -⟩ := rest_of_head?_filter hy
    obtain ⟨h1, hy'⟩ := hs.ordered.next hys
    rw [advance_of_cons hys]
    obtain ⟨i1, i2, i3⟩ := argumentList_spec hsub hy'
    exact .index hobject i1 (Nat.le_trans hle (Nat.le_trans hs.start_le_reach h1)) i2 i3
  · obtain ⟨i1, i2, i3⟩ := argumentList_spec hsub hs
    exact .index hobject i1 hle i2 i3

end RSource.Grammar
