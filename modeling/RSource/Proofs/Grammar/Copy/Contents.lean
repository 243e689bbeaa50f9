import RSource.Proofs.Grammar.Copy.Guard

/-!
# Arguments and statements of a copy

Given a reader of expressions that reads the copy alike, so are the arguments of a list and the statements of a
program or a block. A list that was closed ends before the end of the copied lexemes, and so does a block; the
statements of a program go on in what comes behind them (`statements_place`).
-/

namespace RSource.Grammar

open RSource.Tree Cursor

/-- The slots with their offsets moved by `f`. -/
def Slots.relocate (f : Nat → Nat) (r : Slots) : Slots :=
  ⟨r.arguments.map (Tree.relocate f), r.separators.map f, r.closed⟩

theorem isClosedList_relocate (f : Nat → Nat) (t : Tree) : isClosedList (t.relocate f) = isClosedList t := by
  rw [isClosedList, kind_relocate, isClosedList]
  cases t.kind <;> rfl

namespace Copy
open Guard

variable {c : Copy} {g : c.Guard} {n : Nat} {sub' : Reader} {s s' : Cursor} {x : Lexeme} {xs : List Lexeme}
  {context : Context} {closer : Token.Kind} {object : Tree}

/-! ### Arguments -/

theorem not_isOperator_of_barrier (hx : x.IsBarrier) : x.isOperator "=" = false := by
  rcases hx with ⟨-, htext⟩ | hkind | hkind
  · simp [Lexeme.isOperator, htext]
  · simp [Lexeme.isOperator, hkind]
  · simp [Lexeme.isOperator, hkind]

theorem not_canName_of_barrier (hx : x.IsBarrier) : x.canName = false := by
  rcases hx with ⟨hkind, -⟩ | hkind | hkind <;> simp [Lexeme.canName, Lexeme.isWord, hkind]

theorem isNamed_of_barrier (h : ∀ x ∈ xs.head?, x.IsBarrier) : isNamed xs = false := by
  cases xs with
  | nil => rfl
  | cons x xs => rw [isNamed_cons, not_canName_of_barrier (h x rfl), Bool.false_and]

theorem isNamed_place (hs : c.Here s) : isNamed (c.place s).rest = isNamed s.rest := by
  rcases hs.cases with ⟨x, xs, hin⟩ | hend
  · have hequals : (c.place ⟨xs, x.span.stop⟩).rest.head?.any (Lexeme.isOperator · "=") =
        xs.head?.any (Lexeme.isOperator · "=") := hin.here.any_head? (fun _ _ _ => rfl) fun x hx =>
      ⟨not_isOperator_of_barrier hx, not_isOperator_of_barrier hx⟩
    rw [hin.place, hin.rest, isNamed_cons, isNamed_cons, hequals]
    rfl
  · rw [isNamed_of_barrier hend.old, isNamed_of_barrier hend.new]

/-- The name and the `=` of a named argument are copied. -/
theorem inside_of_isNamed (hs : c.Here s) (hnamed : isNamed s.rest = true) :
    ∃ x equals xs, c.Inside s x (equals :: xs) ∧ c.Inside ⟨equals :: xs, x.span.stop⟩ equals xs := by
  obtain ⟨x, equals, xs, hrest, hx, hequals⟩ := exists_of_isNamed hnamed
  have hin : c.Inside s x (equals :: xs) := by
    refine hs.inside_of_not_barrier hrest fun hbarrier => ?_
    rw [not_canName_of_barrier hbarrier] at hx
    cases hx
  refine ⟨x, equals, xs, hin, hin.here.inside_of_not_barrier rfl fun hbarrier => ?_⟩
  rw [not_isOperator_of_barrier hbarrier] at hequals
  cases hequals

theorem argument_place (h : g.Agrees n sub') (hdeep : g.Deep n) (hs : c.Here s)
    (hg : ∀ r ∈ argument (reader c.eof n) s, g.Holds n .bracket s r.1.children r.2) :
    argument sub' (c.place s) = (argument (reader c.eof n) s).map c.pair := by
  have hsame := isNamed_place hs
  cases hnamed : isNamed s.rest with
  | false =>
    rw [argument_of_not_named hnamed] at hg ⊢
    rw [argument_of_not_named (hsame.trans hnamed)]
    cases hrun : (reader c.eof n).run argumentPower .bracket s with
    | none =>
      rw [h.none hdeep hs hrun]
      rfl
    | some r =>
      rw [hrun] at hg
      rw [h.some hs hrun (hg _ rfl)]
      simp [pair, Kind.relocate]
  | true =>
    obtain ⟨x, equals, xs, hx, hequals⟩ := inside_of_isNamed hs hnamed
    have hplace : (c.place s).rest = c.lexeme x :: c.lexeme equals :: (c.place ⟨xs, equals.span.stop⟩).rest := by
      rw [hx.place]
      exact congrArg _ hequals.place
    rw [argument_of_named hx.rest hnamed] at hg ⊢
    rw [argument_of_named hplace (hsame.trans hnamed)]
    have hvalue : optional sub' argumentPower .bracket
        ⟨(c.place ⟨xs, equals.span.stop⟩).rest, (c.lexeme equals).span.stop⟩ =
          c.several (optional (reader c.eof n) argumentPower .bracket ⟨xs, equals.span.stop⟩) := by
      refine optional_place h hequals.here (g.inner (hg _ rfl) ?_ List.suffix_rfl (List.subset_cons_self _ _))
      rw [hx.rest]
      exact (List.suffix_cons equals xs).trans (List.suffix_cons x _)
    have hname : (c.lexeme x).leaf (if x.kind = .identifier then .identifier else .literal) = _ :=
      leaf_lexeme (by split <;> rfl)
    rw [hvalue, several, kind_lexeme, hname]
    simp [pair, lastStopD_map, Kind.relocate, Span.relocate]

theorem slot_place (h : g.Agrees n sub') (hdeep : g.Deep n) (hs : c.Here s)
    (hend : c.IsLast ∨ c.tail.length < (slot c.eof (reader c.eof n) closer s).2.remaining)
    (hg : g.Holds (n + 1) .bracket s (slot c.eof (reader c.eof n) closer s).1.toList
      (slot c.eof (reader c.eof n) closer s).2) :
    slot c.newEof sub' closer (c.place s) =
      ((slot c.eof (reader c.eof n) closer s).1.map (relocate c.move),
        c.place (slot c.eof (reader c.eof n) closer s).2) := by
  have hlt : ∀ {m}, c.IsLast ∨ c.tail.length < m → c.tail.length < m ∨ c.tail = [] := fun h =>
    h.symm.imp_right IsLast.tail
  cases hrest : s.rest with
  | nil =>
    have hlast : c.IsLast := hend.resolve_right (by simp [slot, hrest, remaining])
    simp [slot, hrest, hlast.place_of_nil hrest]
  | cons x xs =>
    have hin : c.Inside s x xs := hs.inside_of_lt hrest (hlt hend) (remaining_slot_le ..)
    by_cases hx : endsSlot closer x = true
    · have hx' : endsSlot closer (c.lexeme x) = true := hx
      simp [slot, hrest, hin.place, hx, hx']
    have hx' : ¬ endsSlot closer (c.lexeme x) = true := hx
    have hargument := argument_place h hdeep hs
    cases ha : argument (reader c.eof n) s with
    | none =>
      rw [ha] at hargument
      simp only [slot, hrest, hx, ha] at hend
      have hskip := skip_place hin (fun _ _ _ _ => rfl) (hend.imp_right .inl)
      simp only [slot, hrest, hin.place, hx, hx', ha, hargument (by simp), Option.map_none, hskip]
      simp [pair, Kind.relocate]
    | some r =>
      obtain ⟨a, s'⟩ := r
      have hyields : (reader c.eof n).Yielding c.eof c.all := yielding_reader c.eof c.all n
      have hplace : s'.PlaceOf c.all := (yields_argument hyields hs.place ha).2.place
      rw [ha] at hargument
      -- the argument is part of the one in the slot
      have hpart : ∀ {b : Tree} {s'' : Cursor}, slot c.eof (reader c.eof n) closer s = (some b, s'') →
          a.children ⊆ b.children → s''.rest <:+ s'.rest →
          c.Here s' ∧ argument sub' (c.place s) = some (c.pair (a, s')) := by
        intro b s'' hslot hchildren hsuffix
        rw [hslot] at hg
        have hpart := g.below hg List.suffix_rfl hsuffix hchildren
        refine ⟨here hpart hplace, hargument fun r hr => ?_⟩
        cases hr
        exact hpart
      cases hrest' : s'.rest with
      | nil =>
        have hslot : slot c.eof (reader c.eof n) closer s = (some a, s') := by simp [slot, hrest, hx, ha, hrest']
        rw [hslot] at hend ⊢
        have hlast : c.IsLast := hend.resolve_right (by simp [remaining, hrest'])
        have hread := (hpart hslot (List.Subset.refl _) List.suffix_rfl).2
        simp [slot, hin.place, hx', hread, pair, hlast.place_of_nil hrest']
      | cons y ys =>
        by_cases hy : endsSlot closer y = true
        · have hy' : endsSlot closer (c.lexeme y) = true := hy
          have hslot : slot c.eof (reader c.eof n) closer s = (some a, s') := by
            simp [slot, hrest, hx, ha, hrest', hy]
          rw [hslot] at hend ⊢
          obtain ⟨hhere, hread⟩ := hpart hslot (List.Subset.refl _) List.suffix_rfl
          have hin' := hhere.inside_of_lt hrest' (hlt hend) (Nat.le_refl _)
          simp [slot, hin.place, hx', hread, pair, hin'.place, hy']
        · have hy' : ¬ endsSlot closer (c.lexeme y) = true := hy
          have hslot : slot c.eof (reader c.eof n) closer s =
              (some (a.adopt (skip c.eof (endsSlot closer) y ys).1), (skip c.eof (endsSlot closer) y ys).2) := by
            simp [slot, hrest, hx, ha, hrest', hy]
          have hskipped : Passage c.eof c.all s' [(skip c.eof (endsSlot closer) y ys).1] _ :=
            passage_skip hplace c.inOrder hrest'
          have hsuffix := hskipped.suffix
          rw [hslot] at hend ⊢
          obtain ⟨hhere, hread⟩ := hpart hslot (List.subset_append_left ..) hsuffix
          have hin' := hhere.inside_of_lt hrest' (hlt hend) hsuffix.length_le
          have hskip := skip_place hin' (fun _ _ _ _ => rfl) (hend.imp_right .inl)
          simp [slot, hin.place, hx', hread, pair, hin'.place, hy', hskip, relocate_adopt]

theorem slots_place (h : g.Agrees n sub') (hdeep : g.Deep n) (start : Nat) (hs : c.Here s)
    (hclosed : c.IsLast ∨ (slots c.eof (reader c.eof n) closer start s).1.closed = true)
    (hg : g.Holds (n + 1) .bracket s (slots c.eof (reader c.eof n) closer start s).1.arguments
      (slots c.eof (reader c.eof n) closer start s).2) :
    slots c.newEof sub' closer (c.move start) (c.place s) =
      ((slots c.eof (reader c.eof n) closer start s).1.relocate c.move,
        c.place (slots c.eof (reader c.eof n) closer start s).2) := by
  have hyields : (reader c.eof n).Yielding c.eof c.all := yielding_reader c.eof c.all n
  fun_induction slots c.eof (reader c.eof n) closer start s with
  | case1 start s r hr =>
    have hlast : c.IsLast := hclosed.resolve_right (by simp)
    have hslot := slot_place h hdeep hs (.inl hlast) hg
    rw [slots_of_nil (by rw [hslot]; exact hlast.place_of_nil hr), hslot]
    simp [Slots.relocate, r, Option.toList_map]
  | case2 start s r x xs hr hx =>
    have hsuffix : xs <:+ r.2.rest := hr ▸ List.suffix_cons x xs
    have hlt : c.tail.length < r.2.remaining := by
      rw [remaining, hr]
      exact Nat.lt_succ_of_le (g.le hg)
    have hslot := slot_place h hdeep hs (.inr hlt)
      (g.inner hg List.suffix_rfl hsuffix (List.Subset.refl _))
    have hhere : c.Here r.2 := ⟨(yields_slot hyields hs.place).place, Nat.le_of_lt hlt⟩
    rw [slots_of_cons (by rw [hslot]; exact (hhere.inside hr (g.le hg)).place), kind_lexeme, if_pos hx, hslot]
    simp only [Slots.relocate, r, Option.toList_map]
    rfl
  | case3 start s r x xs hr hx _ more s' hm first ih =>
    have hplace : r.2.PlaceOf c.all := (yields_slot hyields hs.place).place
    have hbehind : Cursor.PlaceOf c.all ⟨xs, x.span.stop⟩ := hplace.next hr
    have hcons : xs <:+ r.2.rest := hr ▸ List.suffix_cons x xs
    have hsuffix : s'.rest <:+ xs := by
      have hend := (@yields_slots c.eof _ _ closer _ hyields x.span.stop hbehind).place
      have hle := remaining_slots_le c.eof (reader c.eof n) closer x.span.stop ⟨xs, x.span.stop⟩
      rw [hm] at hend hle
      exact suffix_of_le hbehind hend hle
    have hle : c.tail.length ≤ xs.length := Nat.le_trans (g.le hg) hsuffix.length_le
    have hlt : c.tail.length < r.2.remaining := by
      rw [remaining, hr]
      exact Nat.lt_succ_of_le hle
    have hslot := slot_place h hdeep hs (.inr hlt) <| g.inner hg List.suffix_rfl (hsuffix.trans hcons) fun u hu => by
      have hopt : r.1 = some u := Option.mem_toList.1 hu
      simp [first, hopt]
    have hin := Here.inside ⟨hplace, Nat.le_of_lt hlt⟩ hr hle
    rw [hm] at ih
    have hmore : slots c.newEof sub' closer (c.lexeme x).span.stop
        ⟨(c.place ⟨xs, x.span.stop⟩).rest, (c.lexeme x).span.stop⟩ = _ :=
      ih hin.here hclosed <| g.inner hg
        (hcons.trans (suffix_of_le hs.place hplace (remaining_slot_le c.eof (reader c.eof n) closer s)))
        List.suffix_rfl (List.subset_cons_self _ _)
    rw [slots_of_cons (by rw [hslot]; exact hin.place), kind_lexeme, if_neg hx, hslot, hmore]
    have hgetD : ((slot c.eof (reader c.eof n) closer s).1.map (relocate c.move)).getD
        (.leaf (.argument false) ⟨c.move start, c.move x.span.start⟩) = first.relocate c.move := by
      cases hr1 : r.1 with
      | none => simp [first, r, hr1, leaf, Kind.relocate, Span.relocate]
      | some t => simp [first, r, hr1]
    simp [Slots.relocate, Span.relocate, hgetD]

/-- An argument list was closed, or nothing comes behind it in the copy. -/
theorem closed_of_argumentList {opener : Lexeme}
    (h : (argumentList c.eof (reader c.eof n) closer opener s).1.kind.isOpen = true → c.IsLast) :
    c.IsLast ∨ isClosedList (argumentList c.eof (reader c.eof n) closer opener s).1 = true := by
  cases hclosed : (slots c.eof (reader c.eof n) closer opener.span.stop s).1.closed with
  | true => exact .inr (by simpa [argumentList, isClosedList, Tree.kind] using hclosed)
  | false => exact .inl (h (by simpa [argumentList, Tree.kind, Kind.isOpen] using hclosed))

theorem argumentList_place {opener : Lexeme} (h : g.Agrees n sub') (hs : c.Here s)
    (hb : g.Behind n context s (argumentList c.eof (reader c.eof n) closer opener s).1
      (argumentList c.eof (reader c.eof n) closer opener s).2) :
    argumentList c.newEof sub' closer (c.lexeme opener) (c.place s) =
      c.pair (argumentList c.eof (reader c.eof n) closer opener s) := by
  have hclosed : c.IsLast ∨ (slots c.eof (reader c.eof n) closer opener.span.stop s).1.closed = true :=
    closed_of_argumentList hb.last
  have hslots : slots c.newEof sub' closer (c.lexeme opener).span.stop (c.place s) = _ :=
    slots_place h (deep hb.bracket) opener.span.stop hs hclosed (g.succ hb.bracket)
  rw [argumentList, hslots]
  rcases hclosed with hlast | hclosed
  · simp only [argumentList, pair, Slots.relocate, relocate_node, Span.relocate, Kind.relocate, hlast.newEof, place,
      span_lexeme]
    cases (slots c.eof (reader c.eof n) closer opener.span.stop s).1.closed <;> rfl
  · simp [argumentList, pair, Slots.relocate, Span.relocate, Kind.relocate, hclosed, place]

theorem place_argumentList (hs : s.PlaceOf c.all) (n : Nat) (closer : Token.Kind) (opener : Lexeme) :
    (argumentList c.eof (reader c.eof n) closer opener s).2.PlaceOf c.all :=
  (yields_slots (yielding_reader c.eof c.all n) hs).place

theorem innerBracket?_place {opener : Lexeme} (hopener : opener ∈ c.all) (hs : c.Here s) :
    innerBracket? (c.lexeme opener) (c.place s) = (innerBracket? opener s).map c.lexeme := by
  refine hs.filter_head? (fun y ys hin => ?_) fun y hy => ?_
  · exact congrArg _ (c.touch opener hopener y (hs.place.mem hin.rest))
  · simp [beq_kind_of_barrier (k := .openBracket) hy (by decide)]

theorem closeIndex_place {double : Bool} {r : Tree × Cursor} (hs : c.Here r.2)
    (hlt : r.2.remaining < c.all.length) (hclosed : c.IsLast ∨ isClosedList r.1 = true) :
    closeIndex c.newEof (object.relocate c.move) double (c.pair r) = c.pair (closeIndex c.eof object double r) := by
  obtain ⟨list, s⟩ := r
  obtain ⟨P, last, hall, hstop⟩ := hs.place.exists_last hlt
  have hlast : last ∈ c.all := by simp [hall]
  have hbarrier : ∀ (d : Nat) (y : Lexeme), y.IsBarrier →
      (y.kind == .closeBracket && y.span.start == d) = false := by
    intro d y hy
    rw [beq_kind_of_barrier hy (by decide), Bool.false_and]
  have hany : ((c.place s).rest.head?.any fun y => y.kind == .closeBracket && y.span.start == (c.place s).lastStop) =
      s.rest.head?.any fun y => y.kind == .closeBracket && y.span.start == s.lastStop := by
    refine hs.any_head? (fun y ys hin => ?_) fun y hy => ⟨hbarrier _ y hy, hbarrier _ y hy⟩
    have htouch := c.touch last hlast y (hs.place.mem hin.rest)
    rw [← hstop] at htouch
    exact congrArg _ htouch
  have hbehind : ∀ b : Bool,
      (if double && b && s.rest.head?.any fun y => y.kind == .closeBracket && y.span.start == s.lastStop then
        (c.place s).advance else c.place s) =
      c.place (if double && b && s.rest.head?.any fun y =>
        y.kind == .closeBracket && y.span.start == s.lastStop then s.advance else s) := by
    intro b
    split
    · next hpaired => exact (hs.advance_of_any (hbarrier s.lastStop) (Bool.and_eq_true_iff.1 hpaired).2).2
    · rfl
  simp only [closeIndex, pair, isClosedList_relocate, hany, hbehind, span_relocate]
  rcases hclosed with hlast | hclosed
  · rw [hlast.newEof]
    cases isClosedList list <;> simp [Span.relocate, Kind.relocate, place]
  · have hclosed : isClosedList list = true := hclosed
    simp [hclosed, Span.relocate, Kind.relocate, place]

/-- An index expression behind the opener of its list. -/
theorem closeIndex_argumentList_place {double : Bool} {y : Lexeme} {list : Tree × Cursor}
    (h : g.Agrees n sub') (hs : c.Here s) (hlt : s.remaining < c.all.length)
    (hlist : argumentList c.eof (reader c.eof n) .closeBracket y s = list)
    (hg : g.Holds n .bracket s (closeIndex c.eof object double list).1.children
      (closeIndex c.eof object double list).2) :
    closeIndex c.newEof (object.relocate c.move) double
        (argumentList c.newEof sub' .closeBracket (c.lexeme y) (c.place s)) =
      c.pair (closeIndex c.eof object double list) := by
  have hsuffix : (closeIndex c.eof object double list).2.rest <:+ list.2.rest := by
    unfold closeIndex
    dsimp only
    split
    · exact suffix_advance _
    · exact List.suffix_rfl
  have hpart : g.Holds n .bracket s [list.1] list.2 :=
    g.inner hg List.suffix_rfl hsuffix (List.subset_cons_self _ _)
  have hb := behind (g.succ hpart) (.refl hs.place c.inOrder)
  subst hlist
  rw [argumentList_place h hs hb]
  exact closeIndex_place (here hpart (place_argumentList hs.place ..))
    (Nat.lt_of_le_of_lt (remaining_argumentList_le ..) hlt) (closed_of_argumentList hb.last)

theorem index_place (h : g.Agrees n sub') (hs : c.Here s) (hin : c.Inside s x xs)
    (hg : g.Holds n .bracket ⟨xs, x.span.stop⟩ (index c.eof (reader c.eof n) object x ⟨xs, x.span.stop⟩).1.children
      (index c.eof (reader c.eof n) object x ⟨xs, x.span.stop⟩).2) :
    index c.newEof sub' (object.relocate c.move) (c.lexeme x) (c.place ⟨xs, x.span.stop⟩) =
      c.pair (index c.eof (reader c.eof n) object x ⟨xs, x.span.stop⟩) := by
  have hlt : xs.length < c.all.length :=
    Nat.lt_of_lt_of_le (by simp [hin.rest]) hs.place.suffix.length_le
  rw [index_eq] at hg ⊢
  rw [index_eq, innerBracket?_place (hs.place.mem hin.rest) hin.here]
  cases hinner : innerBracket? x ⟨xs, x.span.stop⟩ with
  | none =>
    rw [hinner] at hg
    exact closeIndex_argumentList_place h hin.here hlt rfl hg
  | some y =>
    rw [hinner] at hg
    obtain ⟨hhead, hy⟩ := Option.filter_eq_some_iff.1 hinner
    have hopen : Cursor.isAt ⟨xs, x.span.stop⟩ .openBracket = true := by
      rw [Cursor.isAt, hhead]
      exact (Bool.and_eq_true_iff.1 hy).1
    obtain ⟨hhere, hadvance⟩ := hin.here.advance_of_any
      (fun z hz => beq_kind_of_barrier hz (by decide)) hopen
    simp only [Option.map_some, Option.isSome_some, hadvance]
    exact closeIndex_argumentList_place h hhere (Nat.lt_of_le_of_lt (remaining_advance_le _) hlt) rfl
      (later hg (Passage.refl hin.here.place c.inOrder).advanced)

/-! ### Statements -/

variable {closer? : Option Token.Kind}

/-- The trees that were read, in the copy, and the statements behind them. -/
def resume (c : Copy) (sub' : Reader) (context : Context) (closer? : Option Token.Kind)
    (r : List Tree × Cursor) : List Tree × Cursor :=
  (r.1.map (relocate c.move) ++ (statements c.newEof sub' context closer? (c.place r.2)).1,
    (statements c.newEof sub' context closer? (c.place r.2)).2)

theorem endsStatement_lexeme (h : c.keeps x = true) : endsStatement closer? (c.lexeme x) = endsStatement closer? x := by
  simp [endsStatement, Lexeme.isOperator, newlineBefore_lexeme h]

theorem endsStatement_semicolon (h : x.isOperator ";" = true) : endsStatement closer? x = true := by
  simp [endsStatement, h]

theorem skip_statement_place (hin : c.Inside s x xs) (hs : s.PlaceOf c.all) (hcontext : context ≠ .bracket)
    (hend : c.tail.length < (skip c.eof (endsStatement closer?) x xs).2.remaining ∨ c.tail = [])
    (hg : g.Holds n context s [(skip c.eof (endsStatement closer?) x xs).1]
      (skip c.eof (endsStatement closer?) x xs).2) :
    skip c.newEof (endsStatement closer?) (c.lexeme x) (c.place ⟨xs, x.span.stop⟩).rest =
      c.pair (skip c.eof (endsStatement closer?) x xs) := by
  refine skip_place hin (fun P hP y hy => ?_) ?_
  · exact endsStatement_lexeme (g.skipped hg hcontext hs (hin.rest.trans (congrArg _ hP)) y hy)
  · cases hopen : (skip c.eof (endsStatement closer?) x xs).1.kind.isOpen with
    | true => exact .inl (g.last hg hopen)
    | false =>
      refine .inr (hend.imp_right fun htail => ⟨htail, rfl, fun y hy => ?_⟩)
      exact endsStatement_semicolon (c.semicolon htail y hy)

theorem statements_lexeme (hin : c.Inside s x xs) : statements c.newEof sub' context closer? (c.place s) =
    if closer? = some x.kind then ([], c.place s)
    else if x.isOperator ";" then statements c.newEof sub' context closer? (c.place ⟨xs, x.span.stop⟩)
    else if x.kind.isCloser then
      ((x.leaf (.error false)).relocate c.move ::
          (statements c.newEof sub' context closer? (c.place ⟨xs, x.span.stop⟩)).1,
        (statements c.newEof sub' context closer? (c.place ⟨xs, x.span.stop⟩)).2)
    else
      match sub'.run 0 context (c.place s) with
      | none =>
        let r := skip c.newEof (endsStatement closer?) (c.lexeme x) (c.place ⟨xs, x.span.stop⟩).rest
        (r.1 :: (statements c.newEof sub' context closer? r.2).1, (statements c.newEof sub' context closer? r.2).2)
      | some (e, s') =>
        following c.newEof sub' context closer? (.node .expressionStatement e.span [e]) s' := by
  rw [statements_of_cons hin.place]
  rfl

/-- Statements go on in what comes behind them in the copy, if nothing did before. -/
theorem statements_place (h : g.Agrees n sub') (hdeep : g.Deep n) (hcontext : context ≠ .bracket) (hs : c.Here s)
    (hend : c.tail.length < (statements c.eof (reader c.eof n) context closer? s).2.remaining ∨ c.tail = [])
    (hg : g.Holds (n + 1) context s (statements c.eof (reader c.eof n) context closer? s).1
      (statements c.eof (reader c.eof n) context closer? s).2) :
    statements c.newEof sub' context closer? (c.place s) =
      c.resume sub' context closer? (statements c.eof (reader c.eof n) context closer? s) := by
  have hall := c.inOrder
  have hle := remaining_statements_le c.eof (reader c.eof n) context closer? s
  fun_induction statements c.eof (reader c.eof n) context closer? s with
  | case1 s hrest => simp [resume]
  | case2 s x xs hrest _ hx => simp [resume]
  | case3 s x xs hrest _ hx hsemi ih =>
    have hin := hs.inside_of_lt hrest hend hle
    rw [statements_lexeme hin, if_neg hx, if_pos hsemi]
    exact ih hin.here hend (later hg (passage_next hs.place hall hrest)) (remaining_statements_le ..)
  | case4 s x xs hrest _ hx hsemi hstray ts s' hst ih =>
    have hin := hs.inside_of_lt hrest hend hle
    have hleaf : Passage c.eof c.all s [x.leaf (.error false)] ⟨xs, x.span.stop⟩ :=
      passage_leaf hs.place hall hrest (.inr (.inr rfl))
    have hmore := remaining_statements_le c.eof (reader c.eof n) context closer? ⟨xs, x.span.stop⟩
    rw [hst] at ih hmore
    rw [statements_lexeme hin, if_neg hx, if_neg hsemi, if_pos hstray, ih hin.here hend (others hg hleaf) hmore]
    simp [resume]
  | case5 s x xs hrest _ hx hsemi hstray he r _ ts s' hst ih =>
    have hin := hs.inside_of_lt hrest hend hle
    have hskip : Passage c.eof c.all s [r.1] r.2 := passage_skip hs.place hall hrest
    have hmore := passage_statements n hskip.end hall context closer?
    rw [hst] at ih hmore
    have hfirst := first hg hmore
    have hjunk : skip c.newEof (endsStatement closer?) (c.lexeme x) (c.place ⟨xs, x.span.stop⟩).rest = c.pair r :=
      skip_statement_place hin hs.place hcontext
        (hend.imp_left (Nat.lt_of_lt_of_le · hmore.suffix.length_le)) hfirst
    rw [statements_lexeme hin, if_neg hx, if_neg hsemi, if_neg hstray, h.none hdeep hs he]
    dsimp only
    rw [hjunk, pair, ih (here hfirst hskip.end) hend (others hg hskip) hmore.suffix.length_le]
    simp [resume]
  | case6 s x xs hrest _ hx hsemi hstray e after he _ statement ha =>
    -- Here the text ends; in the copy a `;` may be next, and it ends the statement as well.
    have htail : c.tail = [] := hend.resolve_left (by simp [remaining, ha])
    have hin := hs.inside_of_lt hrest hend hle
    rw [statements_lexeme hin, if_neg hx, if_neg hsemi, if_neg hstray, h.some hs he (g.children hg rfl)]
    dsimp only [pair]
    rw [following, rest_place_of_nil ha]
    cases hnew : c.newTail with
    | nil =>
      have hnil : (c.place after).rest = [] := by rw [rest_place_of_nil ha, hnew]
      simp [resume, statements_of_nil hnil, statement, Kind.relocate]
    | cons y ys =>
      have hy : endsStatement closer? y = true :=
        endsStatement_semicolon (c.semicolon htail y (by rw [hnew]; rfl))
      simp [resume, hy, statement, Kind.relocate]
  | case7 s x xs hrest _ hx hsemi hstray e after he hlt statement y ys ha hy ts s' hst ih =>
    have hin := hs.inside_of_lt hrest hend hle
    have hexpression := passage_run hs.place hall he
    have hmore := passage_statements n hexpression.end hall context closer?
    rw [hst] at ih hmore
    have hfirst := g.children (first hg hmore) rfl
    have hafter := here hfirst hexpression.end
    have hin' := hafter.inside_of_lt ha hend hmore.suffix.length_le
    have hy' : endsStatement closer? (c.lexeme y) = true :=
      (endsStatement_lexeme (g.next hfirst hcontext hexpression hlt ha)).trans hy
    rw [statements_lexeme hin, if_neg hx, if_neg hsemi, if_neg hstray, h.some hs he hfirst]
    dsimp only [pair]
    rw [following, hin'.place]
    simp only [hy', if_true, ih hafter hend (others hg hexpression.statement) hmore.suffix.length_le]
    simp [resume, statement, Kind.relocate]
  | case8 s x xs hrest _ hx hsemi hstray e after he hlt statement y ys ha hy r _ ts s' hst ih =>
    have hin := hs.inside_of_lt hrest hend hle
    have hexpression := passage_run hs.place hall he
    have hskip : Passage c.eof c.all after [r.1] r.2 := passage_skip hexpression.end hall ha
    have hmore := passage_statements n hskip.end hall context closer?
    rw [hst] at ih hmore
    have hfirst := g.children (first hg (hskip.trans hmore)) rfl
    have hafter := here hfirst hexpression.end
    have hin' := hafter.inside_of_lt ha hend (hmore.suffix.trans hskip.suffix).length_le
    have hy' : endsStatement closer? (c.lexeme y) = false :=
      (endsStatement_lexeme (g.next hfirst hcontext hexpression hlt ha)).trans (Bool.eq_false_iff.2 hy)
    have hbehind := others hg hexpression.statement
    have hsecond := first hbehind hmore
    have hjunk : skip c.newEof (endsStatement closer?) (c.lexeme y) (c.place ⟨ys, y.span.stop⟩).rest = c.pair r :=
      skip_statement_place hin' hexpression.end hcontext
        (hend.imp_left (Nat.lt_of_lt_of_le · hmore.suffix.length_le)) hsecond
    rw [statements_lexeme hin, if_neg hx, if_neg hsemi, if_neg hstray, h.some hs he hfirst]
    dsimp only [pair]
    rw [following, hin'.place]
    simp only [hy', hjunk, pair, ih (here hsecond hskip.end) hend (others hbehind hskip) hmore.suffix.length_le]
    simp [resume, statement, Kind.relocate]

/-- Statements up to a closer that is copied, or with nothing behind them. -/
theorem statements_place_closed (h : g.Agrees n sub') (hdeep : g.Deep n) (hcontext : context ≠ .bracket)
    (hs : c.Here s)
    (hend : c.IsLast ∨ c.tail.length < (statements c.eof (reader c.eof n) context closer? s).2.remaining)
    (hg : g.Holds (n + 1) context s (statements c.eof (reader c.eof n) context closer? s).1
      (statements c.eof (reader c.eof n) context closer? s).2) :
    statements c.newEof sub' context closer? (c.place s) =
      c.several (statements c.eof (reader c.eof n) context closer? s) := by
  have hend' := hend.symm.imp_right IsLast.tail
  have hplace := (passage_statements n hs.place c.inOrder context closer?).end
  rw [statements_place h hdeep hcontext hs hend' hg, resume]
  have hbehind : statements c.newEof sub' context closer?
      (c.place (statements c.eof (reader c.eof n) context closer? s).2) =
        ([], c.place (statements c.eof (reader c.eof n) context closer? s).2) := by
    rcases rest_statements c.eof (reader c.eof n) context closer? s with hnil | ⟨x, xs, hrest, hcloser⟩
    · exact statements_of_nil ((hend.resolve_right (by simp [remaining, hnil])).place_of_nil hnil)
    · rw [statements_lexeme ((here hg hplace).inside_of_lt hrest hend' (Nat.le_refl _)), if_pos hcloser]
  rw [hbehind, List.append_nil, several]

end Copy

end RSource.Grammar
