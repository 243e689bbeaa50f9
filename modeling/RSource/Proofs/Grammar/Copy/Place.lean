import Mathlib.Order.MinMax
import RSource.Proofs.Grammar.Lexemes
import RSource.Proofs.Grammar.Passage

/-!
# The lexemes of a text in another text

Lexemes of a text come again in another text (`Copy`): at other offsets, which are in the same order, and some
of them without the line break before them. What comes behind them may be different, as long as nothing there
goes on with an expression: it starts with a `;`, a comma or a closing parenthesis in both texts, or the text
ends.

Every place up to the end of these lexemes has its place in the copy (`Copy.place`). Here that is shown to agree
with passing a lexeme, with spans and with recovery.
-/

namespace RSource.Grammar
open RSource.Tree Cursor

/-- Lexemes that come again in another text. `all` are the lexemes from the first of them on and `tail` those
behind them, in whose place `newTail` comes in the copy. Offsets are moved by `move`, which keeps their order,
and lexemes that touch go on to touch. `keeps` tells before which lexemes a line break is kept. -/
structure Copy where
  all : List Lexeme
  tail : List Lexeme
  newTail : List Lexeme
  eof : Nat
  newEof : Nat
  move : Nat → Nat
  keeps : Lexeme → Bool
  inOrder : InOrder eof 0 all
  suffix : tail <:+ all
  ends : ∀ y ∈ tail.head?, y.IsBarrier
  newEnds : ∀ y ∈ newTail.head?, y.IsBarrier
  semicolon : tail = [] → ∀ y ∈ newTail.head?, y.isOperator ";" = true
  monotone : Monotone move
  touch : ∀ x ∈ all, ∀ y ∈ all, (move y.span.start == move x.span.stop) = (y.span.start == x.span.stop)

namespace Copy

variable {c : Copy} {s s' : Cursor} {x : Lexeme} {xs : List Lexeme} {ts : List Tree} {k : Tree.Kind}
  {p p' : Lexeme → Bool}

def lexeme (c : Copy) (x : Lexeme) : Lexeme :=
  { x.relocate c.move with newlineBefore := x.newlineBefore && c.keeps x }

@[simp] theorem kind_lexeme (x : Lexeme) : (c.lexeme x).kind = x.kind := rfl

@[simp] theorem text_lexeme (x : Lexeme) : (c.lexeme x).text = x.text := rfl

@[simp] theorem span_lexeme (x : Lexeme) : (c.lexeme x).span = x.span.relocate c.move := rfl

theorem newlineBefore_lexeme (h : c.keeps x = true) : (c.lexeme x).newlineBefore = x.newlineBefore := by
  simp [lexeme, h]

theorem lexeme_of_keeps (h : c.keeps x = true) : c.lexeme x = x.relocate c.move := by
  simp [lexeme, Lexeme.relocate, h]

/-- The copy ends where the lexemes do, and so does the text. -/
structure IsLast (c : Copy) : Prop where
  tail : c.tail = []
  newTail : c.newTail = []
  newEof : c.newEof = c.move c.eof

def place (c : Copy) (s : Cursor) : Cursor :=
  ⟨(s.rest.take (s.remaining - c.tail.length)).map c.lexeme ++ c.newTail, c.move s.lastStop⟩

def pair (c : Copy) (r : Tree × Cursor) : Tree × Cursor :=
  (r.1.relocate c.move, c.place r.2)

def several (c : Copy) (r : List Tree × Cursor) : List Tree × Cursor :=
  (r.1.map (relocate c.move), c.place r.2)

/-! ### Places -/

structure Here (c : Copy) (s : Cursor) : Prop where
  place : s.PlaceOf c.all
  le : c.tail.length ≤ s.remaining

/-- The next lexeme is one of those that are copied. -/
structure Inside (c : Copy) (s : Cursor) (x : Lexeme) (xs : List Lexeme) : Prop where
  rest : s.rest = x :: xs
  here : c.Here ⟨xs, x.span.stop⟩
  place : (c.place s).rest = c.lexeme x :: (c.place ⟨xs, x.span.stop⟩).rest

/-- Here the lexemes end, and no expression goes on in either text. -/
structure AtEnd (c : Copy) (s : Cursor) : Prop where
  old : ∀ y ∈ s.rest.head?, y.IsBarrier
  new : ∀ y ∈ (c.place s).rest.head?, y.IsBarrier

theorem place_append (c : Copy) (V : List Lexeme) (last : Nat) :
    c.place ⟨V ++ c.tail, last⟩ = ⟨V.map c.lexeme ++ c.newTail, c.move last⟩ := by
  simp [Copy.place, remaining]

theorem place_of_tail (h : c.tail = []) (s : Cursor) :
    c.place s = ⟨s.rest.map c.lexeme ++ c.newTail, c.move s.lastStop⟩ := by
  simp [Copy.place, h, remaining]

theorem IsLast.place_eq (h : c.IsLast) (s : Cursor) : c.place s = ⟨s.rest.map c.lexeme, c.move s.lastStop⟩ := by
  rw [place_of_tail h.tail, h.newTail, List.append_nil]

theorem IsLast.place_of_nil (h : c.IsLast) (hs : s.rest = []) : (c.place s).rest = [] := by
  rw [h.place_eq, hs, List.map_nil]

theorem Here.exists_append (hs : c.Here s) : ∃ V, s.rest = V ++ c.tail := by
  obtain ⟨V, hV⟩ := List.suffix_of_suffix_length_le c.suffix hs.place.suffix hs.le
  exact ⟨V, hV.symm⟩

theorem Here.inside (hs : c.Here s) (hrest : s.rest = x :: xs) (hle : c.tail.length ≤ xs.length) :
    c.Inside s x xs := by
  refine ⟨hrest, ⟨hs.place.next hrest, hle⟩, ?_⟩
  have hlength : (x :: xs).length - c.tail.length = xs.length - c.tail.length + 1 := by
    rw [List.length_cons]
    omega
  simp only [Copy.place, remaining, hrest, hlength, List.take_succ_cons, List.map_cons, List.cons_append]

/-- The next lexeme is copied if what is read from here on ends before the end of the copied ones. -/
theorem Here.inside_of_lt {n : Nat} (hs : c.Here s) (hrest : s.rest = x :: xs)
    (hlt : c.tail.length < n ∨ c.tail = []) (hn : n ≤ s.remaining) : c.Inside s x xs := by
  refine hs.inside hrest ?_
  rw [remaining, hrest, List.length_cons] at hn
  rcases hlt with hlt | hnil
  · omega
  · simp [hnil]

theorem Here.cases (hs : c.Here s) : (∃ x xs, c.Inside s x xs) ∨ c.AtEnd s := by
  obtain ⟨V, hV⟩ := hs.exists_append
  cases V with
  | cons x V => exact .inl ⟨x, V ++ c.tail, hs.inside hV (by simp)⟩
  | nil =>
    refine .inr ⟨hV ▸ c.ends, ?_⟩
    have hplace : (c.place s).rest = c.newTail := by simp [Copy.place, remaining, hV]
    exact hplace ▸ c.newEnds

theorem rest_place_of_nil (h : s.rest = []) : (c.place s).rest = c.newTail := by
  simp [Copy.place, h]

/-- A lexeme at which an expression may go on is one of those that are copied. -/
theorem Here.inside_of_not_barrier (hs : c.Here s) (hrest : s.rest = x :: xs) (hx : ¬ x.IsBarrier) :
    c.Inside s x xs := by
  rcases hs.cases with ⟨y, ys, h⟩ | h
  · obtain ⟨rfl, rfl⟩ := List.cons.inj (h.rest.symm.trans hrest)
    exact h
  · exact absurd (h.old x (by rw [hrest]; rfl)) hx

/-- A test of the next lexeme that no barrier passes. -/
theorem Here.filter_head? (hs : c.Here s) (hcopy : ∀ x xs, c.Inside s x xs → p' (c.lexeme x) = p x)
    (hbarrier : ∀ x : Lexeme, x.IsBarrier → p x = false ∧ p' x = false) :
    (c.place s).rest.head?.filter p' = (s.rest.head?.filter p).map c.lexeme := by
  rcases hs.cases with ⟨x, xs, hin⟩ | hend
  · rw [hin.place, hin.rest, List.head?_cons, List.head?_cons, Option.filter_some, Option.filter_some,
      hcopy x xs hin]
    split <;> rfl
  · have hold : s.rest.head?.filter p = none :=
      Option.filter_eq_none_iff.2 fun x hx => by simp [(hbarrier x (hend.old x hx)).1]
    have hnew : (c.place s).rest.head?.filter p' = none :=
      Option.filter_eq_none_iff.2 fun x hx => by simp [(hbarrier x (hend.new x hx)).2]
    rw [hold, hnew]
    rfl

theorem Here.any_head? (hs : c.Here s) (hcopy : ∀ x xs, c.Inside s x xs → p' (c.lexeme x) = p x)
    (hbarrier : ∀ x : Lexeme, x.IsBarrier → p x = false ∧ p' x = false) :
    (c.place s).rest.head?.any p' = s.rest.head?.any p := by
  rw [← Option.isSome_filter, ← Option.isSome_filter, hs.filter_head? hcopy hbarrier, Option.isSome_map]

/-- Passing a lexeme before the end of the copied ones. -/
theorem Here.advance (hs : c.Here s) (h : c.IsLast ∨ c.tail.length < s.remaining) :
    c.Here s.advance ∧ (c.place s).advance = c.place s.advance := by
  cases hrest : s.rest with
  | nil =>
    have hlast : c.IsLast := h.resolve_right (by simp [remaining, hrest])
    rw [advance_of_nil hrest, advance_of_nil (hlast.place_of_nil hrest)]
    exact ⟨hs, rfl⟩
  | cons x xs =>
    have hin : c.Inside s x xs := by
      refine hs.inside hrest ?_
      rcases h with hlast | hlt
      · simp [hlast.tail]
      · rw [remaining, hrest, List.length_cons] at hlt
        exact Nat.le_of_lt_succ hlt
    rw [advance_of_cons hrest, advance_of_cons hin.place]
    exact ⟨hin.here, rfl⟩

theorem Here.advance_of_any (hs : c.Here s) (hbarrier : ∀ x : Lexeme, x.IsBarrier → p x = false)
    (h : s.rest.head?.any p = true) : c.Here s.advance ∧ (c.place s).advance = c.place s.advance := by
  refine hs.advance (.inr ?_)
  rcases hs.cases with ⟨x, xs, hin⟩ | hend
  · rw [remaining, hin.rest]
    exact Nat.lt_succ_of_le hin.here.le
  · cases hrest : s.rest with
    | nil => simp [hrest] at h
    | cons x xs =>
      rw [hrest, List.head?_cons, Option.any_some, hbarrier x (hend.old x (by rw [hrest]; rfl))] at h
      cases h

theorem Here.isAt {k : Token.Kind} (hs : c.Here s) (hk : k = .openParen ∨ k = .closeBrace) :
    (c.place s).isAt k = s.isAt k ∧
      (s.isAt k = true → c.Here s.advance ∧ (c.place s).advance = c.place s.advance) := by
  have hbarrier : ∀ x : Lexeme, x.IsBarrier → (x.kind == k) = false := by
    intro x hx
    rcases hk with rfl | rfl <;> exact beq_kind_of_barrier hx (by decide)
  exact ⟨hs.any_head? (fun _ _ _ => rfl) fun x hx => ⟨hbarrier x hx, hbarrier x hx⟩,
    fun hat => hs.advance_of_any hbarrier hat⟩

/-! ### Spans -/

theorem move_max (c : Copy) (a b : Nat) : c.move (max a b) = max (c.move a) (c.move b) :=
  c.monotone.map_max

theorem cover_relocate (a b : Span) :
    (a.relocate c.move).cover (b.relocate c.move) = (a.cover b).relocate c.move := by
  simp only [Span.cover, Span.relocate, c.monotone.map_min, move_max]

theorem relocate_adopt (t e : Tree) :
    (t.adopt e).relocate c.move = (t.relocate c.move).adopt (e.relocate c.move) := by
  simp [adopt, Span.relocate, move_max]

theorem lastStopD_map {f : Nat → Nat} (ts : List Tree) (d : Nat) :
    lastStopD (ts.map (relocate f)) (f d) = f (lastStopD ts d) := by
  unfold lastStopD
  rw [List.getLast?_map]
  cases ts.getLast? <;> simp [Span.relocate]

theorem leaf_lexeme (hk : k.relocate c.move = k) : (c.lexeme x).leaf k = (x.leaf k).relocate c.move := by
  rw [Lexeme.leaf, Lexeme.leaf, leaf, leaf, relocate_node, hk]
  rfl

theorem finish_place {closed : Bool} (h : c.IsLast ∨ closed = true) (hk : k.relocate c.move = k) (start : Nat)
    (ts : List Tree) (s : Cursor) :
    finish c.newEof k (c.move start) closed (ts.map (relocate c.move)) (c.place s) =
      (finish c.eof k start closed ts s).relocate c.move := by
  cases closed with
  | true =>
    simp only [finish, if_true, relocate_node, lastStopD_map, Span.relocate, move_max, hk]
    rfl
  | false =>
    have hlast : c.IsLast := h.resolve_right (by simp)
    simp only [finish, Bool.false_eq_true, if_false, relocate_node, hlast.newEof]
    rfl

/-! ### Recovery -/

variable {stops : Lexeme → Bool}

/-- Skipping looks at the lexemes up to the one it stops at. It stops before the end of the copied lexemes, or
at their end because a `;` comes there in the copy. -/
theorem skipLoop_place {V : List Lexeme} {depth last : Nat}
    (hstops : ∀ P, V ++ c.tail = P ++ (skipLoop stops depth last (V ++ c.tail)).2.rest.tail →
      ∀ y ∈ P, stops (c.lexeme y) = stops y)
    (hend : c.IsLast ∨ c.tail.length < (skipLoop stops depth last (V ++ c.tail)).2.remaining ∨
      (c.tail = [] ∧ (skipLoop stops depth last (V ++ c.tail)).1 = 0 ∧
        ∀ y ∈ c.newTail.head?, stops y = true)) :
    skipLoop stops depth (c.move last) (V.map c.lexeme ++ c.newTail) =
      ((skipLoop stops depth last (V ++ c.tail)).1, c.place (skipLoop stops depth last (V ++ c.tail)).2) := by
  induction V generalizing depth last with
  | nil =>
    rw [List.nil_append] at hend ⊢
    rw [List.map_nil, List.nil_append]
    have hplace : ∀ last, c.place ⟨c.tail, last⟩ = ⟨c.newTail, c.move last⟩ := c.place_append []
    rcases hend with hlast | hlt | ⟨htail, hdepth, hstop⟩
    · have hplace := hplace last
      rw [hlast.tail, hlast.newTail] at hplace
      rw [hlast.tail, hlast.newTail, skipLoop, skipLoop, hplace]
    · exact absurd hlt (Nat.not_lt.2 (remaining_skipLoop_le ..))
    · have hplace := hplace last
      rw [htail] at hdepth hplace ⊢
      have hdepth : depth = 0 := hdepth
      rw [skipLoop, hplace, hdepth]
      cases hnew : c.newTail with
      | nil => rfl
      | cons y ys => rw [skipLoop, if_pos ⟨rfl, hstop y (by rw [hnew]; rfl)⟩]
  | cons x V ih =>
    have hsuffix : (skipLoop stops depth last (x :: V ++ c.tail)).2.rest.tail <:+ V ++ c.tail := by
      rcases List.suffix_cons_iff.1 (suffix_skipLoop depth last (x :: V ++ c.tail)) with heq | hsuffix
      · rw [heq]
        exact List.suffix_rfl
      · exact (List.tail_suffix _).trans hsuffix
    have hx : stops (c.lexeme x) = stops x := by
      obtain ⟨P, hP⟩ := hsuffix
      exact hstops (x :: P) (congrArg (x :: ·) hP.symm) x List.mem_cons_self
    rw [List.cons_append] at hstops hend ⊢
    rw [List.map_cons, List.cons_append, skipLoop, hx]
    rw [skipLoop] at hstops hend ⊢
    by_cases hstop : depth = 0 ∧ stops x = true
    · rw [if_pos hstop, if_pos hstop]
      exact congrArg (depth, ·) (c.place_append (x :: V) last).symm
    · rw [if_neg hstop] at hstops hend ⊢
      rw [if_neg hstop]
      exact ih (fun P hP y hy => hstops (x :: P) (congrArg (x :: ·) hP) y (List.mem_cons_of_mem _ hy)) hend

theorem errorTree_place {unclosed : Bool} (h : c.IsLast ∨ unclosed = false) (start stop : Nat) :
    errorTree c.newEof (c.move start) (c.move stop) unclosed =
      (errorTree c.eof start stop unclosed).relocate c.move := by
  cases unclosed with
  | false => rfl
  | true =>
    have hlast : c.IsLast := h.resolve_right (by simp)
    simp [errorTree, leaf, hlast.newEof, Span.relocate, Kind.relocate]

theorem skip_place (hin : c.Inside s x xs)
    (hstops : ∀ P, xs = P ++ (skip c.eof stops x xs).2.rest.tail → ∀ y ∈ P, stops (c.lexeme y) = stops y)
    (hend : c.IsLast ∨ c.tail.length < (skip c.eof stops x xs).2.remaining ∨
      (c.tail = [] ∧ (skip c.eof stops x xs).1.kind.isOpen = false ∧ ∀ y ∈ c.newTail.head?, stops y = true)) :
    skip c.newEof stops (c.lexeme x) (c.place ⟨xs, x.span.stop⟩).rest = c.pair (skip c.eof stops x xs) := by
  obtain ⟨V, hV⟩ := hin.here.exists_append
  obtain rfl : xs = V ++ c.tail := hV
  generalize hdepth : (if x.kind.isOpener then 1 else 0) = depth
  have hskip : ∀ eof y ys, (if y.kind.isOpener then 1 else 0) = depth → skip eof stops y ys =
      (errorTree eof y.span.start (skipLoop stops depth y.span.stop ys).2.lastStop
        (0 < (skipLoop stops depth y.span.stop ys).1), (skipLoop stops depth y.span.stop ys).2) := by
    rintro eof y ys rfl
    rfl
  rw [hskip _ _ _ hdepth] at hstops hend
  rw [hskip _ _ _ hdepth, hskip _ (c.lexeme x) _ hdepth, c.place_append]
  have hopen : ∀ d : Nat, (errorTree c.eof x.span.start d (decide
      (0 < (skipLoop stops depth x.span.stop (V ++ c.tail)).1))).kind.isOpen = false →
        (skipLoop stops depth x.span.stop (V ++ c.tail)).1 = 0 := fun d h =>
    Nat.eq_zero_of_not_pos (of_decide_eq_false h)
  have hloop := skipLoop_place hstops
    (hend.imp_right (Or.imp_right fun h => ⟨h.1, hopen _ h.2.1, h.2.2⟩))
  have hclosed : c.IsLast ∨ (skipLoop stops depth x.span.stop (V ++ c.tail)).1 = 0 := by
    rcases hend with hlast | hlt | ⟨-, h, -⟩
    · exact .inl hlast
    · exact .inr (depth_skipLoop_of_rest (List.ne_nil_of_length_pos (Nat.zero_lt_of_lt hlt)))
    · exact .inr (hopen _ h)
  have herror := errorTree_place (hclosed.imp_right fun h => decide_eq_false (Nat.not_lt.2 (Nat.le_of_eq h)))
    x.span.start (skipLoop stops depth x.span.stop (V ++ c.tail)).2.lastStop
  rw [pair, ← herror, span_lexeme, Span.relocate, hloop]
  rfl

/-- A closer that is found lies before the end of the copied lexemes. -/
theorem expectCloser_place {closer : Token.Kind} (hs : c.Here s)
    (hclosed : c.IsLast ∨ (expectCloser c.eof closer s).1 = true)
    (hle : c.tail.length ≤ (expectCloser c.eof closer s).2.2.remaining) :
    expectCloser c.newEof closer (c.place s) =
      ((expectCloser c.eof closer s).1, c.several (expectCloser c.eof closer s).2) := by
  cases hrest : s.rest with
  | nil =>
    have hlast : c.IsLast := hclosed.resolve_right (by simp [expectCloser, hrest])
    simp [expectCloser, hrest, hlast.place_of_nil hrest, several]
  | cons x xs =>
    by_cases hx : x.kind = closer
    · simp only [expectCloser, hrest, hx, if_true, advance_of_cons hrest] at hle
      have hin := hs.inside hrest hle
      simp only [expectCloser, hrest, hin.place, kind_lexeme, hx, if_true, advance_of_cons hrest,
        advance_of_cons hin.place, several]
      rfl
    · simp only [expectCloser, hrest, hx, if_false] at hclosed hle
      have hafter := remaining_advance_le (skip c.eof (·.kind == closer) x xs).2
      have hskip := remaining_skip_le c.eof (·.kind == closer) x xs
      have hin := hs.inside hrest (by omega)
      have hhere : c.Here (skip c.eof (·.kind == closer) x xs).2 :=
        ⟨(passage_skip hs.place c.inOrder hrest).end, by omega⟩
      have hend : c.IsLast ∨ c.tail.length < (skip c.eof (·.kind == closer) x xs).2.remaining := by
        refine hclosed.imp_right fun hfound => ?_
        obtain ⟨y, ys, hys⟩ := List.exists_cons_of_ne_nil (l := (skip c.eof (·.kind == closer) x xs).2.rest)
          (by simpa using hfound)
        rw [advance_of_cons hys] at hle
        rw [remaining, hys]
        exact Nat.lt_succ_of_le hle
      have hplace : skip c.newEof (·.kind == closer) (c.lexeme x) (c.place ⟨xs, x.span.stop⟩).rest = _ :=
        skip_place hin (fun _ _ _ _ => rfl) (hend.imp_right .inl)
      have hempty : (c.place (skip c.eof (·.kind == closer) x xs).2).rest.isEmpty =
          (skip c.eof (·.kind == closer) x xs).2.rest.isEmpty := by
        rcases hend with hlast | hlt
        · rw [hlast.place_eq, List.isEmpty_map]
        · obtain ⟨y, ys, hys⟩ := List.exists_cons_of_length_pos (Nat.zero_lt_of_lt hlt)
          rw [(hhere.inside_of_lt hys (.inl hlt) (Nat.le_refl _)).place, hys]
          rfl
      simp only [expectCloser, hrest, hin.place, kind_lexeme, hx, if_false, hplace]
      simp [pair, several, hempty, (hhere.advance hend).2]

end Copy

end RSource.Grammar
