import RSource.Proofs.Grammar.LineBreak.Gap

/-!
# Line breaks inside groups mean nothing

With a blank in place of a line break, the lexemes of a text change at most in the one behind it, which has
no line break before it any more (`lexemes_whitespace`). If the innermost node around the line break is a group
in parentheses or an argument list, nothing is made of that, and the tree stays the same
(`build_set_whitespace`).
-/

namespace RSource

namespace Token

theorem pairwise_tokenizeAll (t : Text) : (tokenizeAll t).Pairwise fun t u => t.stop ≤ u.start := by
  have : Trans (fun t u : Token => t.stop ≤ u.start) (fun t u : Token => t.stop ≤ u.start)
      (fun t u : Token => t.stop ≤ u.start) :=
    ⟨fun h h' => Nat.le_trans h (Nat.le_trans (Nat.le_add_right ..) h')⟩
  exact List.isChain_iff_pairwise.1 (isChain_tokenizeAll t)

end Token

namespace Grammar
open RSource.Tree Token

variable {source : Text} {total : Nat} {ts us : List Token} {token : Token}

/-! ### Lexemes -/

/-- Whether a line break stands before the first token matters for the first lexeme only. -/
theorem lexemesFrom_true (newline : Bool) (ts : List Token) :
    lexemesFrom source total newline ts = lexemesFrom source total true ts ∨
      ∃ x xs, lexemesFrom source total true ts = x :: xs ∧
        lexemesFrom source total newline ts = { x with newlineBefore := false } :: xs := by
  induction ts generalizing newline with
  | nil => exact .inl rfl
  | cons t ts ih =>
    rw [lexemesFrom, lexemesFrom]
    split
    · exact .inl rfl
    · split
      · exact ih _
      · cases newline with
        | true => exact .inl rfl
        | false => exact .inr ⟨_, _, rfl, rfl⟩

/-- With a blank in place of a line break, the lexemes are the same but for the one behind it. -/
theorem lexemes_whitespace (hts : ∀ t ∈ ts, t.stop ≤ source.byteLength) (htoken : token.stop ≤ source.byteLength)
    (hkind : token.kind = .newline) :
    lexemes source (ts ++ { token with kind := .whitespace } :: us) = lexemes source (ts ++ token :: us) ∨
      ∃ x xs, lexemesFrom source source.byteLength true us = x :: xs ∧
        lexemes source (ts ++ token :: us) = lexemes source ts ++ x :: xs ∧
        lexemes source (ts ++ { token with kind := .whitespace } :: us) =
          lexemes source ts ++ { x with newlineBefore := false } :: xs := by
  obtain ⟨newline, hsplit⟩ := lexemesFrom_append source hts false
  have hsilent : isSilent token.kind = true := by
    rw [hkind]
    rfl
  have hbreak : lexemesFrom source source.byteLength newline (token :: us) =
      lexemesFrom source source.byteLength true us := by
    rw [lexemesFrom, if_neg (Nat.not_lt.2 htoken), if_pos hsilent, hkind, beq_self_eq_true, Bool.or_true]
  have hblank : lexemesFrom source source.byteLength newline ({ token with kind := .whitespace } :: us) =
      lexemesFrom source source.byteLength newline us := by
    have hin : ¬ source.byteLength < Token.stop { token with kind := .whitespace } := Nat.not_lt.2 htoken
    have hspace : isSilent (Token.kind { token with kind := .whitespace }) = true := rfl
    rw [lexemesFrom, if_neg hin, if_pos hspace]
    exact congrArg (lexemesFrom source _ · us) (Bool.or_false newline)
  simp only [lexemes, hsplit, hbreak, hblank]
  rcases @lexemesFrom_true source _ newline us with heq | ⟨x, xs, htrue, heq⟩
  · exact .inl (by rw [heq])
  · exact .inr ⟨x, xs, htrue, by rw [htrue], by rw [heq]⟩

/-! ### The gap of a line break -/

theorem Gap.map_lexeme {eof : Nat} {all : List Lexeme} (g : Gap eof all) {ys xs : List Lexeme}
    (h : all = ys ++ g.next :: xs) :
    all.map g.copy.lexeme = ys ++ { g.next with newlineBefore := false } :: xs := by
  have hnodup : (ys ++ g.next :: xs).Nodup := h ▸ g.inOrder.nodup g.nonempty
  obtain ⟨-, hxs, hapart⟩ := List.nodup_append.1 hnodup
  have hsame : ∀ zs : List Lexeme, (∀ z ∈ zs, z ≠ g.next) → zs.map g.copy.lexeme = zs := fun zs hzs =>
    (List.map_congr_left fun z hz => Gap.lexeme_of_ne (hzs z hz)).trans (List.map_id zs)
  have hbefore := hsame ys fun y hy => hapart y hy _ List.mem_cons_self
  have hbehind := hsame xs fun x hx heq => (List.nodup_cons.1 hxs).1 (heq ▸ hx)
  have hnext : g.copy.lexeme g.next = { g.next with newlineBefore := false } := by
    simp [Copy.lexeme, Gap.copy, Lexeme.relocate, Span.relocate]
  calc all.map g.copy.lexeme = (ys ++ g.next :: xs).map g.copy.lexeme := congrArg _ h
    _ = ys ++ { g.next with newlineBefore := false } :: xs := by
      rw [List.map_append, List.map_cons, hbefore, hnext, hbehind]

theorem inOrder_behind (h : tokenizeAll source = ts ++ token :: us) (hin : token.stop ≤ source.byteLength)
    (newline : Bool) :
    InOrder source.byteLength token.stop (lexemesFrom source source.byteLength newline us) := by
  have hchain := (h ▸ isChain_tokenizeAll source).right_of_append
  obtain ⟨hnext, hus⟩ := List.isChain_cons.1 hchain
  exact inOrder_lexemesFrom hus hin hnext

/-- The gap that a token between the lexemes fills. -/
def Gap.ofToken (h : tokenizeAll source = ts ++ token :: us) (hin : token.stop ≤ source.byteLength)
    (hlength : 0 < token.length) {x : Lexeme} {xs : List Lexeme}
    (hxs : lexemesFrom source source.byteLength true us = x :: xs)
    (hall : lexemes source (tokenizeAll source) = lexemes source ts ++ x :: xs) :
    Gap source.byteLength (lexemes source (tokenizeAll source)) where
  span := token.span
  next := x
  start_lt_stop := Nat.lt_add_of_pos_right hlength
  next_mem := by simp [hall]
  stop_le := (hxs ▸ inOrder_behind h hin true).1
  apart := by
    intro y hy
    obtain ⟨-, -, hbefore⟩ := List.pairwise_append.1 (h ▸ pairwise_tokenizeAll source)
    obtain ⟨-, hx, hbehind⟩ := hxs ▸ inOrder_behind h hin true
    rw [hall] at hy
    rcases List.mem_append.1 hy with hy | hy
    · obtain ⟨t, ht, -, -, hspan, -⟩ := token_of_mem_lexemesFrom hy
      exact .inl (hspan ▸ hbefore t ht token List.mem_cons_self)
    · rcases List.mem_cons.1 hy with rfl | hy
      · exact .inr (Nat.le_refl _)
      · exact .inr (Nat.le_trans hx (hbehind.le_start_of_mem hy))
  inOrder := inOrder_lexemes_tokenizeAll source
  nonempty := fun _ hy => start_lt_stop_of_mem_lexemes hy

/-- If the lexemes change at all, then at a gap where the line break is. -/
theorem exists_gap (h : tokenizeAll source = ts ++ token :: us) (hkind : token.kind = .newline) :
    lexemes source (ts ++ { token with kind := .whitespace } :: us) = lexemes source (tokenizeAll source) ∨
      ∃ g : Gap source.byteLength (lexemes source (tokenizeAll source)), g.span = token.span ∧
        lexemes source (ts ++ { token with kind := .whitespace } :: us) =
          (lexemes source (tokenizeAll source)).map g.copy.lexeme := by
  have hin : ∀ t ∈ ts ++ token :: us, t.stop ≤ source.byteLength := fun t ht =>
    stop_le_of_mem_tokenizeAll (h ▸ ht)
  obtain ⟨hts, htoken⟩ := List.forall_mem_append.1 hin
  have htoken : token.stop ≤ source.byteLength := htoken token List.mem_cons_self
  rcases @lexemes_whitespace source ts us token hts htoken hkind with hsame | ⟨x, xs, hxs, hall, hblank⟩
  · exact .inl (h ▸ hsame)
  · have hmem : token ∈ tokenizeAll source := by simp [h]
    have hlength : 0 < token.length := Token.length_pos_of_mem hmem (by simp [hkind])
    rw [← h] at hall
    let g := Gap.ofToken h htoken hlength hxs hall
    exact .inr ⟨g, rfl, hblank.trans (g.map_lexeme hall).symm⟩

/-! ### The whole tree -/

/-- If the innermost node around the gap is a group, the line break has no say in what the program holds. -/
theorem Gap.calm_build {all : List Lexeme} (g : Gap source.byteLength all) {u : Tree}
    (hu : u ∈ (build source (tokenizeAll source)).nodes) (hinner : u.IsInnermost g.span)
    (hgroup : u.kind.isGroup = true) (s s' : Cursor) :
    g.Calm .top s (build source (tokenizeAll source)).children s' := by
  refine fun _ => .inr ⟨fun t ht v hv hv' => ?_, fun hnone => ?_⟩
  · have hmem : v ∈ (build source (tokenizeAll source)).nodes := mem_nodes.2 (.inr ⟨t, ht, hv⟩)
    rwa [hv'.eq g.start_lt_stop (sound_parse source) hmem hu hinner]
  · rcases mem_nodes.1 hu with rfl | ⟨t, ht, hut⟩
    · cases hgroup
    · exact absurd hinner.1 (hnone t ht u hut)

/-- A line break whose innermost node, of those that bound what is read inside them, is a group in parentheses
or an argument list can as well be a blank. -/
theorem build_set_whitespace (source : Text) (i : Nat) (token : Token) (u : Tree)
    (htoken : (tokenizeAll source)[i]? = some token) (hkind : token.kind = .newline)
    (hu : u ∈ (build source (tokenizeAll source)).nodes) (hinner : u.IsInnermost token.span)
    (hgroup : u.kind.isGroup = true) :
    build source ((tokenizeAll source).set i { token with kind := .whitespace }) =
      build source (tokenizeAll source) := by
  obtain ⟨hi, rfl⟩ := List.getElem?_eq_some_iff.1 htoken
  have hsplit : tokenizeAll source =
      (tokenizeAll source).take i ++ (tokenizeAll source)[i] :: (tokenizeAll source).drop (i + 1) := by
    rw [← List.drop_eq_getElem_cons hi, List.take_append_drop]
  rw [List.set_eq_take_append_cons_drop, if_pos hi]
  rcases exists_gap hsplit hkind with hsame | ⟨g, hspan, hjoin⟩
  · rw [build, build, hsame]
  · have hbase : g.guard.Agrees 0 (reader source.byteLength 0) := Copy.Guard.agrees_zero g.isLast_copy
    have hagrees : g.guard.Agrees maxNesting (reader source.byteLength maxNesting) := hbase.add maxNesting
    have hstart : g.copy.Here ⟨g.copy.all, 0⟩ := ⟨.start, Nat.zero_le _⟩
    have hcalm := g.calm_build hu (hspan ▸ hinner) hgroup
    have hdeep : g.guard.Deep maxNesting := ⟨_, _, _, _, hcalm ⟨[], 0⟩ ⟨[], 0⟩⟩
    have hplace := Copy.statements_place_closed hagrees hdeep (by decide) hstart (.inl g.isLast_copy) (hcalm _ _)
    have hsame : ∀ ts : List Tree, ts.map (relocate g.copy.move) = ts := fun ts =>
      (List.map_congr_left fun t _ => relocate_id t).trans (List.map_id ts)
    rw [g.isLast_copy.place_eq, Copy.several, hsame] at hplace
    have hchildren := congrArg Prod.fst hplace
    rw [build, hjoin]
    exact congrArg (Tree.node .program ⟨0, source.byteLength⟩) hchildren

/-- A line break in a group inside a call: on a line of its own, `- b` would be a second statement. -/
theorem build_set_whitespace_call :
    let source : Text := "f((a\n - b),\n c)\nd".toList
    let token : Token := ⟨.newline, 4, 1⟩
    (tokenizeAll source)[4]? = some token ∧
      (∃ u ∈ (build source (tokenizeAll source)).nodes, u.IsInnermost token.span ∧ u.kind.isGroup = true) ∧
      build source ((tokenizeAll source).set 4 { token with kind := .whitespace }) =
        build source (tokenizeAll source) := by
  intro source token
  have htoken : (tokenizeAll source)[4]? = some token := by decide +kernel
  have hgroup : ∃ u ∈ (build source (tokenizeAll source)).nodes,
      u.IsInnermost token.span ∧ u.kind.isGroup = true := by
    decide +kernel
  refine ⟨htoken, hgroup, ?_⟩
  obtain ⟨u, hu, hinner, hgroup⟩ := hgroup
  exact build_set_whitespace source 4 token u htoken rfl hu hinner hgroup

end Grammar

end RSource
