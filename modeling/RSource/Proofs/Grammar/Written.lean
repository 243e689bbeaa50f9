import RSource.Proofs.Grammar.Lexemes
import RSource.Proofs.Token.Word
import RSource.Tree.Call

/-!
# Written argument lists

A text is put together from pieces, and its lexemes from theirs: a piece with a delimiter behind it is read as
it stands, at its offset (`lexemesBehind`). If every piece of a list is read as an argument (`Readable`), then
the pieces with commas between them and a closing parenthesis behind them are read as an argument list that
holds these arguments and no other (`slots_written`).
-/

namespace RSource.Grammar
open Text Token

variable {source u v w d : Text} {k : Token.Kind} {r : List Token} {c : Char} {cs : Text} {levels : Nat}

/-! ### The lexemes of pieces -/

/-- A token that carries meaning is read as one lexeme. -/
theorem lexemesFrom_token (hscan : scan c (cs ++ v) = (k, cs.length)) (hk : isSilent k = false)
    (hsource : source = u ++ c :: cs ++ v) :
    lexemesFrom source source.byteLength false (tokensFrom (byteLength u) (c :: cs ++ v) ++ r) =
      ⟨k, ⟨byteLength u, byteLength u + byteLength (c :: cs)⟩, String.ofList (c :: cs), false⟩ ::
        lexemesFrom source source.byteLength false (tokensFrom (byteLength (u ++ c :: cs)) v ++ r) := by
  have hfirst : first (byteLength u) c (cs ++ v) = ⟨k, byteLength u, byteLength (c :: cs)⟩ := by
    rw [first, hscan, List.take_left]
  have htext : Token.text ⟨k, byteLength u, byteLength (c :: cs)⟩ source = c :: cs := by
    have hslice := slice?_append u (c :: cs) v
    rw [byteLength_append] at hslice
    rw [hsource, Token.text, sliceD]
    exact congrArg (fun o => o.getD []) hslice
  have hin : ¬ source.byteLength < Token.stop ⟨k, byteLength u, byteLength (c :: cs)⟩ := by
    rw [hsource, byteLength_append, byteLength_append]
    show ¬ _ < byteLength u + byteLength (c :: cs)
    omega
  rw [List.cons_append, tokensFrom_cons, hfirst, hscan, List.drop_left, List.cons_append, lexemesFrom,
    if_neg hin, if_neg (by simp [hk]), htext, byteLength_append]
  rfl

theorem lexemesFrom_space (hv : ∀ d ∈ v.head?, isInlineBlank d = false) (hsource : source = u ++ ' ' :: v) :
    lexemesFrom source source.byteLength false (tokensFrom (byteLength u) (' ' :: v) ++ r) =
      lexemesFrom source source.byteLength false (tokensFrom (byteLength (u ++ [' '])) v ++ r) := by
  have hrun : runLength isInlineBlank v = 0 := runLength_append (u := []) (by simp) hv
  have hscan : scan ' ' v = (.whitespace, 0) := by
    rw [(Scans.blank (c := ' ') (by decide)).scan_eq, hrun]
  have hfirst : first (byteLength u) ' ' v = ⟨.whitespace, byteLength u, 1⟩ := by
    rw [first, hscan]
    rfl
  have hin : ¬ source.byteLength < Token.stop ⟨.whitespace, byteLength u, 1⟩ := by
    have hlength : byteLength (' ' :: v) = 1 + byteLength v := rfl
    rw [hsource, byteLength_append, hlength]
    show ¬ _ < byteLength u + 1
    omega
  have hsilent : isSilent (Token.mk .whitespace (byteLength u) 1).kind = true := rfl
  rw [tokensFrom_cons, hfirst, hscan, List.drop_zero, List.cons_append, lexemesFrom, if_neg hin,
    if_pos hsilent, byteLength_append]
  rfl

/-- The lexemes of `t` where it stands behind `u`. -/
def lexemesBehind (u t : Text) : List Lexeme :=
  (lexemesOf t).map (·.relocate (· + byteLength u))

@[simp] theorem lexemesBehind_empty (u : Text) : lexemesBehind u [] = [] := by
  have hnone : lexemesOf [] = [] := by
    rw [lexemesOf, lexemes, tokenizeAll_eq, tokensFrom_nil, List.nil_append]
    rfl
  rw [lexemesBehind, hnone, List.map_nil]

theorem lexemesBehind_start (t : Text) : lexemesBehind [] t = lexemesOf t := by
  rw [lexemesBehind]
  exact List.map_id _

theorem lexemesBehind_eq (u t : Text) :
    lexemesBehind u t = lexemesFrom (u ++ t) (byteLength (u ++ t)) false
      (tokensFrom (byteLength u) t ++ [eos (byteLength (u ++ t))]) :=
  (lexemesFrom_behind u t).symm

theorem lexemesBehind_token (hscan : scan c (cs ++ v) = (k, cs.length)) (hk : isSilent k = false) (u : Text) :
    lexemesBehind u (c :: cs ++ v) =
      ⟨k, ⟨byteLength u, byteLength (u ++ c :: cs)⟩, String.ofList (c :: cs), false⟩ ::
        lexemesBehind (u ++ c :: cs) v := by
  have htoken := lexemesFrom_token (u := u) (r := [eos (byteLength (u ++ (c :: cs ++ v)))]) hscan hk
    (List.append_assoc u (c :: cs) v).symm
  rw [← byteLength_append] at htoken
  rw [lexemesBehind_eq, lexemesBehind_eq, List.append_assoc]
  exact htoken

theorem lexemesBehind_single (hscan : scan c v = (k, 0)) (hk : isSilent k = false) (u : Text) :
    lexemesBehind u (c :: v) =
      ⟨k, ⟨byteLength u, byteLength (u ++ [c])⟩, String.ofList [c], false⟩ :: lexemesBehind (u ++ [c]) v := by
  have hscan : scan c (([] : Text) ++ v) = (k, ([] : Text).length) := hscan
  exact lexemesBehind_token hscan hk u

theorem lexemesBehind_space (hv : ∀ d ∈ v.head?, isInlineBlank d = false) (u : Text) :
    lexemesBehind u (' ' :: v) = lexemesBehind (u ++ [' ']) v := by
  rw [lexemesBehind_eq, lexemesBehind_eq, List.append_assoc, List.singleton_append]
  exact lexemesFrom_space hv rfl

/-- The text is read as it stands where a delimiter or nothing comes behind it. -/
def IsPiece (d : Text) : Prop :=
  ∀ w, IsApart w → lexemesOf (d ++ w) = lexemesOf d ++ lexemesBehind d w

theorem lexemesBehind_append (u v w : Text) :
    lexemesBehind (u ++ v) w = (lexemesBehind v w).map (·.relocate (· + byteLength u)) := by
  rw [lexemesBehind, lexemesBehind, List.map_map, byteLength_append]
  refine List.map_congr_left fun x _ => ?_
  simp only [Function.comp_apply, Lexeme.relocate, Span.relocate, Nat.add_assoc, Nat.add_comm (byteLength v)]

theorem IsPiece.behind (h : IsPiece d) (u : Text) (hw : IsApart w) :
    lexemesBehind u (d ++ w) = lexemesBehind u d ++ lexemesBehind (u ++ d) w := by
  rw [lexemesBehind_append, lexemesBehind, h w hw, List.map_append]
  rfl

/-- A piece that is read as an argument with the property `P`, whatever text it stands in, where a comma or a
closing parenthesis comes behind it. -/
structure Readable (levels : Nat) (P : Text → Tree → Prop) (d : Text) : Prop where
  piece : IsPiece d
  not_blank : ∀ c ∈ d.head?, isInlineBlank c = false
  starts : ∃ x xs, lexemesOf d = x :: xs ∧ endsSlot .closeParen x = false
  reads : ∀ (u w : Text) (y : Lexeme) (ys : List Lexeme) (last : Nat), y.kind = .comma ∨ y.kind = .closeParen →
    ∃ a, P (u ++ d ++ w) a ∧
      argument (reader (byteLength (u ++ d ++ w)) levels) ⟨lexemesBehind u d ++ y :: ys, last⟩ =
        some (a, ⟨y :: ys, byteLength (u ++ d)⟩)

/-! ### Words as arguments -/

theorem unquote_of_isPlainName (h : IsPlainName w) : unquote w = w := by
  cases w with
  | nil => rfl
  | cons c cs =>
    have hquote : nameQuotes.all fun d => isNameStart d = false := by decide +kernel
    rw [unquote, if_neg]
    intro hc
    have hstart := h.1
    rw [of_decide_eq_true (List.all_eq_true.1 hquote c (List.contains_iff_mem.1 hc))] at hstart
    cases hstart

/-- A name or a string literal alone in its slot. -/
theorem argument_word {eof last : Nat} {x y : Lexeme} {kind : Tree.Kind}
    (hx : x.kind = .identifier ∧ kind = .identifier ∨ x.kind = .string ∧ kind = .literal)
    (hy : y.kind = .comma ∨ y.kind = .closeParen) (ys : List Lexeme) :
    argument (reader eof (levels + 1)) ⟨x :: y :: ys, last⟩ =
      some (.node (.argument false) x.span [x.leaf kind], ⟨y :: ys, x.span.stop⟩) := by
  have hnamed : isNamed (x :: y :: ys) = false := by
    rcases hy with hy | hy <;> simp [isNamed, Lexeme.isOperator, hy]
  have hrun : (reader eof (levels + 1)).run argumentPower .bracket ⟨x :: y :: ys, last⟩ =
      some (extend eof (reader eof levels) argumentPower .bracket (x.leaf kind) ⟨y :: ys, x.span.stop⟩) := by
    show expression eof (reader eof levels) argumentPower .bracket ⟨x :: y :: ys, last⟩ = _
    rcases hx with ⟨hx, rfl⟩ | ⟨hx, rfl⟩ <;> simp [expression, operand, hx]
  have hbarrier : ∀ z ∈ (y :: ys).head?, z.IsBarrier := by
    intro z hz
    obtain rfl := Option.some.inj hz
    exact .inr hy
  rw [argument_of_not_named hnamed, hrun, extend_of_barrier hbarrier]
  rfl

theorem lexemesBehind_word (hw : IsWord k w) (hk : isSilent k = false) (u : Text) (hv : IsApart v) :
    lexemesBehind u (w ++ v) =
      ⟨k, ⟨byteLength u, byteLength (u ++ w)⟩, String.ofList w, false⟩ :: lexemesBehind (u ++ w) v := by
  obtain ⟨c, cs, rfl, -, hscan⟩ := hw
  exact lexemesBehind_token (hscan v hv) hk u

theorem lexemesBehind_keyword {word : String} (hword : word ∈ keywords) (hv : ∀ d ∈ v.head?, d ∈ nameEnds)
    (u : Text) : lexemesBehind u (word.toList ++ v) =
      ⟨.keyword, ⟨byteLength u, byteLength (u ++ word.toList)⟩, word, false⟩ ::
        lexemesBehind (u ++ word.toList) v := by
  have hne : word ≠ "" := by
    rintro rfl
    exact absurd hword (by decide)
  obtain ⟨c, cs, hc⟩ := List.exists_cons_of_ne_nil (mt String.toList_eq_nil_iff.1 hne)
  rw [hc, lexemesBehind_token (scan_keyword hword hc hv) rfl, ← hc, String.ofList_toList]

theorem readable_word {P : Text → Tree → Prop} {kind : Tree.Kind} (hw : IsWord k w)
    (hk : k = .identifier ∧ kind = .identifier ∨ k = .string ∧ kind = .literal)
    (hP : ∀ u v : Text, P (u ++ w ++ v) (.node (.argument false) ⟨byteLength u, byteLength (u ++ w)⟩
      [.leaf kind ⟨byteLength u, byteLength (u ++ w)⟩])) : Readable (levels + 1) P w := by
  have hsilent : isSilent k = false := by
    rcases hk with ⟨rfl, -⟩ | ⟨rfl, -⟩ <;> rfl
  have halone : ∀ u, lexemesBehind u w = [⟨k, ⟨byteLength u, byteLength (u ++ w)⟩, String.ofList w, false⟩] := by
    intro u
    have h := lexemesBehind_word hw hsilent u (v := []) (by simp [IsApart])
    rwa [List.append_nil, lexemesBehind_empty] at h
  refine ⟨fun v hv => ?_, ?_, ?_, fun u v y ys last hy => ⟨_, hP u v, ?_⟩⟩
  · rw [← lexemesBehind_start, ← lexemesBehind_start, lexemesBehind_word hw hsilent [] hv, halone]
    rfl
  · obtain ⟨c, cs, rfl, hc, -⟩ := hw
    intro d hd
    cases hd
    exact hc
  · refine ⟨_, [], (lexemesBehind_start w).symm.trans (halone []), ?_⟩
    rcases hk with ⟨rfl, -⟩ | ⟨rfl, -⟩ <;> rfl
  · rw [halone]
    exact argument_word hk hy ys

/-! ### Lists -/

theorem Readable.slot {P : Text → Tree → Prop} (h : Readable levels P d) (hsource : source = u ++ d ++ w)
    {y : Lexeme} (hy : y.kind = .comma ∨ y.kind = .closeParen) (ys : List Lexeme) (last : Nat) :
    ∃ a, P source a ∧
      Grammar.slot (byteLength source) (reader (byteLength source) levels) .closeParen
          ⟨lexemesBehind u d ++ y :: ys, last⟩ = (some a, ⟨y :: ys, byteLength (u ++ d)⟩) := by
  subst hsource
  obtain ⟨x, xs, hx, hstarts⟩ := h.starts
  obtain ⟨a, ha, hargument⟩ := h.reads u w y ys last hy
  have hends : endsSlot .closeParen y = true := by simpa [endsSlot] using hy
  have hlexemes : lexemesBehind u d ++ y :: ys =
      x.relocate (· + byteLength u) :: (xs.map (·.relocate (· + byteLength u)) ++ y :: ys) := by
    rw [lexemesBehind, hx, List.map_cons, List.cons_append]
  refine ⟨a, ha, ?_⟩
  rw [hlexemes] at hargument ⊢
  have hstarts' : ¬ endsSlot .closeParen (x.relocate (· + byteLength u)) = true := by
    rw [show endsSlot .closeParen (x.relocate (· + byteLength u)) = endsSlot .closeParen x from rfl, hstarts]
    simp
  simp only [Grammar.slot, if_neg hstarts', hargument, if_pos hends]

theorem Readable.not_blank_append {P : Text → Tree → Prop} (h : Readable levels P d) (t : Text) :
    ∀ c ∈ (d ++ t).head?, isInlineBlank c = false := by
  obtain ⟨x, xs, hx, -⟩ := h.starts
  have hd : d ≠ [] := by
    rintro rfl
    rw [← lexemesBehind_start, lexemesBehind_empty] at hx
    cases hx
  rw [List.head?_append_of_ne_nil _ hd]
  exact h.not_blank

theorem Readable.not_blank_intercalate {P : Text → Tree → Prop} (h : Readable levels P d) (sep : Text)
    (pieces : List Text) (t : Text) : ∀ c ∈ (sep.intercalate (d :: pieces) ++ t).head?, isInlineBlank c = false := by
  cases pieces with
  | nil =>
    rw [List.intercalate_singleton]
    exact h.not_blank_append t
  | cons piece pieces =>
    rw [List.intercalate_cons_cons, List.append_assoc, List.append_assoc]
    exact h.not_blank_append _

def separators : List Text :=
  [[','], [',', ' ']]

theorem lexemesBehind_separator {sep : Text} (hsep : sep ∈ separators)
    (hv : ∀ d ∈ v.head?, isInlineBlank d = false) (u : Text) :
    lexemesBehind u (sep ++ v) =
      ⟨.comma, ⟨byteLength u, byteLength (u ++ [','])⟩, ",", false⟩ :: lexemesBehind (u ++ sep) v := by
  have hcomma : ∀ t : Text, lexemesBehind u (',' :: t) =
      ⟨.comma, ⟨byteLength u, byteLength (u ++ [','])⟩, ",", false⟩ :: lexemesBehind (u ++ [',']) t :=
    fun t => lexemesBehind_single rfl rfl u
  rcases List.mem_pair.1 hsep with rfl | rfl
  · exact hcomma v
  · rw [List.cons_append, List.singleton_append, hcomma, lexemesBehind_space hv, List.append_assoc]
    rfl

theorem lexemesBehind_closer (u v : Text) : lexemesBehind u (')' :: v) =
    ⟨.closeParen, ⟨byteLength u, byteLength (u ++ [')'])⟩, ")", false⟩ :: lexemesBehind (u ++ [')']) v :=
  lexemesBehind_single rfl rfl u

/-- The pieces of a list that is closed are its arguments. -/
theorem slots_written {α : Type} {text : α → Text} {P : α → Text → Tree → Prop} {sep : Text}
    (hsep : sep ∈ separators) {items : List α} (h : ∀ i ∈ items, Readable levels (P i) (text i))
    (start last : Nat) (hsource : source = u ++ sep.intercalate (items.map text) ++ ')' :: v) :
    ∃ arguments commas, List.Forall₂ (fun i a => P i source a) items arguments ∧
      slots (byteLength source) (reader (byteLength source) levels) .closeParen start
          ⟨lexemesBehind u (sep.intercalate (items.map text) ++ ')' :: v), last⟩ =
        (⟨arguments, commas, true⟩,
          ⟨lexemesBehind (u ++ sep.intercalate (items.map text) ++ [')']) v,
            byteLength (u ++ sep.intercalate (items.map text) ++ [')'])⟩) := by
  induction items generalizing u start last with
  | nil =>
    refine ⟨[], [], .nil, ?_⟩
    rw [List.map_nil, List.intercalate_nil, List.nil_append, List.append_nil, lexemesBehind_closer,
      slots_of_cons rfl]
    rfl
  | cons i items ih =>
    have hi := h i List.mem_cons_self
    cases items with
    | nil =>
      rw [List.map_singleton, List.intercalate_singleton] at hsource ⊢
      rw [hi.piece.behind u (isApart_closeParen v), lexemesBehind_closer]
      obtain ⟨a, ha, hslot⟩ := hi.slot hsource (y := ⟨.closeParen, _, ")", false⟩) (.inr rfl)
        (lexemesBehind (u ++ text i ++ [')']) v) last
      refine ⟨[a], [], .cons ha .nil, ?_⟩
      rw [slots_of_cons (by rw [hslot]), hslot]
      rfl
    | cons j items =>
      have hj := h j (by simp)
      have hjoined : sep.intercalate ((i :: j :: items).map text) =
          text i ++ (sep ++ sep.intercalate ((j :: items).map text)) := by
        rw [List.map_cons, List.map_cons, List.intercalate_cons_cons, List.append_assoc]
      have hblank : ∀ c ∈ (sep.intercalate ((j :: items).map text) ++ ')' :: v).head?, isInlineBlank c = false :=
        hj.not_blank_intercalate sep (items.map text) (')' :: v)
      have hapart : IsApart (sep ++ (sep.intercalate ((j :: items).map text) ++ ')' :: v)) := by
        rcases List.mem_pair.1 hsep with rfl | rfl <;> exact isApart_comma _
      rw [hjoined] at hsource ⊢
      obtain ⟨as, commas, has, hslots⟩ := ih (u := u ++ text i ++ sep)
        (fun i hi => h i (List.mem_cons_of_mem _ hi)) (byteLength (u ++ text i ++ [',']))
        (byteLength (u ++ text i ++ [','])) (by simp [hsource])
      have hparts : source = u ++ text i ++ (sep ++ sep.intercalate ((j :: items).map text) ++ ')' :: v) := by
        simp [hsource]
      obtain ⟨a, ha, hslot⟩ := hi.slot hparts
        (y := ⟨.comma, ⟨byteLength (u ++ text i), byteLength (u ++ text i ++ [','])⟩, ",", false⟩) (.inl rfl)
        (lexemesBehind (u ++ text i ++ sep) (sep.intercalate ((j :: items).map text) ++ ')' :: v)) last
      refine ⟨a :: as, byteLength (u ++ text i) :: commas, .cons ha has, ?_⟩
      rw [List.append_assoc, List.append_assoc, hi.piece.behind u hapart, lexemesBehind_separator hsep hblank,
        slots_of_cons (by rw [hslot]), hslot, if_neg (by simp), hslots]
      simp

def listText (sep : Text) (pieces : List Text) : Text :=
  '(' :: (sep.intercalate pieces ++ [')'])

theorem lexemesBehind_listText (sep : Text) (pieces : List Text) (u v : Text) :
    lexemesBehind u (listText sep pieces ++ v) =
      ⟨.openParen, ⟨byteLength u, byteLength (u ++ ['('])⟩, "(", false⟩ ::
        lexemesBehind (u ++ ['(']) (sep.intercalate pieces ++ ')' :: v) := by
  rw [listText, List.cons_append, List.append_assoc, List.singleton_append]
  exact lexemesBehind_single rfl rfl u

theorem argumentList_written {α : Type} {text : α → Text} {P : α → Text → Tree → Prop} {sep : Text}
    (hsep : sep ∈ separators) {items : List α} (h : ∀ i ∈ items, Readable levels (P i) (text i))
    (hsource : source = u ++ listText sep (items.map text) ++ v) (opener : Lexeme) :
    ∃ arguments commas, List.Forall₂ (fun i a => P i source a) items arguments ∧
      argumentList (byteLength source) (reader (byteLength source) levels) .closeParen opener
          ⟨lexemesBehind (u ++ ['(']) (sep.intercalate (items.map text) ++ ')' :: v), opener.span.stop⟩ =
        (.node (.argumentList true commas)
            ⟨opener.span.start, byteLength (u ++ listText sep (items.map text))⟩ arguments,
          ⟨lexemesBehind (u ++ listText sep (items.map text)) v,
            byteLength (u ++ listText sep (items.map text))⟩) := by
  have hlist : u ++ listText sep (items.map text) = u ++ ['('] ++ sep.intercalate (items.map text) ++ [')'] := by
    simp [listText]
  have hparts : source = u ++ ['('] ++ sep.intercalate (items.map text) ++ ')' :: v := by
    rw [hsource, hlist]
    simp
  obtain ⟨arguments, commas, harguments, hslots⟩ :=
    slots_written hsep h opener.span.stop opener.span.stop hparts
  refine ⟨arguments, commas, harguments, ?_⟩
  rw [argumentList, hslots, hlist]
  rfl

theorem parse_expression {x : Lexeme} {xs : List Lexeme} {e : Tree} {last : Nat} (hsource : lexemesOf source = x :: xs)
    (hsemi : x.isOperator ";" = false) (hcloser : x.kind.isCloser = false)
    (hrun : expression (byteLength source) (reader (byteLength source) (maxNesting - 1)) 0 .top ⟨x :: xs, 0⟩ =
      some (e, ⟨[], last⟩)) :
    parse source = .node .program ⟨0, byteLength source⟩ [.node .expressionStatement e.span [e]] := by
  have hlexemes : lexemes source (tokenizeAll source) = x :: xs := hsource
  rw [parse, build, hlexemes, statements_of_some rfl (by simp) (by simp [hsemi]) (by simp [hcloser]) hrun]
  rfl

end RSource.Grammar
