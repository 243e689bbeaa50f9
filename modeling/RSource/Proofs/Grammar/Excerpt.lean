import RSource.Proofs.Grammar.Clean
import RSource.Proofs.Grammar.Copy.Expression
import RSource.Proofs.Grammar.Coverage
import RSource.Proofs.Grammar.Written
import RSource.Proofs.Token.Edge

/-!
# The text of an expression

Lexemes that follow one another in a text have a text of their own, from the first of them to the last
(`TextOf`). If none of them is of unknown kind, it is read as these lexemes wherever it stands, as long as a
delimiter comes behind it. So the text of the value of an argument can be put into another list, and is read
there as the same expression (`Movable`, `movable_of_run`).
-/

namespace RSource.Grammar
open RSource.Tree Text Token Cursor

variable {source a b d u w : Text} {total : Nat} {ts : List Token} {x y z : Lexeme} {xs ys V W Z : List Lexeme}
  {s s' : Cursor} {t : Tree} {n power : Nat} {context : Context}

/-! ### Tokens of lexemes -/

/-- Behind a token that carries meaning no line break is pending. -/
theorem lexemesFrom_append_of_last (h : ∀ t ∈ ts, t.stop ≤ total)
    (hlast : ∀ t ∈ ts.getLast?, isSilent t.kind = false) (us : List Token) :
    lexemesFrom source total false (ts ++ us) =
      lexemesFrom source total false ts ++ lexemesFrom source total false us := by
  rcases List.eq_nil_or_concat ts with rfl | ⟨ts, t, rfl⟩
  · rfl
  · rw [List.concat_eq_append] at h hlast ⊢
    obtain ⟨newline, hsplit⟩ :=
      lexemesFrom_append source (fun u hu => h u (List.mem_append_left _ hu)) false
    have hstop : ¬ total < t.stop := Nat.not_lt.2 (h t (by simp))
    have hsilent : ¬ isSilent t.kind = true := by
      rw [hlast t (by rw [List.getLast?_concat]; rfl)]
      simp
    rw [List.append_assoc, hsplit, hsplit, List.singleton_append, lexemesFrom, lexemesFrom, if_neg hstop,
      if_neg hstop, if_neg hsilent, if_neg hsilent, List.append_assoc]
    rfl

/-- The tokens up to a lexeme and those behind it. -/
theorem lexemesFrom_split {newline : Bool} {z : Lexeme} {W Z : List Lexeme}
    (h : lexemesFrom source total newline ts = W ++ z :: Z) :
    ∃ M t R, ts = M ++ t :: R ∧ isSilent t.kind = false ∧ z.kind = t.kind ∧ z.span = t.span ∧
      lexemesFrom source total newline (M ++ [t]) = W ++ [z] ∧ lexemesFrom source total false R = Z ∧
      ∀ us, lexemesFrom source total false (t :: us) =
        { z with newlineBefore := false } :: lexemesFrom source total false us := by
  induction ts generalizing newline W with
  | nil => simp [lexemesFrom] at h
  | cons t ts ih =>
    rw [lexemesFrom] at h
    split at h
    · simp at h
    · next hstop =>
      split at h
      · next hsilent =>
        obtain ⟨M, u, R, rfl, hu, hkind, hspan, hbefore, hbehind, hfirst⟩ := ih h
        refine ⟨t :: M, u, R, rfl, hu, hkind, hspan, ?_, hbehind, hfirst⟩
        rw [List.cons_append, lexemesFrom, if_neg hstop, if_pos hsilent, hbefore]
      · next hsilent =>
        cases W with
        | nil =>
          obtain ⟨rfl, rfl⟩ := List.cons.inj h
          refine ⟨[], t, ts, rfl, by simpa using hsilent, rfl, rfl, ?_, rfl, fun us => ?_⟩
          · rw [List.nil_append, lexemesFrom, if_neg hstop, if_neg hsilent]
            rfl
          · rw [lexemesFrom, if_neg hstop, if_neg hsilent]
        | cons w W =>
          obtain ⟨rfl, hrest⟩ := List.cons.inj h
          obtain ⟨M, u, R, rfl, hu, hkind, hspan, hbefore, hbehind, hfirst⟩ := ih hrest
          refine ⟨t :: M, u, R, rfl, hu, hkind, hspan, ?_, hbehind, hfirst⟩
          rw [List.cons_append, lexemesFrom, if_neg hstop, if_neg hsilent, hbefore]
          rfl

/-! ### The text of lexemes -/

/-- `d` is the text of the lexemes `xs` in a source text: it stands between `a` and `b`, and it is read as these
lexemes, but for a line break before the first of them. -/
structure TextOf (source : Text) (xs : List Lexeme) (a d b : Text) : Prop where
  parts : source = a ++ d ++ b
  start : ∀ x ∈ xs.head?, x.span.start = byteLength a
  stop : ∀ x ∈ xs.getLast?, x.span.stop = byteLength (a ++ d)
  lexemes : lexemesBehind a d = xs.modifyHead ({ · with newlineBefore := false })
  piece : IsPiece d
  first : ∀ c ∈ d.head?, isBlank c = false
  trimmed : trim d = d

theorem relocate_add_injective (k : Nat) : Function.Injective (Lexeme.relocate (· + k)) := by
  rintro ⟨kind, ⟨start, stop⟩, text, newline⟩ ⟨kind', ⟨start', stop'⟩, text', newline'⟩ h
  simpa [Lexeme.relocate, Span.relocate] using h

/-- Tokens that are read alike before every delimiter, the last of which carries meaning. -/
theorem lexemesBehind_of_tokens (hlast : ∀ t ∈ ts.getLast?, isSilent t.kind = false)
    (hts : ∀ w, IsApart w → tokensFrom (byteLength a) (d ++ w) = ts ++ tokensFrom (byteLength (a ++ d)) w) :
    lexemesBehind a d = lexemesFrom (a ++ d) (byteLength (a ++ d)) false ts ∧ IsPiece d := by
  have hin : ∀ t ∈ ts, t.stop ≤ byteLength (a ++ d) := by
    have hcovers := covers_tokensFrom (byteLength a) d
    have hd := hts [] (by simp [IsApart])
    rw [List.append_nil, tokensFrom_nil, List.append_nil] at hd
    rw [hd, ← byteLength_append] at hcovers
    exact hcovers.stop_le
  have hbehind : ∀ w, IsApart w → lexemesBehind a (d ++ w) =
      lexemesFrom (a ++ d) (byteLength (a ++ d)) false ts ++ lexemesBehind (a ++ d) w := by
    intro w hw
    have hin' : ∀ t ∈ ts, t.stop ≤ byteLength (a ++ d ++ w) := by
      intro t ht
      rw [byteLength_append]
      exact Nat.le_add_right_of_le (hin t ht)
    rw [lexemesBehind_eq, hts w hw, ← List.append_assoc, List.append_assoc ts,
      lexemesFrom_append_of_last hin' hlast, lexemesFrom_beginning hin, ← lexemesBehind_eq]
  have halone : lexemesBehind a d = lexemesFrom (a ++ d) (byteLength (a ++ d)) false ts := by
    have h := hbehind [] (by simp [IsApart])
    rwa [List.append_nil, lexemesBehind_empty, List.append_nil] at h
  refine ⟨halone, fun w hw => (List.map_injective_iff.2 (relocate_add_injective (byteLength a))) ?_⟩
  have h := hbehind w hw
  rw [← halone, lexemesBehind_append] at h
  rw [List.map_append]
  exact h

/-- The tokens from the first of some lexemes to the last. -/
theorem exists_tokens (h : lexemesOf source = W ++ x :: V ++ y :: Z) :
    ∃ M T R, tokensFrom 0 source = M ++ (T ++ R) ∧ R ≠ [] ∧
      lexemesFrom source (byteLength source) false T = { x with newlineBefore := false } :: V ∧
      (∀ t ∈ T.head?, isSilent t.kind = false ∧ x.span = t.span) ∧
      ∀ t ∈ T.getLast?, isSilent t.kind = false ∧ ∀ z ∈ (x :: V).getLast?, z.span = t.span := by
  obtain ⟨V₀, z, hV⟩ : ∃ V₀ z, x :: V = V₀ ++ [z] :=
    ⟨_, _, (List.dropLast_append_getLast (List.cons_ne_nil x V)).symm⟩
  rw [lexemesOf, lexemes, hV, ← List.append_assoc, List.append_assoc, List.singleton_append] at h
  obtain ⟨M, last, R, htokens, hlast, -, hspan, hbefore, hbehind, -⟩ := lexemesFrom_split h
  rw [List.append_assoc, ← hV] at hbefore
  obtain ⟨M', t, T, hfirst, ht, -, hspan', -, hT, hstart⟩ := lexemesFrom_split hbefore
  -- the last of the tokens behind is the end of stream, and it is not alone
  obtain ⟨R, rfl⟩ : ∃ R', R = R' ++ [eos (byteLength source)] := by
    rcases List.eq_nil_or_concat R with rfl | ⟨R', r, rfl⟩
    · cases hbehind
    · refine ⟨R', ?_⟩
      rw [tokenizeAll_eq, List.concat_eq_append, ← List.cons_append, ← List.append_assoc] at htokens
      rw [List.concat_eq_append, (List.append_inj' htokens rfl).2]
  have hR : R ≠ [] := by
    rintro rfl
    rw [lexemesFrom_silent (by simp [isSilent, eos])] at hbehind
    cases hbehind
  refine ⟨M', t :: T, R, ?_, hR, by rw [hstart, hT], fun u hu => ?_, fun u hu => ?_⟩
  · rw [tokenizeAll_eq, ← List.cons_append, ← List.append_assoc] at htokens
    rw [(List.append_inj' htokens rfl).1, ← List.append_assoc, ← hfirst, List.append_assoc]
    rfl
  · obtain rfl := Option.some.inj hu
    exact ⟨ht, hspan'⟩
  · have hu : (M' ++ t :: T).getLast? = some u := by
      rw [List.getLast?_append, hu]
      rfl
    rw [← hfirst, List.getLast?_concat] at hu
    obtain rfl := Option.some.inj hu
    refine ⟨hlast, fun z' hz' => ?_⟩
    rw [hV, List.getLast?_concat] at hz'
    obtain rfl := Option.some.inj hz'
    exact hspan

/-- Tokens are of known kinds if their lexemes are. -/
theorem known_of_lexemesFrom {newline : Bool} (h : ∀ t ∈ ts, t.stop ≤ total)
    (hknown : ∀ z ∈ lexemesFrom source total newline ts, z.kind ≠ .unknown) : ∀ t ∈ ts, t.kind ≠ .unknown := by
  intro t ht hkind
  have hmem : ∃ z ∈ lexemesFrom source total newline ts, z.kind = t.kind ∧ _ :=
    exists_lexeme h ht (by rw [hkind]; rfl)
  obtain ⟨z, hz, hzkind, -⟩ := hmem
  exact hknown z hz (hzkind.trans hkind)

theorem not_trivia_of_not_silent {k : Token.Kind} (h : isSilent k = false) : k.isTrivia = false :=
  (Bool.or_eq_false_iff.1 h).1

/-- Lexemes of known kinds with another one behind them have a text. -/
theorem exists_textOf (h : lexemesOf source = W ++ x :: V ++ y :: Z)
    (hknown : ∀ z ∈ x :: V, z.kind ≠ .unknown) : ∃ a d b, TextOf source (x :: V) a d b := by
  obtain ⟨M, T, R, htokens, hR, hlexemes, hfirst, hlast⟩ := exists_tokens h
  obtain ⟨a, rest, rfl, -, hrest⟩ := tokensFrom_split htokens
  rw [Nat.zero_add] at hrest
  obtain ⟨d, b, rfl, hcovers, hbehind⟩ := tokensFrom_split hrest.symm
  have hb : b ≠ [] := by
    rintro rfl
    exact hR (by rw [hbehind, tokensFrom_nil])
  have hin : ∀ t ∈ T, t.stop ≤ byteLength (a ++ d) := by
    rw [byteLength_append]
    exact hcovers.stop_le
  rw [← List.append_assoc, lexemesFrom_beginning hin] at hlexemes
  have hT : T ≠ [] := by
    rintro rfl
    cases hlexemes
  have hknown' : ∀ z ∈ lexemesFrom (a ++ d) (byteLength (a ++ d)) false T, z.kind ≠ .unknown := by
    rw [hlexemes]
    exact List.forall_mem_cons.2 (List.forall_mem_cons.1 hknown)
  have hlast' : ∀ t ∈ T.getLast?, t.kind.isTrivia = false := fun t ht => not_trivia_of_not_silent (hlast t ht).1
  have hdelimited : ∀ w, IsApart w →
      tokensFrom (byteLength a) (d ++ w) = T ++ tokensFrom (byteLength (a ++ d)) w := by
    intro w hw
    rw [byteLength_append]
    exact tokensFrom_delimited hrest.symm hcovers hb hw (known_of_lexemesFrom hin hknown') hlast'
  obtain ⟨hd, hpiece⟩ := lexemesBehind_of_tokens (fun t ht => (hlast t ht).1) hdelimited
  have hhead : ∀ c ∈ d.head?, isBlank c = false := by
    intro c hc
    refine first_not_blank hrest.symm hT (fun t ht => not_trivia_of_not_silent (hfirst t ht).1) c ?_
    rw [List.head?_append, Option.mem_def.1 hc]
    rfl
  refine ⟨a, d, b, (List.append_assoc a d b).symm, fun z hz => ?_, fun z hz => ?_, hd.trans hlexemes, hpiece, hhead,
    trim_of_ends hhead (last_not_blank hrest.symm hcovers hb hlast')⟩
  · obtain ⟨t, T, rfl⟩ := List.exists_cons_of_ne_nil hT
    obtain rfl := Option.some.inj hz
    rw [(hfirst t rfl).2]
    exact hcovers.1
  · obtain ⟨t, ht⟩ : ∃ t, T.getLast? = some t := ⟨_, List.getLast?_eq_some_getLast hT⟩
    rw [(hlast t ht).2 z hz, byteLength_append]
    exact hcovers.stop_getLast t ht

/-! ### Values that are read again -/

/-- The text is read as one expression where it stands as the value of an argument, before a comma or a closing
parenthesis. -/
structure Movable (levels : Nat) (d : Text) : Prop where
  piece : IsPiece d
  ne_nil : d ≠ []
  first : ∀ c ∈ d.head?, isBlank c = false
  trimmed : trim d = d
  reads : ∀ (u w : Text) (y : Lexeme) (ys : List Lexeme) (last : Nat), y.kind = .comma ∨ y.kind = .closeParen →
    ∃ v, v.kind.isError = false ∧ v.span = ⟨byteLength u, byteLength (u ++ d)⟩ ∧
      (reader (byteLength (u ++ d ++ w)) levels).run argumentPower .bracket ⟨lexemesBehind u d ++ y :: ys, last⟩ =
        some (v, ⟨y :: ys, byteLength (u ++ d)⟩)

/-- Where the place before an expression was reached from, and whether a line break stands there, means nothing
for the expression. -/
theorem run_start (eof levels : Nat) (newline : Bool) (last last' : Nat) :
    (reader eof (levels + 1)).run power context ⟨{ x with newlineBefore := newline } :: xs, last⟩ =
      (reader eof (levels + 1)).run power context ⟨x :: xs, last'⟩ :=
  rfl

/-- An expression with a lexeme behind it spans the lexemes that were read for it. -/
theorem span_of_expression {eof : Nat} (hs : s.Ordered eof) (hrest : s.rest = x :: xs) (hrest' : s'.rest ≠ [])
    (hr : expression eof (reader eof n) power context s = some (t, s')) : t.span = ⟨x.span.start, s'.lastStop⟩ := by
  obtain ⟨rest, last⟩ := s
  obtain rfl : rest = x :: xs := hrest
  have hs₀ : Cursor.Ordered eof ⟨x :: xs, x.span.start⟩ := ⟨Nat.le_refl _, hs.2⟩
  have hr₀ : (reader eof (n + 1)).run power context ⟨x :: xs, x.span.start⟩ = some (t, s') := hr
  have hreads := inOrder_reader eof (n + 1) hs₀ hr₀
  have hfills := filling_reader eof (n + 1) hs₀ hr₀
  obtain ⟨hstart, -, hstop⟩ := forest_cons.1 hreads.forest
  have hstart : x.span.start ≤ t.span.start := hstart
  have hstop : t.span.stop ≤ s'.lastStop := by
    have hle := forest_nil.1 hstop
    rwa [Cursor.reach, if_neg hrest'] at hle
  have h1 := hfills.start_le x rfl
  have h2 := hfills.lastStop_le
  rw [← Nat.le_antisymm h1 hstart, ← Nat.le_antisymm hstop h2]

/-- The lexemes of an expression without errors. -/
theorem lexemes_of_run {eof : Nat} {all : List Lexeme} (hs : s.PlaceOf all)
    (hr : (reader eof n).run power context s = some (t, s')) (hclean : Everywhere Clean [t]) :
    ∃ W x V, all = W ++ x :: V ++ s'.rest ∧ s.rest = x :: V ++ s'.rest ∧
      (∀ z ∈ (x :: V).getLast?, z.span.stop = s'.lastStop) ∧ ∀ z ∈ x :: V, z.kind ≠ .unknown := by
  have hplace := (yielding_reader eof all n hs hr).place
  have hshorter := (reader eof n).shorter hr
  obtain ⟨W, hW⟩ := hs.suffix
  obtain ⟨V, hV⟩ := List.suffix_of_suffix_length_le hplace.suffix hs.suffix (Nat.le_of_lt hshorter)
  have hunknown := discerning_reader eof n hr hclean
  rw [Cursor.unknowns, Cursor.unknowns, ← hV, List.countP_append] at hunknown
  have hknown : ∀ z ∈ V, z.kind ≠ .unknown := by
    have hzero : V.countP (·.kind == .unknown) = 0 := by omega
    intro z hz
    simpa using List.countP_eq_zero.1 hzero z hz
  cases V with
  | nil =>
    rw [Cursor.remaining, Cursor.remaining, ← hV] at hshorter
    exact absurd hshorter (Nat.lt_irrefl _)
  | cons x V =>
    refine ⟨W, x, V, by rw [← hW, ← hV, List.append_assoc], hV.symm, fun z hz => ?_, hknown⟩
    obtain ⟨P, last, hall, hstop⟩ := hplace.exists_last
      (Nat.lt_of_lt_of_le hshorter hs.suffix.length_le)
    have hbefore : W ++ x :: V ++ s'.rest = P ++ [last] ++ s'.rest := by
      rw [List.append_assoc, hV, hW, hall, List.append_assoc]
      rfl
    have hlast := congrArg List.getLast? (List.append_cancel_right hbefore)
    rw [List.getLast?_append, hz, List.getLast?_concat] at hlast
    obtain rfl := Option.some.inj hlast
    exact hstop.symm

/-- The lexemes of a value at the offset `base` of another text, before a comma or a closing parenthesis. -/
def Copy.atOffset {eof : Nat} (base newEof : Nat) (h : InOrder eof x.span.start (x :: V ++ y :: ys))
    (hends : endsSlot .closeParen y = true) (hnew : endsSlot .closeParen z = true) (zs : List Lexeme) : Copy where
  all := x :: V ++ y :: ys
  tail := y :: ys
  newTail := z :: zs
  eof := eof
  newEof := newEof
  move k := k - x.span.start + base
  keeps _ := true
  inOrder := ⟨Nat.zero_le _, h.2⟩
  suffix := List.suffix_append _ _
  ends := isBarrier_of_endsSlot hends
  newEnds := isBarrier_of_endsSlot hnew
  semicolon := nofun
  monotone k l hkl := by
    show k - x.span.start + base ≤ l - x.span.start + base
    omega
  touch p hp q hq := by
    have hstop := h.le_stop_of_mem hp
    have hstart := h.le_start_of_mem hq
    rw [Bool.eq_iff_iff, beq_iff_eq, beq_iff_eq]
    omega

/-- Where no line break is lost, trees without errors do not depend on what comes behind them. -/
def Copy.clean (c : Copy) (hkeeps : ∀ x, c.keeps x = true) : c.Guard :=
  .ofTrees c (fun _ ts => Everywhere Clean ts) hkeeps id (fun h hus => h.subset hus) (fun h => h.children)
    fun h hopen => absurd hopen (by simp [h.root.2])

/-- At the last level nothing is read but an error. -/
theorem Copy.agrees_clean {c : Copy} (hkeeps : ∀ x, c.keeps x = true) (htail : c.tail ≠ []) (sub' : Reader) :
    (c.clean hkeeps).Agrees 0 sub' := by
  intro power context s hs hg
  have hclean : Everywhere Clean (optional (reader c.eof 0) power context s).1 := hg.1
  cases hrest : s.rest with
  | nil =>
    have hle := hs.le
    rw [Cursor.remaining, hrest] at hle
    exact absurd (List.eq_nil_of_length_eq_zero (Nat.le_zero.1 hle)) htail
  | cons x xs =>
    have herror : optional (reader c.eof 0) power context s =
        ([errorTree c.eof x.span.start c.eof true], ⟨[], (xs.getLast?.getD x).span.stop⟩) := by
      simp [optional, reader, bailOut, hrest]
    rw [herror] at hclean
    exact absurd hclean.root.1 (by simp [errorTree, leaf, Tree.kind, Kind.isError])

theorem TextOf.lexemesBehind_eq (h : TextOf source (x :: V) a d b) (u : Text) :
    lexemesBehind u d = ({ x with newlineBefore := false } :: V).map
      (·.relocate (fun k => k - x.span.start + byteLength u)) := by
  have hlexemes : lexemesBehind a d = { x with newlineBefore := false } :: V := h.lexemes
  rw [← hlexemes, lexemesBehind, lexemesBehind, List.map_map, h.start x rfl]
  refine List.map_congr_left fun y _ => ?_
  simp [Lexeme.relocate, Span.relocate]

/-- The text of an expression without errors that a lexeme follows. -/
theorem exists_textOf_of_run {v : Tree} (hs : s.PlaceOf (lexemesOf source))
    (hr : (reader (byteLength source) (n + 1)).run power context s = some (v, s')) (hclean : Everywhere Clean [v])
    (hrest' : s'.rest = y :: ys) :
    ∃ x V a d b, s.rest = x :: V ++ y :: ys ∧ TextOf source (x :: V) a d b ∧
      v.span = ⟨byteLength a, byteLength (a ++ d)⟩ ∧ s'.lastStop = byteLength (a ++ d) := by
  obtain ⟨W, x, V, hall, hrest, hlast, hknown⟩ := lexemes_of_run hs hr hclean
  rw [hrest'] at hall hrest
  obtain ⟨a, d, b, htext⟩ := exists_textOf hall hknown
  have hordered : s.Ordered (byteLength source) := hs.ordered (inOrder_lexemes_tokenizeAll source)
  have hstop : s'.lastStop = byteLength (a ++ d) := by
    obtain ⟨z, hz⟩ : ∃ z, (x :: V).getLast? = some z := ⟨_, List.getLast?_cons⟩
    rw [← hlast z hz, htext.stop z hz]
  refine ⟨x, V, a, d, b, hrest, htext, ?_, hstop⟩
  rw [span_of_expression hordered hrest (by simp [hrest']) hr, htext.start x rfl, hstop]

/-- The text of an expression is read as the expression at its new place. -/
theorem TextOf.run_behind {levels : Nat} {v : Tree} (h : TextOf source (x :: V) a d b)
    (hs : s.Ordered (byteLength source)) (hrest : s.rest = x :: V ++ y :: ys)
    (hr : (reader (byteLength source) (n + 1)).run argumentPower .bracket s =
      some (v, ⟨y :: ys, byteLength (a ++ d)⟩))
    (hclean : Everywhere Clean [v]) (hends : endsSlot .closeParen y = true) (hlevels : n ≤ levels)
    (hnew : endsSlot .closeParen z = true) (zs : List Lexeme) (u w : Text) (last : Nat) :
    (reader (byteLength (u ++ d ++ w)) (levels + 1)).run argumentPower .bracket ⟨lexemesBehind u d ++ z :: zs, last⟩ =
      some (v.relocate (fun k => k - byteLength a + byteLength u), ⟨z :: zs, byteLength (u ++ d)⟩) := by
  obtain ⟨rest, stop⟩ := s
  obtain rfl : rest = x :: V ++ y :: ys := hrest
  have hstart : x.span.start = byteLength a := h.start x rfl
  have horder : InOrder (byteLength source) x.span.start ({ x with newlineBefore := false } :: V ++ y :: ys) :=
    ⟨Nat.le_refl _, hs.2⟩
  let first : Lexeme := { x with newlineBefore := false }
  have horder : InOrder (byteLength source) first.span.start (first :: V ++ y :: ys) := horder
  let c := Copy.atOffset (byteLength u) (byteLength (u ++ d ++ w)) horder hends hnew zs
  have hmove : ∀ k, c.move k = k - byteLength a + byteLength u := by
    intro k
    show k - x.span.start + byteLength u = _
    rw [hstart]
  have hrun : (reader c.eof (n + 1)).run argumentPower .bracket ⟨c.all, 0⟩ =
      some (v, ⟨y :: ys, byteLength (a ++ d)⟩) :=
    (run_start _ n false 0 stop).trans hr
  obtain ⟨m, rfl⟩ := Nat.exists_eq_add_of_le' hlevels
  have hbase : (c.clean fun _ => rfl).Agrees 0 (reader c.newEof m) :=
    Copy.agrees_clean (fun _ => rfl) (List.cons_ne_nil y ys) _
  have hagrees : (c.clean fun _ => rfl).Agrees (n + 1) (reader c.newEof (m + (n + 1))) := hbase.add (n + 1)
  have hmoved := hagrees.some ⟨.start, c.suffix.length_le⟩ hrun ⟨hclean, Nat.le_refl _⟩
  have hbehind : c.place ⟨y :: ys, byteLength (a ++ d)⟩ = ⟨z :: zs, byteLength (u ++ d)⟩ := by
    refine (c.place_append [] _).trans ?_
    rw [hmove, byteLength_append, byteLength_append, Nat.add_sub_cancel_left, Nat.add_comm]
    rfl
  have hlexemes : lexemesBehind u d = (first :: V).map c.lexeme := by
    rw [h.lexemesBehind_eq u]
    exact List.map_congr_left fun p _ => (Copy.lexeme_of_keeps (c := c) rfl).symm
  have hplace : c.place ⟨c.all, 0⟩ = ⟨lexemesBehind u d ++ z :: zs, c.move 0⟩ := by
    have hall : c.all = first :: V ++ c.tail := rfl
    rw [hlexemes, hall, c.place_append]
    rfl
  rw [hplace, Copy.pair, hbehind, funext hmove] at hmoved
  rw [hlexemes] at hmoved ⊢
  exact hmoved

/-- The text of a value without errors can be moved. -/
theorem movable_of_run {levels : Nat} {v : Tree} (hs : s.PlaceOf (lexemesOf source))
    (hr : (reader (byteLength source) n).run argumentPower .bracket s = some (v, s'))
    (hclean : Everywhere Clean [v]) (hrest' : s'.rest = y :: ys) (hends : endsSlot .closeParen y = true)
    (hlevels : n ≤ levels) : Movable levels (v.text source) := by
  cases n with
  | zero =>
    rcases run_cases hs hr with ⟨start, rfl, -⟩ | ⟨m, hm, -⟩
    · exact absurd hclean.root.1 (by simp [errorTree, leaf, Tree.kind, Kind.isError])
    · cases hm
  | succ n =>
    obtain ⟨levels, rfl⟩ := Nat.exists_eq_add_of_le' (Nat.lt_of_lt_of_le (Nat.succ_pos n) hlevels)
    obtain ⟨x, V, a, d, b, hrest, htext, hspan, hstop⟩ := exists_textOf_of_run hs hr hclean hrest'
    have hordered := hs.ordered (inOrder_lexemes_tokenizeAll source)
    obtain rfl : s' = ⟨y :: ys, byteLength (a ++ d)⟩ := by rw [← hrest', ← hstop]
    have hvalue : v.text source = d := by
      rw [Tree.text, hspan, htext.parts, sliceD, slice?_append]
      rfl
    have hne : d ≠ [] := by
      rintro rfl
      have hlexemes := htext.lexemes
      rw [lexemesBehind_empty] at hlexemes
      cases hlexemes
    rw [hvalue]
    refine ⟨htext.piece, hne, htext.first, htext.trimmed, fun u w z zs last hz => ?_⟩
    have hnew : endsSlot .closeParen z = true := by simpa [endsSlot] using hz
    refine ⟨_, ?_, ?_, htext.run_behind hordered hrest hr hclean hends (Nat.le_of_succ_le_succ hlevels) hnew zs u w last⟩
    · rw [isError_relocate]
      exact hclean.root.1
    · rw [span_relocate, hspan, Span.relocate, byteLength_append, byteLength_append, Nat.sub_self, Nat.zero_add,
        Nat.add_sub_cancel_left, Nat.add_comm]

end RSource.Grammar
