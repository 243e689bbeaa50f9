import RSource.Proofs.Grammar.Slots

/-!
# The shape of nodes

What stands below a node, and which tokens its brackets are, depends on its kind alone (`Shaped`). Recovery
changes none of it: what does not fit becomes an error where an error may stand, and a bracket that is never
closed turns its node into an error, or an argument list into an unclosed one, that ends with the text. All
nodes of the tree of a text have their shape (`shaped_parse`), so children can be told apart by their place.
-/

namespace RSource

namespace Tree

/-- The kinds of a program's and a block's children. -/
def Kind.isStatement : Kind → Bool
  | .expressionStatement | .error _ => true
  | _ => false

def Kind.isArgument : Kind → Bool
  | .argument _ => true
  | _ => false

end Tree

namespace Grammar
open RSource.Tree Cursor

def OpensAt (tokens : List Token) (k : Token.Kind) (n : Nat) : Prop :=
  ∃ x ∈ tokens, x.kind = k ∧ x.start = n

def ClosesAt (tokens : List Token) (k : Token.Kind) (n : Nat) : Prop :=
  ∃ x ∈ tokens, x.kind = k ∧ x.stop = n

/-- The span starts with the token `opener` and ends with the token `closer`. -/
def Bracketed (tokens : List Token) (opener closer : Token.Kind) (a : Span) : Prop :=
  OpensAt tokens opener a.start ∧ ClosesAt tokens closer a.stop

/-- The node is an argument list that starts with the token `opener`. -/
def IsListFrom (tokens : List Token) (opener : Token.Kind) (t : Tree) : Prop :=
  t.kind.isArgumentList = true ∧ OpensAt tokens opener t.span.start

/-- What stands below a node of each kind, and which tokens its brackets are, in a text of `eof` bytes. -/
def Shaped (eof : Nat) (tokens : List Token) (t : Tree) : Prop :=
  match t.kind with
  | .program => ∀ c ∈ t.children, c.kind.isStatement = true
  | .block =>
    (∀ c ∈ t.children, c.kind.isStatement = true) ∧ Bracketed tokens .openBrace .closeBrace t.span
  | .expressionStatement => ∃ e, t.children = [e] ∧ e.span = t.span
  | .call => ∃ callee list, t.children = [callee, list] ∧ IsListFrom tokens .openParen list
  | .index _ => ∃ object list, t.children = [object, list] ∧ IsListFrom tokens .openBracket list
  | .argumentList closed _ =>
    (∀ c ∈ t.children, c.kind.isArgument = true) ∧
      if closed then
        Bracketed tokens .openParen .closeParen t.span ∨ Bracketed tokens .openBracket .closeBracket t.span
      else t.span.stop = eof
  | .argument named => ∃ name value junk, t.children = name ++ value ++ junk ∧
      name.length = (if named then 1 else 0) ∧ (∀ c ∈ name, c.isAtom = true) ∧ value.length ≤ 1 ∧
      junk.length ≤ 1 ∧ ∀ c ∈ junk, c.kind.isError = true
  | .binary op => ∃ left right, t.children = left :: right ∧ right.length ≤ 1 ∧
      left.span.stop ≤ op.start ∧ ∀ c ∈ right, op.stop ≤ c.span.start
  | .unary op => t.children.length ≤ 1 ∧ ∀ c ∈ t.children, op.stop ≤ c.span.start
  | .identifier | .literal => t.children = []
  | .parenthesized => Bracketed tokens .openParen .closeParen t.span
  | .error unclosed => unclosed = true → t.span.stop = eof
  | .functionDefinition | .ifExpression | .loopExpression => True

variable {eof a : Nat} {tokens : List Token} {all : List Lexeme} {sub : Reader} {s s' : Cursor} {x : Lexeme}
  {xs : List Lexeme} {t : Tree} {ts : List Tree} {context : Context} {n power : Nat} {closer : Token.Kind}

/-! ### Kinds of children -/

theorem isStatement_of_mem_statements {closer : Option Token.Kind} {c : Tree}
    (h : c ∈ (statements eof sub context closer s).1) : c.kind.isStatement = true := by
  fun_induction statements eof sub context closer s with
  | case1 | case2 => cases h
  | case3 s x xs _ _ _ _ ih => exact ih h
  | case4 s x xs _ _ _ _ _ ts s' hst ih =>
    rw [hst] at ih
    rcases List.mem_cons.1 h with rfl | h
    · rfl
    · exact ih h
  | case5 s x xs _ _ _ _ _ _ r _ ts s' hst ih =>
    rw [hst] at ih
    rcases List.mem_cons.1 h with rfl | h
    · rfl
    · exact ih h
  | case6 s x xs _ _ _ _ _ e after _ _ statement _ =>
    rw [List.mem_singleton.1 h]
    rfl
  | case7 s x xs _ _ _ _ _ e after _ _ statement y ys _ _ ts s' hst ih =>
    rw [hst] at ih
    rcases List.mem_cons.1 h with rfl | h
    · rfl
    · exact ih h
  | case8 s x xs _ _ _ _ _ e after _ _ statement y ys _ _ r _ ts s' hst ih =>
    rw [hst] at ih
    rcases List.mem_cons.1 h with rfl | h
    · rfl
    · rcases List.mem_cons.1 h with rfl | h
      · rfl
      · exact ih h

theorem isArgument_of_argument (h : argument sub s = some (t, s')) : t.kind.isArgument = true := by
  have hvalue : ∀ {o : Option (Tree × Cursor)},
      (o.map fun r => (Tree.node (.argument false) r.1.span [r.1], r.2)) = some (t, s') →
      t.kind.isArgument = true := by
    intro o ho
    obtain ⟨r, -, heq⟩ := Option.map_eq_some_iff.1 ho
    obtain ⟨rfl, -⟩ := Prod.mk.inj heq
    rfl
  unfold argument at h
  split at h
  · split at h
    · obtain ⟨rfl, -⟩ := Prod.mk.inj (Option.some.inj h)
      rfl
    · exact hvalue h
  · exact hvalue h

theorem isArgument_of_slot {c : Tree} (h : (slot eof sub closer s).1 = some c) :
    c.kind.isArgument = true := by
  unfold slot at h
  split at h
  · cases h
  · split at h
    · cases h
    · split at h
      · cases h
        rfl
      · rename_i argument s' hargument
        have hkind := isArgument_of_argument hargument
        split at h
        · cases h
          exact hkind
        · split at h
          · cases h
            exact hkind
          · cases h
            exact hkind

theorem isArgument_of_mem_slots {start : Nat} {c : Tree}
    (h : c ∈ (slots eof sub closer start s).1.arguments) : c.kind.isArgument = true := by
  fun_induction slots eof sub closer start s with
  | case1 start s r _ => exact isArgument_of_slot (Option.mem_toList.1 h)
  | case2 start s r x xs _ _ => exact isArgument_of_slot (Option.mem_toList.1 h)
  | case3 start s r x xs _ _ _ more s' hm first ih =>
    rw [hm] at ih
    rcases List.mem_cons.1 h with rfl | h
    · cases hslot : r.1 with
      | none =>
        rw [show first = .leaf (.argument false) ⟨start, x.span.start⟩ by simp [first, hslot]]
        rfl
      | some c =>
        rw [show first = c by simp [first, hslot]]
        exact isArgument_of_slot hslot
    · exact ih h

/-! ### Closers -/

/-- The place is right behind a lexeme of the kind `closer`, and the trees stand between `a` and the end of
that lexeme. -/
def ClosedBy (all : List Lexeme) (closer : Token.Kind) (a : Nat) (ts : List Tree) (s : Cursor) : Prop :=
  ∃ y ∈ all, y.kind = closer ∧ y.span.stop = s.lastStop ∧ Forest a y.span.stop ts

/-- A closer that comes next closes what was read before it. -/
theorem closedBy_of_reads (hs : s'.PlaceOf all) (h : Reads eof s ts s') (ha : a ≤ s.reach eof)
    (hrest : s'.rest = x :: xs) : ClosedBy all x.kind a ts ⟨xs, x.span.stop⟩ := by
  obtain ⟨h1, h2⟩ := h.ordered.next hrest
  exact ⟨x, hs.mem hrest, rfl, rfl, (h.forest.start_le ha).le_stop (Nat.le_trans h1 h2.start_le_stop)⟩

theorem closedBy_condition (hsub : sub.InOrder eof) (hyields : sub.Yielding eof all) (hs : s.PlaceOf all)
    (hordered : s.Ordered eof) (ha : a ≤ s.reach eof) (h : (condition eof sub s).1 = true) :
    ClosedBy all .closeParen a (condition eof sub s).2.1 (condition eof sub s).2.2 := by
  have hplace := (yields_optional hyields hs 0 .bracket).place
  have hinner := reads_optional hsub hordered 0 .bracket
  unfold condition at h ⊢
  dsimp only at h ⊢
  unfold expectCloser at h ⊢
  split at h
  · cases h
  · rename_i x xs hrest
    split at h
    · rename_i hkind
      have hclosed := closedBy_of_reads hplace hinner ha hrest
      simp only [hkind, if_true, List.append_nil]
      rwa [hkind, ← advance_of_cons hrest] at hclosed
    · rename_i hkind
      simp only [hkind, if_false]
      have hskip := @reads_skip eof _ _ _ (·.kind == .closeParen) hinner.ordered hrest
      have hplace' := (@yields_skip eof _ _ _ _ (·.kind == .closeParen) hplace hrest).place
      -- skipping ended before the text did, so the closer comes next
      obtain ⟨y, ys, hy⟩ : ∃ y ys, (skip eof (·.kind == .closeParen) x xs).2.rest = y :: ys := by
        refine List.exists_cons_of_ne_nil fun hnil => ?_
        simp [hnil] at h
      have hclose : y.kind = .closeParen := by simpa using stops_of_skipLoop hy
      have hclosed := closedBy_of_reads hplace' (hinner.trans hskip) ha hy
      rwa [hclose, ← advance_of_cons hy] at hclosed

theorem closedBy_slots (hs : s.PlaceOf all) (start : Nat)
    (h : (slots eof (reader eof n) closer start s).1.closed = true) :
    ∃ y ∈ all, y.kind = closer ∧ y.span.stop = (slots eof (reader eof n) closer start s).2.lastStop := by
  fun_induction slots eof (reader eof n) closer start s with
  | case1 => cases h
  | case2 start s r x xs hr hx =>
    exact ⟨x, (yields_slot (yielding_reader eof all n) hs).place.mem hr, hx, rfl⟩
  | case3 start s r x xs hr hx _ more s' hm first ih =>
    rw [hm] at ih
    exact ih ((yields_slot (yielding_reader eof all n) hs).place.next hr) h

/-- A node that was closed ends with its closer. -/
theorem ClosedBy.stop_finish {k : Tree.Kind} (h : ClosedBy all closer a ts s) :
    ∃ y ∈ all, y.kind = closer ∧ y.span.stop = (finish eof k a true ts s).span.stop := by
  obtain ⟨y, hy, hkind, hstop, hforest⟩ := h
  obtain ⟨-, hlast⟩ := forest_lastStopD hforest (Nat.le_refl a)
  have hle := hforest.le
  refine ⟨y, hy, hkind, ?_⟩
  show y.span.stop = max (max s.lastStop (lastStopD ts a)) a
  omega

/-! ### Expressions -/

def AreTokens (tokens : List Token) (all : List Lexeme) : Prop :=
  ∀ x ∈ all, ∃ token ∈ tokens, token.kind = x.kind ∧ token.span = x.span

theorem AreTokens.opensAt (h : AreTokens tokens all) (hx : x ∈ all) :
    OpensAt tokens x.kind x.span.start := by
  obtain ⟨token, hmem, hkind, hspan⟩ := h x hx
  exact ⟨token, hmem, hkind, congrArg Span.start hspan⟩

theorem AreTokens.closesAt (h : AreTokens tokens all) (hx : x ∈ all) :
    ClosesAt tokens x.kind x.span.stop := by
  obtain ⟨token, hmem, hkind, hspan⟩ := h x hx
  exact ⟨token, hmem, hkind, congrArg Span.stop hspan⟩

/-- An expression stands before the place behind it. -/
theorem Grown.stands (hall : InOrder eof 0 all) (h : Grown eof all (reader eof n) power context t s) :
    Stands eof t.span.start t s := by
  have hsub : (reader eof n).InOrder eof := inOrder_reader eof n
  induction h with
  | operand hs hrest h =>
    have hstands := stands_operand hsub ((hs.ordered hall).next hrest).2 h
    exact hstands.start_eq ▸ hstands
  | @call left s x xs h hrest hx hkind ih =>
    obtain ⟨h1, h2⟩ := ih.ordered.next hrest
    have hlist := (@argumentList_spec _ _ _ .closeParen hsub _ h2).1
    have hcall := ih.call hlist (Nat.le_trans ih.stop_le h1)
    exact hcall.start_eq ▸ hcall
  | @index left s x xs h hrest hx hkind ih =>
    obtain ⟨h1, h2⟩ := ih.ordered.next hrest
    exact stands_index hsub h2 ih.sound (Nat.le_trans ih.stop_le h1)
  | @binary left s x xs right h hrest hx hright ih =>
    obtain ⟨h1, h2⟩ := ih.ordered.next hrest
    have hoperand := reads_optional hsub h2.ordered right context
    exact hoperand.node_cons h2.stop_le_reach ih.sound
      (Nat.le_trans ih.stop_le (Nat.le_trans h1 h2.start_le_stop))

theorem start_of_mem_forest {b : Nat} {c : Tree} (h : Forest a b ts) (hc : c ∈ ts) : a ≤ c.span.start := by
  induction ts generalizing a with
  | nil => cases hc
  | cons t ts ih =>
    obtain ⟨h1, h2, h3⟩ := forest_cons.1 h
    rcases List.mem_cons.1 hc with rfl | hc
    · exact h1
    · exact Nat.le_trans h1 (Nat.le_trans h2.start_le_stop (ih h3 hc))

/-- What is read behind a lexeme starts behind it. -/
theorem stop_le_of_mem_optional (hx : Behind eof x s) {c : Tree}
    (hc : c ∈ (optional (reader eof n) power context s).1) : x.span.stop ≤ c.span.start :=
  Nat.le_trans hx.stop_le_reach
    (start_of_mem_forest (reads_optional (inOrder_reader eof n) hx.ordered power context).forest hc)

theorem shaped_loopBody {closed : Bool} :
    Shaped eof tokens (loopBody eof sub context x closed ts s).1 := by
  cases closed with
  | true => trivial
  | false => exact fun _ => rfl

theorem shaped_wordExpression (h : wordExpression eof sub context x s = some (t, s')) :
    Shaped eof tokens t := by
  have hshaped : ∀ {r : Tree × Cursor}, r = (t, s') → Shaped eof tokens r.1 → Shaped eof tokens t := by
    rintro r rfl hr
    exact hr
  unfold wordExpression at h
  split at h <;> simp only [Option.some.injEq, reduceCtorEq] at h
  · exact hshaped h trivial
  · refine hshaped h ?_
    unfold ifExpression
    dsimp only
    split
    · trivial
    · exact fun _ => rfl
  · refine hshaped h ?_
    unfold forLoop
    split
    · exact shaped_loopBody
    · trivial
  · exact hshaped h shaped_loopBody
  · exact hshaped h shaped_loopBody
  · exact hshaped h rfl
  · exact hshaped h rfl
  · exact hshaped h rfl

theorem shaped_parenthesized (htokens : AreTokens tokens all) (hx : x ∈ all) (hkind : x.kind = .openParen)
    (hs : s.PlaceOf all) (hbehind : Behind eof x s) :
    Shaped eof tokens (parenthesized eof (reader eof n) x s).1 := by
  have hclosed := closedBy_condition (inOrder_reader eof n) (yielding_reader eof all n) hs hbehind.ordered
    hbehind.start_le_reach
  unfold parenthesized
  dsimp only
  cases hc : (condition eof (reader eof n) s).1 with
  | false => exact fun _ => rfl
  | true =>
    obtain ⟨y, hy, hclose, hstop⟩ := (hclosed hc).stop_finish (k := .parenthesized)
    refine ⟨hkind ▸ htokens.opensAt hx, ?_⟩
    rw [← hstop, ← hclose]
    exact htokens.closesAt hy

theorem shaped_block (htokens : AreTokens tokens all) (hx : x ∈ all) (hkind : x.kind = .openBrace)
    (hs : s.PlaceOf all) (hbehind : Behind eof x s) :
    Shaped eof tokens (block eof (reader eof n) x s).1 := by
  have hplace := (yields_statements (yielding_reader eof all n) hs .brace (some .closeBrace)).place
  have hreads := (reads_statements (inOrder_reader eof n) hbehind.ordered .brace (some .closeBrace)).1
  unfold block
  dsimp only
  cases hclosed : (statements eof (reader eof n) .brace (some .closeBrace) s).2.isAt .closeBrace with
  | false => exact fun _ => rfl
  | true =>
    obtain ⟨y, ys, hrest, hclose⟩ : ∃ y ys, (statements eof (reader eof n) .brace (some .closeBrace) s).2.rest =
        y :: ys ∧ y.kind = .closeBrace := by
      cases hrest : (statements eof (reader eof n) .brace (some .closeBrace) s).2.rest with
      | nil => simp [isAt, hrest] at hclosed
      | cons y ys => exact ⟨y, ys, rfl, by simpa [isAt, hrest] using hclosed⟩
    simp only [if_true, advance_of_cons hrest]
    obtain ⟨z, hz, hclose', hstop⟩ :=
      (closedBy_of_reads hplace hreads hbehind.start_le_reach hrest).stop_finish (k := .block)
    refine ⟨fun c hc => isStatement_of_mem_statements hc, hkind ▸ htokens.opensAt hx, ?_⟩
    rw [← hstop, ← hclose, ← hclose']
    exact htokens.closesAt hz

theorem shaped_operand (htokens : AreTokens tokens all) (hx : x ∈ all) (hs : s.PlaceOf all)
    (hbehind : Behind eof x s) (h : operand eof (reader eof n) context x s = some (t, s')) :
    Shaped eof tokens t := by
  unfold operand at h
  split at h
  · cases h
    rfl
  · cases h
    rfl
  · cases h
    rfl
  · exact shaped_wordExpression h
  · cases h
    exact shaped_parenthesized htokens hx ‹_› hs hbehind
  · cases h
    exact shaped_block htokens hx ‹_› hs hbehind
  · unfold operatorExpression at h
    split at h
    · cases h
      trivial
    · obtain ⟨q, -, heq⟩ := Option.map_eq_some_iff.1 h
      obtain ⟨rfl, -⟩ := Prod.mk.inj heq
      exact ⟨length_optional_le .., fun c hc => stop_le_of_mem_optional hbehind hc⟩
  · cases h

/-! ### Every node -/

theorem isListFrom_argumentList (htokens : AreTokens tokens all) (hx : x ∈ all) :
    IsListFrom tokens x.kind (argumentList eof sub closer x s).1 :=
  ⟨rfl, htokens.opensAt hx⟩

/-- The list of an index starts with the second bracket if that touches the first one, else with the first. -/
theorem isListFrom_index (htokens : AreTokens tokens all) (hx : x ∈ all) (hkind : x.kind = .openBracket)
    (hs : s.PlaceOf all) (object : Tree) :
    ∃ list, (index eof sub object x s).1.children = [object, list] ∧
      IsListFrom tokens .openBracket list := by
  unfold index
  dsimp only
  split
  · rename_i y hy
    obtain ⟨ys, hys, hy'⟩ := rest_of_head?_filter hy
    simp only [Bool.and_eq_true, beq_iff_eq] at hy'
    exact ⟨_, rfl, hy'.1 ▸ isListFrom_argumentList htokens (hs.mem hys)⟩
  · exact ⟨_, rfl, hkind ▸ isListFrom_argumentList htokens hx⟩

theorem Grown.shaped (htokens : AreTokens tokens all) (hall : InOrder eof 0 all)
    (h : Grown eof all (reader eof n) power context t s) : Shaped eof tokens t := by
  cases h with
  | operand hs hrest h =>
    exact shaped_operand htokens (hs.mem hrest) (hs.next hrest) ((hs.ordered hall).next hrest).2 h
  | @call left s x xs h hrest hx hkind =>
    have hplace := (h.yields (yielding_reader eof all n)).place
    exact ⟨left, _, rfl, hkind ▸ isListFrom_argumentList htokens (hplace.mem hrest)⟩
  | @index left s x xs h hrest hx hkind =>
    have hplace := (h.yields (yielding_reader eof all n)).place
    obtain ⟨list, hchildren, hlist⟩ :=
      isListFrom_index htokens (hplace.mem hrest) hkind (hplace.next hrest) left
    exact ⟨left, list, hchildren, hlist⟩
  | @binary left s x xs right h hrest hx hright =>
    have hleft := h.stands hall
    obtain ⟨h1, h2⟩ := hleft.ordered.next hrest
    exact ⟨left, _, rfl, length_optional_le .., Nat.le_trans hleft.stop_le h1,
      fun c hc => stop_le_of_mem_optional h2 hc⟩

theorem shaped_argumentList (htokens : AreTokens tokens all) (hs : s.PlaceOf all) (hrest : s.rest = x :: xs)
    (hx : x.kind = .openParen ∧ closer = .closeParen ∨ x.kind = .openBracket ∧ closer = .closeBracket) :
    Shaped eof tokens (argumentList eof (reader eof n) closer x ⟨xs, x.span.stop⟩).1 := by
  refine ⟨fun c hc => isArgument_of_mem_slots hc, ?_⟩
  have hopens := htokens.opensAt (hs.mem hrest)
  simp only [argumentList, Tree.span]
  cases hclosed : (slots eof (reader eof n) closer x.span.stop ⟨xs, x.span.stop⟩).1.closed with
  | false => rfl
  | true =>
    obtain ⟨y, hy, hclose, hstop⟩ := closedBy_slots (hs.next hrest) x.span.stop hclosed
    have hcloses := htokens.closesAt hy
    rw [hclose, hstop] at hcloses
    simp only [if_true]
    rcases hx with ⟨hkind, rfl⟩ | ⟨hkind, rfl⟩
    · exact .inl ⟨hkind ▸ hopens, hcloses⟩
    · exact .inr ⟨hkind ▸ hopens, hcloses⟩

theorem Form.shaped (htokens : AreTokens tokens all) (hall : InOrder eof 0 all) (h : Form eof all t) :
    Shaped eof tokens t := by
  cases h with
  | expression h => exact h.shaped htokens hall
  | list hs hrest hx => exact shaped_argumentList htokens hs hrest hx
  | argument hname hatom hvalue hjunk herror =>
    exact ⟨_, _, _, rfl, hname, hatom, hvalue, hjunk, herror⟩
  | statement e => exact ⟨e, rfl, rfl⟩
  | error start stop unclosed =>
    rintro rfl
    rfl
  | leaf hs hrest hk =>
    rcases hk with rfl | rfl | rfl
    · rfl
    · rfl
    · exact fun h => Bool.noConfusion h

theorem areTokens_lexemes (source : Text) (tokens : List Token) :
    AreTokens tokens (lexemes source tokens) := by
  intro x hx
  obtain ⟨token, hmem, -, hkind, hspan, -⟩ := token_of_mem_lexemesFrom hx
  exact ⟨token, hmem, hkind.symm, hspan.symm⟩

/-- Every node of the tree of a text has the shape of its kind. -/
theorem shaped_parse (source : Text) (t : Tree) (ht : t ∈ (parse source).nodes) :
    Shaped source.byteLength (Token.tokenizeAll source) t := by
  rcases form_of_mem_build ht with rfl | h
  · exact fun c hc => isStatement_of_mem_statements hc
  · exact h.shaped (areTokens_lexemes source _) (inOrder_lexemes_tokenizeAll source)

/-- An argument with a name, a value and what recovery skipped behind it, in a text with two brackets that
are never closed. -/
theorem shaped_parse_junk :
    let source : Text := "f(a = 1 2, ) + x[[\x7b".toList
    ∃ t ∈ (parse source).nodes, t.kind = .argument true ∧
      t.children.map (·.kind) = [.identifier, .literal, .error false] ∧
      Shaped source.byteLength (Token.tokenizeAll source) t := by
  intro source
  have hmem := List.get_mem (parse source).nodes ⟨6, by decide +kernel⟩
  exact ⟨_, hmem, by decide +kernel, by decide +kernel, shaped_parse source _ hmem⟩

end Grammar

end RSource
