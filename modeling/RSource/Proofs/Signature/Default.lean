import RSource.Proofs.Grammar.Excerpt
import RSource.Proofs.Signature.Relocate

/-!
# Defaults that are read again

A signature is read off a function definition below assignments and parentheses. If the tree has no errors, the
definition was read as one, within the levels that expressions may nest, and the default of each parameter is
the value of an argument of its list. So the text of a default is read as an expression wherever it stands in a
list again (`movable_default`).
-/

namespace RSource.Signature
open RSource.Tree Grammar Text Cursor

variable {source : Text} {t left right inner : Tree} {s s' : Cursor} {n power eof : Nat} {context : Context}
  {span op : Span} {ts : List Tree} {x : Lexeme} {xs : List Lexeme} {sub : Reader} {closed : Bool}

/-! ### Operands by their kind -/

/-- The kind of a definition or of parentheses. -/
def isWrapper : Tree.Kind → Bool
  | .functionDefinition | .parenthesized => true
  | _ => false

theorem isWrapper_finish {k : Tree.Kind} {start : Nat} (hk : isWrapper k = false) :
    isWrapper (finish eof k start closed ts s).kind = false := by
  cases closed with
  | false => rfl
  | true => exact hk

theorem isWrapper_loopBody : isWrapper (loopBody eof sub context x closed ts s).1.kind = false := by
  cases closed <;> rfl

theorem isWrapper_wordExpression (h : wordExpression eof sub context x s = some (t, s')) :
    (t, s') = functionDefinition eof sub context x s ∨ isWrapper t.kind = false := by
  have hother : ∀ {r : Tree × Cursor}, isWrapper r.1.kind = false → r = (t, s') → isWrapper t.kind = false := by
    rintro r hr rfl
    exact hr
  unfold wordExpression at h
  split at h <;> simp only [Option.some.injEq, reduceCtorEq] at h
  · exact .inl h.symm
  · refine .inr (hother ?_ h)
    rw [ifExpression_eq]
    dsimp only
    split <;> rfl
  · refine .inr (hother ?_ h)
    rw [forLoop_eq]
    split
    · exact isWrapper_loopBody
    · rfl
  · exact .inr (hother isWrapper_loopBody h)
  · exact .inr (hother isWrapper_loopBody h)
  · exact .inr (hother rfl h)
  · exact .inr (hother rfl h)
  · exact .inr (hother rfl h)

/-- A definition and parentheses are read as what they are. -/
theorem operand_of_isWrapper (h : operand eof sub context x s = some (t, s')) (ht : isWrapper t.kind = true) :
    (t, s') = functionDefinition eof sub context x s ∨ (t, s') = parenthesized eof sub x s := by
  have hnot : ∀ {r : Tree × Cursor}, isWrapper r.1.kind = false → r = (t, s') → False := by
    rintro r hr rfl
    rw [ht] at hr
    cases hr
  unfold operand at h
  split at h
  · exact (hnot rfl (Option.some.inj h)).elim
  · exact (hnot rfl (Option.some.inj h)).elim
  · exact (hnot rfl (Option.some.inj h)).elim
  · exact .inl ((isWrapper_wordExpression h).resolve_right (by simp [ht]))
  · exact .inr (Option.some.inj h).symm
  · exact (hnot (isWrapper_finish (k := .block) rfl) (Option.some.inj h)).elim
  · unfold operatorExpression at h
    split at h
    · exact .inl (Option.some.inj h).symm
    · obtain ⟨q, -, heq⟩ := Option.map_eq_some_iff.1 h
      exact (hnot rfl heq).elim
  · cases h

theorem isError_of_mem_expectCloser {closer : Token.Kind} (h : t ∈ (expectCloser eof closer s).2.1) :
    t.kind.isError = true := by
  unfold expectCloser at h
  split at h
  · cases h
  · split at h
    · cases h
    · rw [List.mem_singleton.1 h]
      rfl

theorem exists_run_of_mem_optional (h : t ∈ (Grammar.optional sub power context s).1) :
    ∃ s', sub.run power context s = some (t, s') := by
  unfold Grammar.optional at h
  split at h
  · next hr =>
    obtain rfl := List.mem_singleton.1 h
    exact ⟨_, hr⟩
  · cases h

/-- In parentheses stand the expression that was read there and errors. -/
theorem mem_condition (h : t ∈ (condition eof sub s).2.1) :
    (∃ s', sub.run 0 .bracket s = some (t, s')) ∨ t.kind.isError = true := by
  rcases List.mem_append.1 h with h | h
  · exact .inl (exists_run_of_mem_optional h)
  · exact .inr (isError_of_mem_expectCloser h)

/-! ### Definitions in a text -/

/-- The tree is an expression of the text, as far as it was read within the levels that expressions may nest. -/
def IsExpression (source : Text) (t : Tree) : Prop :=
  ∃ n power context s, n < maxNesting ∧
    Grown (byteLength source) (lexemesOf source) (reader (byteLength source) n) power context t s

theorem isExpression_of_run (hn : n ≤ maxNesting) (hs : s.PlaceOf (lexemesOf source))
    (hr : (reader (byteLength source) n).run power context s = some (t, s')) (hclean : Clean t) :
    IsExpression source t := by
  rcases run_cases hs hr with ⟨start, rfl, -⟩ | ⟨m, rfl, hgrown, -⟩
  · exact absurd hclean.1 (by simp [errorTree, leaf, Tree.kind, Kind.isError])
  · exact ⟨m, power, context, s', hn, hgrown⟩

theorem isExpression_of_optional (hn : n ≤ maxNesting) (hs : s.PlaceOf (lexemesOf source))
    (ht : t ∈ (Grammar.optional (reader (byteLength source) n) power context s).1) (hclean : Clean t) :
    IsExpression source t := by
  obtain ⟨s', hr⟩ := exists_run_of_mem_optional ht
  exact isExpression_of_run hn hs hr hclean

/-- A definition or parentheses are an operand. -/
theorem IsExpression.operand (h : IsExpression source t) (ht : isWrapper t.kind = true) :
    ∃ n context x s s', n < maxNesting ∧ s.PlaceOf (lexemesOf source) ∧
      ((t, s') = functionDefinition (byteLength source) (reader (byteLength source) n) context x s ∨
        (t, s') = Grammar.parenthesized (byteLength source) (reader (byteLength source) n) x s) := by
  obtain ⟨n, power, context, s, hn, hgrown⟩ := h
  cases hgrown with
  | operand hs hrest h => exact ⟨n, context, _, _, _, hn, hs.next hrest, operand_of_isWrapper h ht⟩
  | call | index | binary => cases ht

theorem IsExpression.parenthesized (h : IsExpression source (.node .parenthesized span (inner :: ts)))
    (hclean : Clean inner) : IsExpression source inner := by
  obtain ⟨n, context, x, s, s', hn, hs, h | h⟩ := h.operand rfl
  · cases congrArg (fun r => r.1.kind) h
  · have hchildren : inner :: ts = (condition (byteLength source) (reader (byteLength source) n) s).2.1 :=
      (congrArg (fun r => r.1.children) h).trans (children_finish ..)
    have hmem : inner ∈ (condition (byteLength source) (reader (byteLength source) n) s).2.1 := by
      rw [← hchildren]
      exact List.mem_cons_self
    rcases mem_condition hmem with ⟨s'', hr⟩ | herror
    · exact isExpression_of_run (Nat.le_of_lt hn) hs hr hclean
    · rw [hclean.1] at herror
      cases herror

theorem IsExpression.binary (h : IsExpression source (.node (.binary op) span [left, right])) (hclean : Clean right) :
    IsExpression source left ∧ IsExpression source right := by
  obtain ⟨n, power, context, s, hn, hgrown⟩ := h
  generalize htree : Tree.node (.binary op) span [left, right] = t at hgrown
  cases hgrown with
  | operand hs hrest h =>
    rw [← htree] at h
    rcases operand_cases h with hplain | ⟨q, -, hkind, -⟩
    · cases hplain
    · cases hkind
  | call => cases htree
  | index => cases htree
  | binary hleft hrest _ _ =>
    obtain ⟨-, -, hchildren⟩ := Tree.node.inj htree
    obtain ⟨rfl, hright⟩ := List.cons.inj hchildren
    have hplace := (hleft.yields (yielding_reader _ _ n)).place.next hrest
    exact ⟨⟨n, power, context, _, hn, hleft⟩,
      isExpression_of_optional (Nat.le_of_lt hn) hplace (hright ▸ List.mem_singleton_self right) hclean⟩

theorem kind_parenthesized : (parenthesized eof sub x s).1.kind ≠ .functionDefinition := by
  unfold parenthesized finish
  dsimp only
  split <;> simp [Tree.kind]

/-- An assignment defines what one of its sides defines. -/
theorem mem_definitions_binary {names : List String} {sig : Signature}
    (h : sig ∈ definitions source names (.node (.binary op) span [left, right])) :
    (∃ names, sig ∈ definitions source names left) ∨ ∃ names, sig ∈ definitions source names right := by
  simp only [definitions] at h
  split at h
  case h_6 => cases h
  all_goals
    split at h
    case isFalse => cases h
  · exact .inr ⟨_, h⟩
  · exact .inr ⟨_, h⟩
  · exact .inr ⟨_, h⟩
  · exact .inl ⟨_, h⟩
  · exact .inl ⟨_, h⟩

/-- The parameters are those of a list of formals of the text, read without errors within the levels that
expressions may nest. -/
def IsDeclared (source : Text) (parameters : List Parameter) : Prop :=
  ∃ n context s span, n < maxNesting ∧ s.PlaceOf (lexemesOf source) ∧
    Everywhere Clean (functionParts (byteLength source) (reader (byteLength source) n) context s).1 ∧
    parameters = formals (.node .functionDefinition span
      (functionParts (byteLength source) (reader (byteLength source) n) context s).1) source

theorem isDeclared_of_mem_definitions (t : Tree) (names : List String) {sig : Signature}
    (h : sig ∈ definitions source names t) (ht : IsExpression source t) (hclean : Everywhere Clean [t]) :
    IsDeclared source sig.parameters := by
  match t with
  | .node k span cs =>
    cases k with
    | functionDefinition =>
      obtain ⟨name, -, rfl⟩ := List.mem_map.1 h
      obtain ⟨n, context, x, s, s', hn, hs, h | h⟩ := ht.operand rfl
      · have hparts : cs = (functionParts (byteLength source) (reader (byteLength source) n) context s).1 :=
          congrArg (fun r => r.1.children) h
        refine ⟨n, context, s, span, hn, hs, ?_, by rw [← hparts]⟩
        rw [← hparts]
        exact hclean.children
      · exact absurd (congrArg (fun r => r.1.kind) h).symm kind_parenthesized
    | binary op =>
      match cs with
      | [left, right] =>
        have hboth : Everywhere Clean [left, right] := hclean.children
        have hright' : Everywhere Clean [right] := hboth.subset (by simp)
        obtain ⟨hleft, hright⟩ := ht.binary hright'.root
        rcases mem_definitions_binary h with ⟨names', h⟩ | ⟨names', h⟩
        · exact isDeclared_of_mem_definitions left names' h hleft (hboth.subset (by simp))
        · exact isDeclared_of_mem_definitions right names' h hright hright'
      | [] => cases h
      | [_] => cases h
      | _ :: _ :: _ :: _ => cases h
    | parenthesized =>
      cases cs with
      | nil => cases h
      | cons inner rest =>
        have hinner : Everywhere Clean [inner] := hclean.children.subset (by simp [Tree.children])
        exact isDeclared_of_mem_definitions inner names h (ht.parenthesized hinner.root) hinner
    | _ => cases h

/-- A statement that is no error is an expression. -/
theorem exists_run_of_mem_statements {all : List Lexeme} {closer : Option Token.Kind} (hsub : sub.Yielding eof all)
    (hs : s.PlaceOf all) (ht : t ∈ (statements eof sub context closer s).1) (hnot : t.kind.isError = false) :
    ∃ e s₁ s₂, s₁.PlaceOf all ∧ sub.run 0 context s₁ = some (e, s₂) ∧ t = .node .expressionStatement e.span [e] := by
  have hskip : ∀ {stops : Lexeme → Bool} {y : Lexeme} {ys : List Lexeme}, t ≠ (skip eof stops y ys).1 := by
    rintro stops y ys rfl
    exact absurd hnot (by simp [isError_skip])
  fun_induction statements eof sub context closer s with
  | case1 | case2 => cases ht
  | case3 s x xs hrest _ _ _ ih => exact ih (hs.next hrest) ht
  | case4 s x xs hrest _ _ _ _ ts s' hst ih =>
    rw [hst] at ih
    rcases List.mem_cons.1 ht with rfl | ht
    · exact absurd hnot (by simp [Lexeme.leaf, Tree.leaf, Tree.kind, Kind.isError])
    · exact ih (hs.next hrest) ht
  | case5 s x xs hrest _ _ _ _ _ r _ ts s' hst ih =>
    rw [hst] at ih
    rcases List.mem_cons.1 ht with ht | ht
    · exact absurd ht hskip
    · exact ih (placeOf_skipLoop (hs.next hrest)) ht
  | case6 s x xs hrest _ _ _ _ e after he _ statement ha =>
    exact ⟨e, s, after, hs, he, List.mem_singleton.1 ht⟩
  | case7 s x xs hrest _ _ _ _ e after he _ statement y ys ha _ ts s' hst ih =>
    rw [hst] at ih
    rcases List.mem_cons.1 ht with ht | ht
    · exact ⟨e, s, after, hs, he, ht⟩
    · exact ih (hsub hs he).place ht
  | case8 s x xs hrest _ _ _ _ e after he _ statement y ys ha _ r _ ts s' hst ih =>
    rw [hst] at ih
    rcases List.mem_cons.1 ht with ht | ht
    · exact ⟨e, s, after, hs, he, ht⟩
    · rcases List.mem_cons.1 ht with ht | ht
      · exact absurd ht hskip
      · exact ih (placeOf_skipLoop ((hsub hs he).place.next ha)) ht

theorem isDeclared_of_mem_extract {sig : Signature} (h : Everywhere Clean (Grammar.parse source).children)
    (hsig : sig ∈ extract source) : IsDeclared source sig.parameters := by
  rw [extract_eq] at hsig
  obtain ⟨statement, hmem, hsig⟩ := List.mem_flatMap.1 hsig
  have hclean : Everywhere Clean [statement] := h.subset (by simpa using hmem)
  obtain ⟨e, s₁, s₂, hs₁, hrun, rfl⟩ :=
    exists_run_of_mem_statements (yielding_reader _ _ maxNesting) .start hmem hclean.root.1
  have he : Everywhere Clean [e] := hclean.children
  exact isDeclared_of_mem_definitions e [] hsig (isExpression_of_run (Nat.le_refl _) hs₁ hrun he.root) he

/-! ### Arguments of a list -/

theorem exists_argument_of_mem_slot {all : List Lexeme} {closer : Token.Kind} (hs : s.PlaceOf all)
    (ht : (slot eof sub closer s).1 = some t) (hclean : Everywhere Clean (slot eof sub closer s).1.toList)
    (hrest : (slot eof sub closer s).2.rest = x :: xs) :
    ∃ s₁ s₂ y ys, s₁.PlaceOf all ∧ argument sub s₁ = some (t, s₂) ∧ s₂.rest = y :: ys ∧
      endsSlot closer y = true := by
  cases hstart : s.rest with
  | nil => simp [slot, hstart] at ht
  | cons y ys =>
    rcases slot_of_clean hstart hclean with ⟨-, hslot⟩ | ⟨-, a, s₁, ha, hslot, hends⟩
    · rw [hslot] at ht
      cases ht
    · rw [hslot] at ht hrest
      obtain rfl := Option.some.inj ht
      exact ⟨s, s₁, x, xs, hs, ha, hrest, hends x (by rw [hrest]; rfl)⟩

/-- An argument of a closed list without errors is empty, or it was read up to a comma or the closer. -/
theorem exists_argument_of_mem_slots {all : List Lexeme} {closer : Token.Kind} {start : Nat}
    (hsub : sub.Yielding eof all) (hs : s.PlaceOf all)
    (hclean : Everywhere Clean (slots eof sub closer start s).1.arguments)
    (hclosed : (slots eof sub closer start s).1.closed = true)
    (ht : t ∈ (slots eof sub closer start s).1.arguments) :
    (∃ span, t = .leaf (.argument false) span) ∨
      ∃ s₁ s₂ y ys, s₁.PlaceOf all ∧ argument sub s₁ = some (t, s₂) ∧ s₂.rest = y :: ys ∧
        endsSlot closer y = true := by
  fun_induction slots eof sub closer start s with
  | case1 start s r hr => cases hclosed
  | case2 start s r x xs hr hx =>
    exact .inr (exists_argument_of_mem_slot hs (Option.mem_toList.1 ht) hclean hr)
  | case3 start s r x xs hr hx _ more s' hm first ih =>
    have hplace : r.2.PlaceOf all := (yields_slot hsub hs).place
    rw [hm] at ih
    rcases List.mem_cons.1 ht with rfl | ht
    · cases hslot : r.1 with
      | none => exact .inl ⟨_, by simp [first, hslot]; rfl⟩
      | some a =>
        have hfirst : first = a := by simp [first, hslot]
        rw [hfirst] at hclean ⊢
        have hslot' : (slot eof sub closer s).1 = some a := hslot
        exact .inr (exists_argument_of_mem_slot hs hslot' (hclean.subset (by rw [hslot']; simp)) hr)
    · exact ih (hplace.next hr) (hclean.subset (List.subset_cons_self _ _)) hclosed ht

/-- The value behind the `=` of an argument that declares a default. -/
theorem exists_run_of_default {all : List Lexeme} {p : Parameter} {e : String} (hs : s.PlaceOf all)
    (ha : argument sub s = some (t, s')) (hp : formal? t source = some p) (he : p.default? = some e) :
    ∃ v s₁, s₁.PlaceOf all ∧ sub.run argumentPower .bracket s₁ = some (v, s') ∧ v ∈ t.children ∧
      e = String.ofList (trim (v.text source)) := by
  cases hnamed : isNamed s.rest with
  | false =>
    rw [argument_of_not_named hnamed] at ha
    obtain ⟨⟨v, s₁⟩, -, heq⟩ := Option.map_eq_some_iff.1 ha
    obtain ⟨rfl, rfl⟩ := Prod.mk.inj heq
    obtain ⟨w, -, rfl⟩ := Option.map_eq_some_iff.1 hp
    cases he
  | true =>
    obtain ⟨x, equals, xs, hrest, -, -⟩ := exists_of_isNamed hnamed
    rw [argument_of_named hrest hnamed, Grammar.optional] at ha
    have hplace : PlaceOf all ⟨xs, equals.span.stop⟩ := (hs.next hrest).next rfl
    cases hrun : sub.run argumentPower .bracket ⟨xs, equals.span.stop⟩ with
    | none =>
      rw [hrun] at ha
      obtain ⟨rfl, rfl⟩ := Prod.mk.inj (Option.some.inj ha)
      obtain rfl := Option.some.inj hp
      cases he
    | some r =>
      obtain ⟨v, s₁⟩ := r
      rw [hrun] at ha
      obtain ⟨rfl, rfl⟩ := Prod.mk.inj (Option.some.inj ha)
      obtain rfl := Option.some.inj hp
      obtain ⟨w, hw, rfl⟩ := Option.map_eq_some_iff.1 he
      have hw : (some v).filter (fun v => !v.kind.isError) = some w := hw
      obtain rfl := Option.some.inj (Option.filter_eq_some_iff.1 hw).1
      exact ⟨v, _, hplace, hrun, by simp [Tree.children], rfl⟩

/-- The list of formals of a definition without errors is closed. -/
theorem exists_slots_of_isDeclared {parameters : List Parameter} {p : Parameter} (h : IsDeclared source parameters)
    (hp : p ∈ parameters) :
    ∃ n start s, n < maxNesting ∧ s.PlaceOf (lexemesOf source) ∧
      Everywhere Clean (slots (byteLength source) (reader (byteLength source) n) .closeParen start s).1.arguments ∧
      (slots (byteLength source) (reader (byteLength source) n) .closeParen start s).1.closed = true ∧
      ∃ a ∈ (slots (byteLength source) (reader (byteLength source) n) .closeParen start s).1.arguments,
        formal? a source = some p := by
  obtain ⟨n, context, s, span, hn, hs, hclean, rfl⟩ := h
  cases hat : s.isAt .openParen with
  | false =>
    rw [functionParts_of_ne hat] at hp
    cases hp
  | true =>
    cases hrest : s.rest with
    | nil => simp [Cursor.isAt, hrest] at hat
    | cons x xs =>
      have hx : x.kind = .openParen := by simpa [Cursor.isAt, hrest] using hat
      obtain ⟨more, hmore⟩ : ∃ more, (functionParts (byteLength source) (reader (byteLength source) n) context s).1 =
          (argumentList (byteLength source) (reader (byteLength source) n) .closeParen x ⟨xs, x.span.stop⟩).1 :: more := by
        simp only [functionParts, hrest, hx, if_true]
        split <;> exact ⟨_, rfl⟩
      rw [hmore] at hp hclean
      have hlist : Everywhere Clean [(argumentList (byteLength source) (reader (byteLength source) n) .closeParen x
          ⟨xs, x.span.stop⟩).1] := hclean.subset (by simp)
      exact ⟨n, x.span.stop, ⟨xs, x.span.stop⟩, hn, hs.next hrest, hlist.children,
        closed_of_clean_argumentList hlist.root, List.mem_filterMap.1 hp⟩

/-- The default of a parameter of a definition without errors is read as an expression wherever it stands as the
value of an argument. -/
theorem movable_default {parameters : List Parameter} {p : Parameter} {e : String} (h : IsDeclared source parameters)
    (hp : p ∈ parameters) (he : p.default? = some e) : Movable (maxNesting - 1) e.toList := by
  obtain ⟨n, start, s, hn, hs, hclean, hclosed, a, ha, hformal⟩ := exists_slots_of_isDeclared h hp
  rcases exists_argument_of_mem_slots (yielding_reader _ _ n) hs hclean hclosed ha with
    ⟨span, rfl⟩ | ⟨s₁, s₂, y, ys, hs₁, hargument, hrest, hends⟩
  · cases hformal
  · obtain ⟨v, s₃, hs₃, hrun, hv, rfl⟩ := exists_run_of_default hs₁ hargument hformal he
    have ha' : Everywhere Clean [a] := hclean.subset (by simpa using ha)
    have hvalue : Everywhere Clean [v] := ha'.children.subset (by simpa using hv)
    have hmovable := movable_of_run hs₃ hrun hvalue hrest hends (Nat.le_sub_one_of_lt hn)
    rwa [String.toList_ofList, hmovable.trimmed]

end RSource.Signature
