import RSource.Proofs.Signature.Default

/-!
# Labels read back

The label of a signature writes its parameters as a list of formals: names, with ` = ` and the default behind
them. A parameter that was declared in a text without errors, under a name without quotes, is read from its label
as it was declared (`readable_label`). So the formals in the label of a signature declare the parameters of the
signature again (`parameters_ofFormals_label`).
-/

namespace RSource.Signature
open RSource.Tree Grammar Text Token

variable {source d u v w : Text} {p : Parameter} {levels : Nat}

/-! ### Parameters -/

def Declares (p : Parameter) (source : Text) (a : Tree) : Prop :=
  formal? a source = some p

theorem unquotedText_of_isPlainName (hw : IsPlainName w) (kind : Tree.Kind) (u v : Text) :
    (leaf kind ⟨byteLength u, byteLength (u ++ w)⟩).unquotedText (u ++ w ++ v) = String.ofList w := by
  have htext : (leaf kind ⟨byteLength u, byteLength (u ++ w)⟩).text (u ++ w ++ v) = w := by
    show sliceD (u ++ w ++ v) (byteLength u) (byteLength (u ++ w)) = w
    rw [sliceD, slice?_append]
    rfl
  rw [unquotedText, htext, unquote_of_isPlainName hw]

/-- A name alone declares a parameter without a default. -/
theorem readable_name (levels : Nat) (hw : IsPlainName w) :
    Readable (levels + 1) (Declares (.of (String.ofList w))) w := by
  refine readable_word (isWord_name hw) (.inl ⟨rfl, rfl⟩) fun u v => ?_
  show some (Parameter.of ((leaf .identifier ⟨byteLength u, byteLength (u ++ w)⟩).unquotedText (u ++ w ++ v))) = _
  rw [unquotedText_of_isPlainName hw]

theorem formal?_assigned {name value : Tree} {span : Span} (h : value.kind.isError = false) :
    formal? (.node (.argument true) span [name, value]) source =
      some (.of (name.unquotedText source) (some (String.ofList (trim (value.text source))))) := by
  have hvalue : (some value).filter (fun v => !v.kind.isError) = some value := by
    rw [Option.filter_some, h]
    rfl
  have hvalue : (Tree.node (.argument true) span [name, value]).argumentValue? = some value := hvalue
  rw [formal?, hvalue]
  rfl

theorem lexemesBehind_assigned (hw : IsWord .identifier w) (hv : ∀ c ∈ v.head?, isInlineBlank c = false) (u : Text) :
    lexemesBehind u (w ++ [' ', '=', ' '] ++ v) =
      ⟨.identifier, ⟨byteLength u, byteLength (u ++ w)⟩, String.ofList w, false⟩ ::
        ⟨.operator, ⟨byteLength (u ++ w ++ [' ']), byteLength (u ++ w ++ [' ', '='])⟩, "=", false⟩ ::
          lexemesBehind (u ++ w ++ [' ', '=', ' ']) v := by
  have hequals : IsWord .operator ['='] := isWord_operator (.inl ⟨"=", by decide, rfl⟩)
  have hblank : ∀ c ∈ (['='] ++ ' ' :: v).head?, isInlineBlank c = false := by
    rintro c ⟨⟩
    decide
  have hsecond := lexemesBehind_word hequals rfl (u ++ w ++ [' ']) (isApart_space v)
  rw [lexemesBehind_space hv] at hsecond
  rw [List.append_assoc, show [' ', '=', ' '] ++ v = ' ' :: (['='] ++ ' ' :: v) from rfl,
    lexemesBehind_word hw rfl u (isApart_space _), lexemesBehind_space hblank, hsecond]
  simp

theorem readable_assigned (hw : IsPlainName w) (hd : Movable levels d) :
    Readable levels (Declares (.of (String.ofList w) (some (String.ofList d)))) (w ++ [' ', '=', ' '] ++ d) := by
  have hword := isWord_name hw
  have hblank : ∀ t, ∀ c ∈ (d ++ t).head?, isInlineBlank c = false := by
    intro t c hc
    rw [List.head?_append_of_ne_nil _ hd.ne_nil] at hc
    simp [isInlineBlank, hd.first c hc]
  have hlexemes := lexemesBehind_assigned hword (v := d) (by simpa using hblank [])
  refine ⟨fun t ht => ?_, ?_, ?_, fun u t y ys last hy => ?_⟩
  · have hwhole := lexemesBehind_assigned hword (hblank t) []
    rw [← List.append_assoc, lexemesBehind_start, hd.piece.behind _ ht] at hwhole
    rw [hwhole, ← lexemesBehind_start, hlexemes]
    simp
  · obtain ⟨c, cs, rfl, hc, -⟩ := hword
    rintro e ⟨⟩
    exact hc
  · exact ⟨_, _, (lexemesBehind_start _).symm.trans (hlexemes []), rfl⟩
  · have hassoc : u ++ w ++ [' ', '=', ' '] ++ d = u ++ (w ++ [' ', '=', ' '] ++ d) := by simp
    obtain ⟨value, herror, hspan, hrun⟩ := hd.reads (u ++ w ++ [' ', '=', ' ']) t y ys
      (byteLength (u ++ w ++ [' ', '='])) hy
    have hvalue : value.text (u ++ w ++ [' ', '=', ' '] ++ d ++ t) = d := by
      rw [Tree.text, hspan, sliceD, slice?_append]
      rfl
    have hname := unquotedText_of_isPlainName hw .identifier u ([' ', '=', ' '] ++ d ++ t)
    rw [← List.append_assoc, ← List.append_assoc] at hname
    rw [hassoc] at hrun hvalue hname
    refine ⟨.node (.argument true) ⟨byteLength u, value.span.stop⟩
      [leaf .identifier ⟨byteLength u, byteLength (u ++ w)⟩, value], ?_, ?_⟩
    · rw [Declares, formal?_assigned herror, hname, hvalue, hd.trimmed]
    · rw [hlexemes u, List.cons_append, List.cons_append, argument_of_named rfl rfl, Grammar.optional, hrun]
      rfl

/-- What is declared is variadic if its name says so. -/
theorem isVariadic_of_formal? {argument : Tree} (h : formal? argument source = some p) :
    p.isVariadic = (p.name == variadicName) := by
  unfold formal? at h
  split at h
  · obtain rfl := Option.some.inj h
    rfl
  · obtain ⟨v, -, rfl⟩ := Option.map_eq_some_iff.1 h
    rfl

theorem readable_label (hvariadic : p.isVariadic = (p.name == variadicName)) (hname : IsPlainName p.name.toList)
    (hdefault : ∀ e, p.default? = some e → Movable (levels + 1) e.toList) :
    Readable (levels + 1) (Declares p) p.label.toList := by
  obtain ⟨name, _ | e, variadic⟩ := p <;> obtain rfl : variadic = (name == variadicName) := hvariadic
  · have h := readable_name levels hname
    rwa [String.ofList_toList] at h
  · have h := readable_assigned hname (hdefault e rfl)
    rw [String.ofList_toList, String.ofList_toList] at h
    rwa [Parameter.label, String.toList_append, String.toList_append]

theorem filterMap_formal? {parameters : List Parameter} {arguments : List Tree}
    (h : List.Forall₂ (fun p a => Declares p source a) parameters arguments) :
    arguments.filterMap (fun a => formal? a source) = parameters := by
  induction h with
  | nil => rfl
  | cons ha _ ih =>
    rw [Declares] at ha
    rw [List.filterMap_cons, ha, ih]

/-! ### Definitions -/

variable {eof last stop : Nat} {sub : Reader} {context : Context} {word opener x : Lexeme} {xs : List Lexeme}
  {list body : Tree} {s : Cursor}

theorem expression_definition (hkind : word.kind = .keyword) (htext : word.text = "function")
    (hopener : opener.kind = .openParen)
    (hlist : argumentList eof sub .closeParen opener ⟨xs, opener.span.stop⟩ = (list, s))
    (hclosed : isClosedList list = true) (hbody : sub.run bodyPower context s = some (body, ⟨[], stop⟩)) :
    expression eof sub 0 context ⟨word :: opener :: xs, last⟩ =
      some (.node .functionDefinition ⟨word.span.start, body.span.stop⟩ [list, body], ⟨[], stop⟩) := by
  have hparts : functionParts eof sub context ⟨opener :: xs, word.span.stop⟩ = ([list, body], ⟨[], stop⟩) := by
    simp only [functionParts, hopener, if_true, hlist, hclosed, Grammar.optional, hbody]
  simp only [expression, operand, hkind, wordExpression, htext, functionDefinition_eq, hparts, Option.map_some]
  rw [extend_of_nil rfl]
  rfl

/-- The literal that stands for the body of a function. -/
theorem run_null {power : Nat} (hkind : x.kind = .keyword) (htext : x.text = "NULL") :
    (reader eof (levels + 1)).run power context ⟨[x], last⟩ = some (x.leaf .literal, ⟨[], x.span.stop⟩) := by
  have hoperand : operand eof (reader eof levels) context x ⟨[], x.span.stop⟩ =
      some (x.leaf .literal, ⟨[], x.span.stop⟩) := by
    simp [operand, hkind, wordExpression, htext]
  show expression eof (reader eof levels) power context ⟨[x], last⟩ = _
  simp only [expression, hoperand, Option.map_some]
  rw [extend_of_nil rfl]

/-- The text of a definition with the given formals, as it is read for them. -/
def definitionText (formals : List Text) : Text :=
  "function".toList ++ listText [',', ' '] formals ++ ' ' :: "NULL".toList

theorem definitionText_eq (formals : List Text) :
    "function(".toList ++ [',', ' '].intercalate formals ++ ") NULL".toList = definitionText formals := by
  have hopen : "function(".toList = "function".toList ++ ['('] := by decide +kernel
  have hclose : ") NULL".toList = [')'] ++ ' ' :: "NULL".toList := by decide +kernel
  rw [hopen, hclose]
  unfold definitionText listText
  simp

theorem lexemesOf_definitionText (formals : List Text) : lexemesOf (definitionText formals) =
    ⟨.keyword, ⟨0, byteLength "function".toList⟩, "function", false⟩ ::
      ⟨.openParen, ⟨byteLength "function".toList, byteLength ("function".toList ++ ['('])⟩, "(", false⟩ ::
        lexemesBehind ("function".toList ++ ['(']) ([',', ' '].intercalate formals ++ ')' :: ' ' :: "NULL".toList) := by
  have hword : "function" ∈ keywords := by decide
  have hends : ∀ d ∈ (listText [',', ' '] formals ++ ' ' :: "NULL".toList).head?, d ∈ nameEnds := by
    simp [listText, nameEnds]
  have hlexemes := lexemesBehind_keyword hword hends []
  rw [lexemesBehind_listText, List.nil_append, lexemesBehind_start, ← List.append_assoc] at hlexemes
  exact hlexemes

theorem lexemesBehind_null (u : Text) : lexemesBehind u (' ' :: "NULL".toList) =
    [⟨.keyword, ⟨byteLength (u ++ [' ']), byteLength (u ++ [' '] ++ "NULL".toList)⟩, "NULL", false⟩] := by
  have hword : "NULL" ∈ keywords := by decide
  have hnull := lexemesBehind_keyword hword (v := []) (by simp) (u ++ [' '])
  rw [List.append_nil, lexemesBehind_empty] at hnull
  have hfirst : ∀ d ∈ "NULL".toList.head?, isInlineBlank d = false := by
    intro d hd
    obtain rfl : 'N' = d := Option.some.inj hd
    decide
  rw [lexemesBehind_space hfirst, hnull]

theorem parse_definitionText {parameters : List Parameter}
    (h : ∀ p ∈ parameters, Readable (maxNesting - 1) (Declares p) p.label.toList)
    (hsource : source = definitionText (parameters.map fun p => p.label.toList)) :
    ∃ arguments commas list span body, List.Forall₂ (fun p a => Declares p source a) parameters arguments ∧
      Grammar.parse source = .node .program ⟨0, byteLength source⟩ [.node .expressionStatement span
        [.node .functionDefinition span [.node (.argumentList true commas) list arguments, body]]] := by
  obtain ⟨arguments, commas, harguments, hlist⟩ := argumentList_written (by decide) h hsource
    ⟨.openParen, ⟨byteLength "function".toList, byteLength ("function".toList ++ ['('])⟩, "(", false⟩
  have hlexemes := lexemesOf_definitionText (parameters.map fun p => p.label.toList)
  rw [← hsource] at hlexemes
  rw [lexemesBehind_null] at hlist
  exact ⟨arguments, commas, _, _, _, harguments, parse_expression hlexemes rfl rfl
    (expression_definition rfl rfl rfl hlist rfl (run_null rfl rfl))⟩

/-! ### Labels -/

theorem withoutParens_listText (sep : Text) (pieces : List Text) :
    withoutParens (listText sep pieces) = sep.intercalate pieces := by
  rw [listText, withoutParens, dropFinal?, List.getLast?_concat, if_pos rfl, List.dropLast_concat]
  rfl

theorem trim_listText (sep : Text) (pieces : List Text) : trim (listText sep pieces) = listText sep pieces := by
  refine trim_of_ends (fun c hc => ?_) (fun c hc => ?_)
  · obtain rfl := Option.some.inj hc
    decide
  · rw [listText, ← List.cons_append, List.getLast?_concat] at hc
    obtain rfl := Option.some.inj hc
    decide

theorem drop_label (s : Signature) :
    s.label.toList.drop s.name.toList.length = listText [',', ' '] (s.parameters.map fun p => p.label.toList) := by
  have hjoined : (", ".intercalate (s.parameters.map Parameter.label)).toList =
      [',', ' '].intercalate (s.parameters.map fun p => p.label.toList) := by
    rw [String.toList_intercalate, List.map_map]
    rfl
  simp only [label, String.toList_append, List.append_assoc, List.drop_left, hjoined]
  rfl

theorem parameters_ofFormals_listText {parameters : List Parameter}
    (h : ∀ p ∈ parameters, Readable (maxNesting - 1) (Declares p) p.label.toList) (name : String) :
    (ofFormals name (String.ofList (listText [',', ' '] (parameters.map fun p => p.label.toList)))).parameters =
      parameters := by
  obtain ⟨arguments, commas, list, span, body, harguments, htree⟩ := parse_definitionText h rfl
  have hfind : (Grammar.parse (definitionText (parameters.map fun p => p.label.toList))).nodes.find?
      (fun t => t.kind == .functionDefinition) =
        some (.node .functionDefinition span [.node (.argumentList true commas) list arguments, body]) := by
    rw [htree, nodes_node, List.find?_cons_of_neg (by simp [Tree.kind]), List.flatMap_singleton, nodes_node,
      List.find?_cons_of_neg (by simp [Tree.kind]), List.flatMap_singleton, nodes_node]
    rfl
  simp only [ofFormals, String.toList_ofList, trim_listText, withoutParens_listText, definitionText_eq, hfind]
  exact filterMap_formal? harguments

/-- The formals in the label of a signature declare its parameters. -/
theorem parameters_ofFormals_label {s : Signature} (herrors : (Grammar.parse source).hasErrors = false)
    (hclosed : ∀ t ∈ (Grammar.parse source).nodes, t.kind.isOpen = false) (hs : s ∈ extract source)
    (hnames : ∀ p ∈ s.parameters, IsUnquotedName p.name.toList) :
    (ofFormals s.name (String.ofList (s.label.toList.drop s.name.toList.length))).parameters = s.parameters := by
  have hclean : Everywhere Clean (Grammar.parse source).children := by
    intro c hc t ht
    have hmem : t ∈ (Grammar.parse source).nodes := mem_nodes.2 (.inr ⟨c, hc, ht⟩)
    exact ⟨by simpa using List.any_eq_false.1 herrors t hmem, hclosed t hmem⟩
  have hdeclared := isDeclared_of_mem_extract hclean hs
  rw [drop_label]
  refine parameters_ofFormals_listText (fun p hp => ?_) s.name
  obtain ⟨n, start, t, -, -, -, -, a, -, hformal⟩ := exists_slots_of_isDeclared hdeclared hp
  exact readable_label (isVariadic_of_formal? hformal) (isPlainName_of_isUnquotedName (hnames p hp)) fun e he =>
    movable_default hdeclared hp he

/-- Defaults with a line break, a closing parenthesis in a string, and a comma in a comment of a block. -/
theorem parameters_ofFormals_label_nested :
    let source : Text := "f <- function(x, y = c(1,\n  ')'), g = function(z) \x7b z; -z # ,\n \x7d, ...) x".toList
    let s : Signature :=
      ⟨"f", [.of "x", .of "y" (some "c(1,\n  ')')"), .of "g" (some "function(z) \x7b z; -z # ,\n \x7d"), .of "..."], none⟩
    (Grammar.parse source).hasErrors = false ∧ (∀ t ∈ (Grammar.parse source).nodes, t.kind.isOpen = false) ∧
      s ∈ extract source ∧ (∀ p ∈ s.parameters, IsUnquotedName p.name.toList) ∧
      (ofFormals s.name (String.ofList (s.label.toList.drop s.name.toList.length))).parameters = s.parameters := by
  intro source s
  have herrors : (Grammar.parse source).hasErrors = false := by decide +kernel
  have hclosed : ∀ t ∈ (Grammar.parse source).nodes, t.kind.isOpen = false := by decide +kernel
  have hs : s ∈ extract source := by decide +kernel
  have hnames : ∀ p ∈ s.parameters, IsUnquotedName p.name.toList := by decide +kernel
  exact ⟨herrors, hclosed, hs, hnames, parameters_ofFormals_label herrors hclosed hs hnames⟩

end RSource.Signature
