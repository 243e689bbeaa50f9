import RSource.Package.Namespace
import RSource.Proofs.Grammar.Written
import RSource.Proofs.Tree.Nodes

/-!
# Directives read back

A directive is written with its names as string literals: backslashes and quotes inside a name get a backslash
in front of them. Whatever characters the names have, reading the directive gives the names back
(`parse_directive`).
-/

namespace RSource.Package.Namespace
open Grammar Token Text

variable {q : Char} {t u v : Text}

/-- The text with a backslash in front of every backslash and every quote `q`. -/
def escape (q : Char) (t : Text) : Text :=
  t.flatMap fun c => if c = '\\' ∨ c = q then ['\\', c] else [c]

/-- The string literal with the quote `q` that stands for the text. -/
def literal (q : Char) (t : Text) : Text :=
  q :: (escape q t ++ [q])

/-- The directive `word` with the names as string literals. -/
def directive (word : String) (q : Char) (names : List String) : Text :=
  word.toList ++ listText [','] (names.map fun name => literal q name.toList)

/-! ### Literals -/

theorem escape_cons (q c : Char) (t : Text) :
    escape q (c :: t) = (if c = '\\' ∨ c = q then ['\\', c] else [c]) ++ escape q t :=
  rfl

theorem unescape_cons {c : Char} (hc : c ≠ '\\') (t : Text) : unescape (c :: t) = c :: unescape t := by
  rw [unescape]
  all_goals simp [hc]

/-- Only a backslash or a quote is escaped, and these escapes stand for themselves. -/
theorem unescape_escape (hq : q = '"' ∨ q = '\'') (t : Text) : unescape (escape q t) = t := by
  induction t with
  | nil => rfl
  | cons c t ih =>
    rw [escape_cons]
    split
    · next hc =>
      have hletter : c ≠ 'n' ∧ c ≠ 't' := by
        rcases hc with rfl | rfl
        · decide
        · rcases hq with rfl | rfl <;> decide
      rw [List.cons_append, List.singleton_append, unescape, ih]
      all_goals simp [hletter]
    · next hc =>
      rw [List.singleton_append, unescape_cons fun h => hc (.inl h), ih]

theorem quotedLength_escaped (hq : q ≠ '\\') (t v : Text) :
    quotedLength q (escape q t ++ q :: v) = (escape q t).length + 1 := by
  induction t with
  | nil =>
    rw [show escape q [] = [] from rfl, List.nil_append, quotedLength_cons hq, if_pos rfl]
    rfl
  | cons c t ih =>
    rw [escape_cons]
    split
    · rw [List.cons_append, List.singleton_append, List.cons_append, List.cons_append, quotedLength_escape, ih]
      rfl
    · next hc =>
      rw [List.singleton_append, List.cons_append, quotedLength_cons fun h => hc (.inl h),
        if_neg fun h => hc (.inr h), ih]
      rfl

theorem unquote_literal (hq : q = '"' ∨ q = '\'') (t : Text) : unquote (literal q t) = escape q t := by
  have hquote : nameQuotes.contains q = true := by
    rcases hq with rfl | rfl <;> rfl
  rw [literal, unquote, if_pos hquote, List.getLast?_concat, if_pos rfl, List.dropLast_concat]

theorem isWord_literal (hq : q = '"' ∨ q = '\'') (t : Text) : IsWord .string (literal q t) := by
  refine ⟨q, escape q t ++ [q], rfl, by rcases hq with rfl | rfl <;> decide, fun v _ => ?_⟩
  have hback : q ≠ '\\' := by rcases hq with rfl | rfl <;> decide
  rw [(Scans.string hq).scan_eq, List.append_assoc, List.singleton_append, quotedLength_escaped hback,
    List.length_append]
  rfl

/-- The argument is a literal that stands for the name. -/
def IsLiteral (q : Char) (name : String) (source : Text) (a : Tree) : Prop :=
  ∃ span, a = .node (.argument false) span [.leaf .literal span] ∧
    source.sliceD span.start span.stop = literal q name.toList

theorem readable_literal (hq : q = '"' ∨ q = '\'') (levels : Nat) (name : String) :
    Readable (levels + 1) (IsLiteral q name) (literal q name.toList) := by
  refine readable_word (isWord_literal hq name.toList) (.inr ⟨rfl, rfl⟩) fun u v => ⟨_, rfl, ?_⟩
  rw [sliceD, slice?_append]
  rfl

/-! ### Directives -/

theorem expression_call {eof last stop : Nat} {sub : Reader} {context : Context} {x opener : Lexeme}
    {xs : List Lexeme} {list : Tree} (hx : x.kind = .identifier) (hopener : opener.kind = .openParen)
    (hline : opener.newlineBefore = false)
    (hlist : argumentList eof sub .closeParen opener ⟨xs, opener.span.stop⟩ = (list, ⟨[], stop⟩)) :
    expression eof sub 0 context ⟨x :: opener :: xs, last⟩ =
      some (.node .call (x.span.cover list.span) [x.leaf .identifier, list], ⟨[], stop⟩) := by
  simp only [expression, operand, hx, Option.map_some]
  rw [extend_of_cons rfl, if_neg (by simp [hline]), if_pos ⟨hopener, Nat.zero_le _⟩, hlist,
    extend_of_nil rfl]
  rfl

theorem parse_directive_eq (hq : q = '"' ∨ q = '\'') {word : String} (hword : IsPlainName word.toList)
    (names : List String) :
    ∃ span list arguments commas, List.Forall₂ (fun name a => IsLiteral q name (directive word q names) a)
        names arguments ∧
      Grammar.parse (directive word q names) = .node .program ⟨0, byteLength (directive word q names)⟩
        [.node .expressionStatement span [.node .call span
          [.leaf .identifier ⟨0, byteLength word.toList⟩, .node (.argumentList true commas) list arguments]]] := by
  generalize hsource : directive word q names = source
  obtain ⟨c, cs, hc⟩ : ∃ c cs, word.toList = c :: cs := by
    cases hnil : word.toList with
    | nil =>
      rw [hnil] at hword
      exact hword.elim
    | cons c cs => exact ⟨c, cs, rfl⟩
  rw [directive, hc] at hsource
  rw [hc] at hword ⊢
  obtain ⟨hstart, hcs, hnumber, hkeyword⟩ := hword
  have hscan : scan c (cs ++ listText [','] (names.map fun name => literal q name.toList)) =
      (.identifier, cs.length) := by
    rw [scan_name hstart hcs hnumber (by simp [listText, nameEnds]), nameKind, hkeyword]
    rfl
  have hopener := lexemesBehind_listText [','] (names.map fun name => literal q name.toList) (c :: cs) []
  have hparts : source = c :: cs ++ listText [','] (names.map fun name => literal q name.toList) ++ [] := by
    rw [← hsource, List.append_nil]
  have hreadable : ∀ name ∈ names, Readable (maxNesting - 1) (IsLiteral q name) (literal q name.toList) :=
    fun name _ => readable_literal hq (maxNesting - 2) name
  obtain ⟨arguments, commas, harguments, hlist⟩ := argumentList_written (by decide) hreadable hparts
    ⟨.openParen, ⟨byteLength (c :: cs), byteLength (c :: cs ++ ['('])⟩, "(", false⟩
  have hlexemes := lexemesBehind_token hscan rfl []
  rw [List.nil_append, hsource, lexemesBehind_start, ← List.append_nil (listText ..), hopener] at hlexemes
  rw [lexemesBehind_empty] at hlist
  exact ⟨_, _, arguments, commas, harguments, parse_expression hlexemes rfl rfl (expression_call rfl rfl rfl hlist)⟩

theorem nameOf?_literal (hq : q = '"' ∨ q = '\'') {source : Text} {name : String} {span : Span}
    (htext : source.sliceD span.start span.stop = literal q name.toList) :
    nameOf? (.leaf .literal span) source = some name := by
  have htext : (Tree.leaf .literal span).text source = literal q name.toList := htext
  have hhead : (literal q name.toList).head? = some '"' ∨ (literal q name.toList).head? = some '\'' := by
    rcases hq with rfl | rfl
    · exact .inl rfl
    · exact .inr rfl
  rw [nameOf?, htext]
  simp only [Tree.leaf, Tree.kind, if_pos hhead, unquote_literal hq, unescape_escape hq, String.ofList_toList]

theorem names_of_literals (hq : q = '"' ∨ q = '\'') {source : Text} {names : List String} {arguments : List Tree}
    (h : List.Forall₂ (fun name a => IsLiteral q name source a) names arguments) :
    ((arguments.filter fun a => (a.argumentName? source).isNone).filterMap fun a =>
      a.argumentValue?.bind fun v => nameOf? v source) = names := by
  induction h with
  | nil => rfl
  | cons ha _ ih =>
    obtain ⟨span, rfl, htext⟩ := ha
    have hvalue : (Tree.node (.argument false) span [.leaf .literal span]).argumentValue? =
        some (.leaf .literal span) := rfl
    rw [List.filter_cons_of_pos rfl, List.filterMap_cons, hvalue, Option.bind_some, nameOf?_literal hq htext, ih]

/-- No call stands in an argument that is a literal. -/
theorem not_call_of_literals {source : Text} {names : List String} {arguments : List Tree}
    (h : List.Forall₂ (fun name a => IsLiteral q name source a) names arguments) :
    (arguments.flatMap Tree.nodes).filter (fun t => t.kind == .call) = [] := by
  induction h with
  | nil => rfl
  | cons ha _ ih =>
    obtain ⟨span, rfl, -⟩ := ha
    rw [List.flatMap_cons, List.filter_append, ih, List.append_nil]
    rfl

/-- The one call of a directive adds the names that were written. -/
theorem parse_of_word (hq : q = '"' ∨ q = '\'') {word : String} (hword : IsPlainName word.toList)
    {names : List String} (h : ∀ name ∈ names, name ≠ "") :
    ∃ call : Tree, parse (directive word q names) = addCall (directive word q names) {} call ∧
      call.calleeName? (directive word q names) = some word ∧
      directiveNames call (directive word q names) = names := by
  obtain ⟨span, list, arguments, commas, harguments, htree⟩ := parse_directive_eq hq hword names
  generalize hsource : directive word q names = source at htree harguments ⊢
  refine ⟨.node .call span
    [.leaf .identifier ⟨0, byteLength word.toList⟩, .node (.argumentList true commas) list arguments], ?_, ?_, ?_⟩
  · rw [parse, htree]
    simp only [Tree.nodes_node, Tree.leaf, List.flatMap_cons, List.flatMap_nil, List.append_nil, List.cons_append,
      List.nil_append, List.filter_cons, not_call_of_literals harguments]
    rfl
  · have htext : source.sliceD 0 (byteLength word.toList) = word.toList := by
      have hslice := slice?_append [] word.toList (listText [','] (names.map fun name => literal q name.toList))
      rw [List.nil_append] at hslice
      rw [← hsource, directive, sliceD]
      exact congrArg (fun o => o.getD []) hslice
    have hquote : unquote word.toList = word.toList := unquote_of_isPlainName hword
    show some (String.ofList (unquote (source.sliceD 0 (byteLength word.toList)))) = some word
    rw [htext, hquote, String.ofList_toList]
  · have hnames := names_of_literals hq harguments
    show List.filter _ (List.filterMap _ (List.filter _ arguments)) = names
    rw [hnames, List.filter_eq_self]
    intro name hname
    simpa using h name hname

/-- A directive gives the names that were written and nothing else. -/
theorem parse_directive (names : List String) (h : ∀ name ∈ names, name ≠ "") (q : Char)
    (hq : q = '"' ∨ q = '\'') :
    parse (directive "export" q names) = { exports := names } ∧
      parse (directive "exportPattern" q names) = { patterns := names } := by
  constructor
  · have hword : IsPlainName "export".toList := by decide +kernel
    obtain ⟨call, hparse, hcallee, hnames⟩ := parse_of_word hq hword h
    rw [hparse, addCall, hcallee, hnames]
    rfl
  · have hword : IsPlainName "exportPattern".toList := by decide +kernel
    obtain ⟨call, hparse, hcallee, hnames⟩ := parse_of_word hq hword h
    rw [hparse, addCall, hcallee, hnames]
    rfl

/-- Names with quotes, backslashes, brackets, a comma, a line break and the start of a comment. -/
theorem parse_directive_marks :
    let names := ["\\", "a\"b'", "),(", "\n#", "\\n"]
    (∀ name ∈ names, name ≠ "") ∧
      (parse (directive "export" '"' names) = { exports := names } ∧
        parse (directive "exportPattern" '"' names) = { patterns := names }) := by
  intro names
  have hnames : ∀ name ∈ names, name ≠ "" := by decide
  exact ⟨hnames, parse_directive names hnames '"' (.inl rfl)⟩

end RSource.Package.Namespace
