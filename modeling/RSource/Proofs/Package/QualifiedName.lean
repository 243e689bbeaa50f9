import RSource.Proofs.Grammar.Shape
import RSource.Proofs.Package.Fresh

/-!
# Qualified names from the call to the index

The name of a call written `package::function` or `package:::function` is the text of its parts in a row,
and a lookup splits it again at the first `:::`, or without one at the first `::`. The parts come out as
they went in if the operator was `:::`. For `::` they do so just when the name of the function neither
starts with a colon nor holds three colons in a row (`qualified?_calleeName?`): quoted names may, and then
the colons of the name are taken for the operator (`not_forall_qualified?_calleeName?`).
-/

namespace RSource

namespace Token

variable {pattern p t : Text} {c : Char}

theorem find?_of_isPrefix (h : pattern <+: t) : find? pattern t = some 0 := by
  cases t with
  | nil =>
    rw [List.prefix_nil.1 h]
    rfl
  | cons c t => exact if_pos (List.isPrefixOf_iff_prefix.2 h)

theorem find?_eq_none_iff : find? pattern t = none ↔ ¬pattern <:+: t := by
  constructor
  · intro hnone hholds
    induction t with
    | nil =>
      rw [find?_of_isPrefix (List.infix_nil.1 hholds ▸ List.nil_prefix)] at hnone
      cases hnone
    | cons c t ih =>
      rcases List.infix_cons_iff.1 hholds with hstarts | hholds
      · rw [find?_of_isPrefix hstarts] at hnone
        cases hnone
      · rw [find?] at hnone
        split at hnone
        · cases hnone
        · exact ih (Option.map_eq_none_iff.1 hnone) hholds
  · intro hholds
    rw [Option.eq_none_iff_forall_ne_some]
    exact fun n hn => hholds (Package.infix_of_find? hn)

/-- A pattern does not start inside a text that does not hold its first character. -/
theorem find?_append_of_not_mem (h : c ∉ p) (pattern t : Text) :
    find? (c :: pattern) (p ++ t) = (find? (c :: pattern) t).map (· + p.length) := by
  induction p with
  | nil => simp
  | cons x p ih =>
    rw [List.mem_cons, not_or] at h
    rw [List.cons_append, find?, if_neg (by simp [h.1]), ih h.2, Option.map_map]
    rfl

end Token

namespace Package

/-- The operator between a package and a function: `:::` if internal functions are meant. -/
def separator (isInternal : Bool) : String :=
  if isInternal then ":::" else "::"

/-- The colons of a function's name cannot be taken for the operator before it: it neither starts with a
colon nor holds three in a row. -/
def StandsApart (function : Text) : Prop :=
  function.head? ≠ some ':' ∧ ¬":::".toList <:+: function

namespace Index

variable {p f : Text}

theorem splitOnce?_append {c : Char} {rest : Text} (hp : c ∉ p) (f : Text) :
    splitOnce? (c :: rest) (p ++ (c :: rest) ++ f) = some (p, f) := by
  rw [splitOnce?, List.append_assoc, Token.find?_append_of_not_mem hp,
    Token.find?_of_isPrefix (List.prefix_append _ f)]
  simp [List.drop_append]

theorem splitOnce?_eq_none_iff (hp : ':' ∉ p) :
    splitOnce? ":::".toList (p ++ "::".toList ++ f) = none ↔ StandsApart f := by
  have hfind : splitOnce? ":::".toList (p ++ "::".toList ++ f) = none ↔
      Token.find? ":::".toList (':' :: ':' :: f) = none := by
    have happend := Token.find?_append_of_not_mem hp [':', ':'] (':' :: ':' :: f)
    rw [splitOnce?, Option.map_eq_none_iff, List.append_assoc]
    exact (Eq.congr_left happend).trans Option.map_eq_none_iff
  -- colons that start at the second of the two go on for two in the name, so others start at the first
  have hcolons : ":::".toList <:+: ':' :: ':' :: f ↔ f.head? = some ':' ∨ ":::".toList <:+: f := by
    have hone : [':'] <+: f ↔ f.head? = some ':' := by
      cases f with
      | nil => simp
      | cons c f => simp [List.cons_prefix_cons, eq_comm]
    have htwo : [':', ':'] <+: f → f.head? = some ':' := fun h =>
      hone.1 ((List.prefix_append [':'] [':']).trans h)
    have hthree : ":::".toList = [':', ':', ':'] := rfl
    rw [hthree, List.infix_cons_iff, List.infix_cons_iff, List.cons_prefix_cons, List.cons_prefix_cons,
      List.cons_prefix_cons, hone]
    tauto
  rw [hfind, Token.find?_eq_none_iff, hcolons, not_or]
  rfl

/-- A name that was joined from a package without a colon and a function is split into them, but for
functions whose colons are taken for the operator `:::`. -/
theorem qualified?_join {package : String} (hp : ':' ∉ package.toList) (function : String)
    (isInternal : Bool) :
    qualified? (package ++ separator isInternal ++ function) = some ⟨package, function, isInternal⟩ ↔
      isInternal = true ∨ StandsApart function.toList := by
  have hsplit : splitOnce? (separator isInternal).toList
      (package.toList ++ (separator isInternal).toList ++ function.toList) =
        some (package.toList, function.toList) := by
    cases isInternal with
    | true => exact splitOnce?_append hp function.toList
    | false => exact splitOnce?_append hp function.toList
  rw [qualified?, String.toList_append, String.toList_append]
  cases isInternal with
  | true =>
    rw [show ":::".toList = (separator true).toList from rfl, hsplit]
    simp only [String.ofList_toList, true_or]
  | false =>
    rw [show "::".toList = (separator false).toList from rfl, hsplit]
    have hnone := splitOnce?_eq_none_iff (f := function.toList) hp
    rw [show "::".toList = (separator false).toList from rfl] at hnone
    rw [← hnone]
    cases splitOnce? ":::".toList (package.toList ++ (separator false).toList ++ function.toList) with
    | none => simp
    | some parts => simp

end Index

end Package

namespace Tree
open Package

variable {source : Text} {callee package function : Tree} {isInternal : Bool}

/-- The callee is written `package::function`, or `package:::function` if internal functions are meant.
The package is a name and the function a name or a literal, either of them perhaps in quotes. -/
structure IsQualified (source : Text) (callee package function : Tree) (isInternal : Bool) : Prop where
  operator : ∃ op, callee.kind = .binary op ∧
    source.slice? op.start op.stop = some (separator isInternal).toList
  children : callee.children = [package, function]
  package_kind : package.kind = .identifier
  function_isAtom : function.isAtom = true

theorem IsQualified.referredName? (h : IsQualified source callee package function isInternal) :
    callee.referredName? source =
      some (package.unquotedText source ++ separator isInternal ++ function.unquotedText source) := by
  obtain ⟨op, hkind, hop⟩ := h.operator
  have hsep : separator isInternal = "::" ∨ separator isInternal = ":::" := by
    cases isInternal with
    | true => exact .inr rfl
    | false => exact .inl rfl
  unfold Tree.referredName?
  rw [hkind, h.children]
  simp only [hop, String.ofList_toList]
  rw [if_pos ⟨hsep, h.package_kind, h.function_isAtom⟩]

/-- In the tree of a text, the name of a call is the one that its callee refers to. -/
theorem calleeName?_of_mem_parse {call : Tree} (hcall : call ∈ (Grammar.parse source).nodes)
    (hkind : call.kind = .call) (hcallee : call.children.head? = some callee) :
    call.calleeName? source = callee.referredName? source := by
  -- a call has a callee and an argument list, so the first child is the callee
  have hform : Grammar.Form source.byteLength (Grammar.lexemes source (Token.tokenizeAll source)) call := by
    refine (Grammar.form_of_mem_build hcall).resolve_left ?_
    rintro rfl
    cases hkind
  have hshaped := hform.shaped (Grammar.areTokens_lexemes source _)
    (Grammar.inOrder_lexemes_tokenizeAll source)
  rw [Grammar.Shaped, hkind] at hshaped
  obtain ⟨callee', list, hchildren, hlist, -⟩ := hshaped
  rw [hchildren, List.head?_cons, Option.some.injEq] at hcallee
  subst hcallee
  rw [calleeName?, callParts?, hkind, hchildren]
  simp only [hlist, if_true, Option.bind_some]

theorem exists_isQualified (isInternal : Bool) (op : Span) {k : Kind} {p f : String}
    (hkind : callee.kind = .binary op)
    (hop : source.slice? op.start op.stop = some (separator isInternal).toList)
    (hkinds : callee.children.map kind = [.identifier, k]) (hk : k = .identifier ∨ k = .literal)
    (htexts : callee.children.map (·.unquotedText source) = [p, f]) :
    ∃ package function, IsQualified source callee package function isInternal ∧
      package.unquotedText source = p ∧ function.unquotedText source = f := by
  have hlen := congrArg List.length hkinds
  rw [List.length_map] at hlen
  obtain ⟨package, function, hchildren⟩ := List.length_eq_two.1 hlen
  simp only [hchildren, List.map_cons, List.map_nil, List.cons.injEq, and_true] at hkinds htexts
  have hatom : function.isAtom = true := by
    rcases hk with rfl | rfl <;> simp [isAtom, hkinds.2]
  exact ⟨package, function, ⟨⟨op, hkind, hop⟩, hchildren, hkinds.1, hatom⟩, htexts⟩

/-- A call written with a package is looked up under the parts that were written, unless the operator is
`::` and the name of the function starts with a colon or holds three colons in a row. -/
theorem qualified?_calleeName? (source : Text) (call callee package function : Tree) (isInternal : Bool)
    (hcall : call ∈ (Grammar.parse source).nodes) (hkind : call.kind = .call)
    (hcallee : call.children.head? = some callee)
    (hwritten : IsQualified source callee package function isInternal)
    (hpackage : ':' ∉ (package.unquotedText source).toList) :
    ∃ name, call.calleeName? source = some name ∧
      (Index.qualified? name =
          some ⟨package.unquotedText source, function.unquotedText source, isInternal⟩ ↔
        isInternal = true ∨ StandsApart (function.unquotedText source).toList) :=
  ⟨_, (calleeName?_of_mem_parse hcall hkind hcallee).trans hwritten.referredName?,
    Index.qualified?_join hpackage _ isInternal⟩

/-- A package in backticks, and a function in quotes whose name holds two colons. -/
theorem qualified?_calleeName?_quoted :
    let source : Text := "`my pkg`::'b::c'(x)".toList
    ∃ call ∈ (Grammar.parse source).nodes, call.calleeName? source = some "my pkg::b::c" ∧
      Index.qualified? "my pkg::b::c" = some ⟨"my pkg", "b::c", false⟩ := by
  intro source
  let call := (Grammar.parse source).nodes.get ⟨2, by decide +kernel⟩
  let callee := call.children.get ⟨0, by decide +kernel⟩
  have hcall : call ∈ (Grammar.parse source).nodes := List.get_mem _ _
  have hcallee : call.children.head? = some callee := List.head?_eq_getElem? ▸ List.getElem?_eq_getElem _
  have hkinds : callee.children.map kind = [.identifier, .literal] := by decide +kernel
  have htexts : callee.children.map (·.unquotedText source) = ["my pkg", "b::c"] := by decide +kernel
  obtain ⟨package, function, hwritten, hpackage, hfunction⟩ :=
    exists_isQualified false ⟨8, 10⟩ (by decide +kernel) (by decide +kernel) hkinds (.inr rfl) htexts
  obtain ⟨name, hname, hsplit⟩ := qualified?_calleeName? source call callee package function false hcall
    (by decide +kernel) hcallee hwritten (by rw [hpackage]; decide)
  rw [hpackage, hfunction] at hsplit
  have hjoined : call.calleeName? source = some "my pkg::b::c" := by decide +kernel
  obtain rfl : name = "my pkg::b::c" := Option.some.inj (hname.symm.trans hjoined)
  exact ⟨call, hcall, hname, hsplit.2 (.inr ⟨by decide, by decide⟩)⟩

/-- Not every call is looked up under the parts that were written: the name of the operator `:` joined to
its package by `::` reads as an internal function without a name. -/
theorem not_forall_qualified?_calleeName? :
    ¬∀ (source : Text) (call callee package function : Tree) (isInternal : Bool),
      call ∈ (Grammar.parse source).nodes → call.kind = .call → call.children.head? = some callee →
      IsQualified source callee package function isInternal →
      ':' ∉ (package.unquotedText source).toList →
      (call.calleeName? source).bind Index.qualified? =
        some ⟨package.unquotedText source, function.unquotedText source, isInternal⟩ := by
  intro h
  let source : Text := "base::`:`(1, 10)".toList
  let call := (Grammar.parse source).nodes.get ⟨2, by decide +kernel⟩
  let callee := call.children.get ⟨0, by decide +kernel⟩
  have hcallee : call.children.head? = some callee := List.head?_eq_getElem? ▸ List.getElem?_eq_getElem _
  have hkinds : callee.children.map kind = [.identifier, .identifier] := by decide +kernel
  have htexts : callee.children.map (·.unquotedText source) = ["base", ":"] := by decide +kernel
  obtain ⟨package, function, hwritten, hpackage, hfunction⟩ :=
    exists_isQualified false ⟨4, 6⟩ (by decide +kernel) (by decide +kernel) hkinds (.inl rfl) htexts
  have hsplit := h source call callee package function false (List.get_mem _ _) (by decide +kernel) hcallee
    hwritten (by rw [hpackage]; decide)
  have hlooked : (call.calleeName? source).bind Index.qualified? = some ⟨"base", "", true⟩ := by
    decide +kernel
  rw [hlooked, hpackage, hfunction] at hsplit
  exact absurd hsplit (by decide)

end Tree

end RSource
