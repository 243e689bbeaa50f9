import RSource.Grammar.Parse
import RSource.Proofs.Grammar.Place
import RSource.Proofs.Tree.Nodes
import RSource.Tree.Call

/-!
# The forms of nodes

What a node of a tree can be is said once: it is an expression, an argument list, an argument, a statement
or an error (`Form`). An expression is an operand that has grown by calls, indexings and binary operators
(`Grown`). Both hold the place at which the node was read, so that whatever is true of a node follows from
the part of the grammar that made it.

A part of the grammar `Yields` trees at a place of the given lexemes if all their nodes have one of the
forms. Here this is shown for recovery, statements and arguments.
-/

namespace RSource.Grammar
open RSource.Tree Cursor

variable {eof : Nat} {all : List Lexeme} {s s' : Cursor} {x : Lexeme} {xs : List Lexeme} {t : Tree}
  {ts us : List Tree} {stops : Lexeme → Bool} {closer : Token.Kind} {context : Context} {n power : Nat}

/-! ### Places -/

/-- A place in the lexemes: the first one, or the one behind another place. -/
inductive Cursor.PlaceOf (all : List Lexeme) : Cursor → Prop
  | start : PlaceOf all ⟨all, 0⟩
  | advance {s : Cursor} (h : PlaceOf all s) : PlaceOf all s.advance

namespace Cursor.PlaceOf

theorem next (h : s.PlaceOf all) (hrest : s.rest = x :: xs) : Cursor.PlaceOf all ⟨xs, x.span.stop⟩ :=
  advance_of_cons hrest ▸ h.advance

theorem advanceIf (h : s.PlaceOf all) (b : Bool) : (if b then s.advance else s).PlaceOf all := by
  cases b with
  | false => exact h
  | true => exact h.advance

theorem suffix (h : s.PlaceOf all) : s.rest <:+ all := by
  induction h with
  | start => exact List.suffix_rfl
  | @advance s h ih =>
    cases hrest : s.rest with
    | nil => rw [advance_of_nil hrest]; exact ih
    | cons x xs =>
      rw [advance_of_cons hrest]
      rw [hrest] at ih
      exact (List.suffix_cons x xs).trans ih

theorem mem (h : s.PlaceOf all) (hrest : s.rest = x :: xs) : x ∈ all :=
  h.suffix.subset (hrest ▸ List.mem_cons_self)

theorem ordered (h : s.PlaceOf all) (hall : InOrder eof 0 all) : s.Ordered eof := by
  induction h with
  | start => exact hall
  | advance h ih => exact (Reads.advance ih).ordered

end Cursor.PlaceOf

/-! ### Forms -/

/-- An expression that is read with the power `power` goes on with the lexeme. -/
def goesOn (power : Nat) (context : Context) (x : Lexeme) : Bool :=
  !(x.newlineBefore && context.endsAtNewline) &&
    ((x.kind == .openParen || x.kind == .openBracket) && power ≤ postfixPower
      || (binaryAt? power x).isSome)

/-- An expression as far as it is read, and the place behind it. -/
inductive Grown (eof : Nat) (all : List Lexeme) (sub : Reader) (power : Nat) (context : Context) :
    Tree → Cursor → Prop
  | operand {s s' : Cursor} {x : Lexeme} {xs : List Lexeme} {t : Tree} (hs : s.PlaceOf all)
      (hrest : s.rest = x :: xs) (h : operand eof sub context x ⟨xs, x.span.stop⟩ = some (t, s')) :
      Grown eof all sub power context t s'
  | call {left : Tree} {s : Cursor} {x : Lexeme} {xs : List Lexeme}
      (h : Grown eof all sub power context left s) (hrest : s.rest = x :: xs)
      (hx : goesOn power context x = true) (hkind : x.kind = .openParen) :
      Grown eof all sub power context
        (.node .call (left.span.cover (argumentList eof sub .closeParen x ⟨xs, x.span.stop⟩).1.span)
          [left, (argumentList eof sub .closeParen x ⟨xs, x.span.stop⟩).1])
        (argumentList eof sub .closeParen x ⟨xs, x.span.stop⟩).2
  | index {left : Tree} {s : Cursor} {x : Lexeme} {xs : List Lexeme}
      (h : Grown eof all sub power context left s) (hrest : s.rest = x :: xs)
      (hx : goesOn power context x = true) (hkind : x.kind = .openBracket) :
      Grown eof all sub power context (index eof sub left x ⟨xs, x.span.stop⟩).1
        (index eof sub left x ⟨xs, x.span.stop⟩).2
  | binary {left : Tree} {s : Cursor} {x : Lexeme} {xs : List Lexeme} {right : Nat}
      (h : Grown eof all sub power context left s) (hrest : s.rest = x :: xs)
      (hx : goesOn power context x = true) (hright : binaryAt? power x = some right) :
      Grown eof all sub power context
        (.node (.binary x.span)
          ⟨left.span.start, lastStopD (optional sub right context ⟨xs, x.span.stop⟩).1 x.span.stop⟩
          (left :: (optional sub right context ⟨xs, x.span.stop⟩).1))
        (optional sub right context ⟨xs, x.span.stop⟩).2

inductive Form (eof : Nat) (all : List Lexeme) : Tree → Prop
  | expression {n power : Nat} {context : Context} {t : Tree} {s : Cursor}
      (h : Grown eof all (reader eof n) power context t s) : Form eof all t
  | list {n : Nat} {closer : Token.Kind} {s : Cursor} {x : Lexeme} {xs : List Lexeme}
      (hs : s.PlaceOf all) (hrest : s.rest = x :: xs)
      (hx : x.kind = .openParen ∧ closer = .closeParen ∨ x.kind = .openBracket ∧ closer = .closeBracket) :
      Form eof all (argumentList eof (reader eof n) closer x ⟨xs, x.span.stop⟩).1
  | argument {named : Bool} {span : Span} {name value junk : List Tree}
      (hname : name.length = if named then 1 else 0) (hatom : ∀ u ∈ name, u.isAtom = true)
      (hvalue : value.length ≤ 1) (hjunk : junk.length ≤ 1) (herror : ∀ u ∈ junk, u.kind.isError = true) :
      Form eof all (.node (.argument named) span (name ++ value ++ junk))
  | statement (e : Tree) : Form eof all (.node .expressionStatement e.span [e])
  | error (start stop : Nat) (unclosed : Bool) : Form eof all (errorTree eof start stop unclosed)
  | leaf {s : Cursor} {x : Lexeme} {xs : List Lexeme} {k : Tree.Kind} (hs : s.PlaceOf all)
      (hrest : s.rest = x :: xs) (hk : k = .identifier ∨ k = .literal ∨ k = .error false) :
      Form eof all (x.leaf k)

/-- The trees have nodes of the known forms only, and the place behind them is one of the lexemes. -/
structure Yields (eof : Nat) (all : List Lexeme) (ts : List Tree) (s : Cursor) : Prop where
  place : s.PlaceOf all
  forms : Everywhere (Form eof all) ts

theorem Yields.nil (h : s.PlaceOf all) : Yields eof all [] s :=
  ⟨h, everywhere_nil⟩

theorem Yields.append (h : Yields eof all ts s) (h' : Yields eof all us s') :
    Yields eof all (ts ++ us) s' :=
  ⟨h'.place, h.forms.append h'.forms⟩

theorem Yields.advanced (h : Yields eof all ts s) : Yields eof all ts s.advance :=
  ⟨h.place.advance, h.forms⟩

theorem Yields.node (h : Yields eof all t.children s) (ht : Form eof all t) : Yields eof all [t] s :=
  ⟨h.place, everywhere_singleton ht h.forms⟩

theorem yields_leaf {k : Tree.Kind} (hs : s.PlaceOf all) (hrest : s.rest = x :: xs)
    (hk : k = .identifier ∨ k = .literal ∨ k = .error false) :
    Yields eof all [x.leaf k] ⟨xs, x.span.stop⟩ :=
  (Yields.nil (hs.next hrest)).node (t := x.leaf k) (.leaf hs hrest hk)

def Reader.Yielding (eof : Nat) (all : List Lexeme) (sub : Reader) : Prop :=
  ∀ {power : Nat} {context : Context} {s s' : Cursor} {t : Tree}, s.PlaceOf all →
    sub.run power context s = some (t, s') → Yields eof all [t] s'

theorem yields_optional {sub : Reader} (hsub : sub.Yielding eof all) (hs : s.PlaceOf all) (power : Nat)
    (context : Context) :
    Yields eof all (optional sub power context s).1 (optional sub power context s).2 := by
  unfold optional
  split
  · exact hsub hs ‹_›
  · exact .nil hs

/-! ### Recovery -/

theorem placeOf_skipLoop {depth last : Nat} (h : Cursor.PlaceOf all ⟨xs, last⟩) :
    (skipLoop stops depth last xs).2.PlaceOf all := by
  induction xs generalizing depth last with
  | nil => exact h
  | cons x xs ih =>
    rw [skipLoop]
    split
    · exact h
    · exact ih (h.next rfl)

theorem yields_skip (hs : s.PlaceOf all) (hrest : s.rest = x :: xs) :
    Yields eof all [(skip eof stops x xs).1] (skip eof stops x xs).2 :=
  (Yields.nil (placeOf_skipLoop (hs.next hrest))).node (.error ..)

theorem yields_expectCloser (hs : s.PlaceOf all) :
    Yields eof all (expectCloser eof closer s).2.1 (expectCloser eof closer s).2.2 := by
  unfold expectCloser
  split
  · exact .nil hs
  · rename_i x xs hrest
    split
    · exact .nil hs.advance
    · exact (yields_skip hs hrest).advanced

/-! ### Statements -/

theorem yields_statement {e : Tree} (h : Yields eof all [e] s) :
    Yields eof all [.node .expressionStatement e.span [e]] s :=
  Yields.node (t := .node .expressionStatement e.span [e]) h (.statement e)

theorem yields_statements {sub : Reader} (hsub : sub.Yielding eof all) (hs : s.PlaceOf all)
    (context : Context) (closer : Option Token.Kind) :
    Yields eof all (statements eof sub context closer s).1 (statements eof sub context closer s).2 := by
  fun_induction statements eof sub context closer s with
  | case1 | case2 => exact .nil hs
  | case3 s x xs hrest _ _ _ ih => exact ih (hs.next hrest)
  | case4 s x xs hrest _ _ _ _ ts s' hst ih =>
    have hstray : Yields eof all [x.leaf (.error false)] ⟨xs, x.span.stop⟩ :=
      yields_leaf hs hrest (.inr (.inr rfl))
    rw [hst] at ih
    exact hstray.append (ih hstray.place)
  | case5 s x xs hrest _ _ _ _ _ r _ ts s' hst ih =>
    have hskip : Yields eof all [r.1] r.2 := yields_skip hs hrest
    rw [hst] at ih
    exact hskip.append (ih hskip.place)
  | case6 s x xs _ _ _ _ _ e after he _ statement _ => exact yields_statement (hsub hs he)
  | case7 s x xs _ _ _ _ _ e after he _ statement y ys _ _ ts s' hst ih =>
    have hstatement := yields_statement (hsub hs he)
    rw [hst] at ih
    exact hstatement.append (ih hstatement.place)
  | case8 s x xs _ _ _ _ _ e after he _ statement y ys ha _ r _ ts s' hst ih =>
    have hstatement := yields_statement (hsub hs he)
    have hskip : Yields eof all [r.1] r.2 := yields_skip hstatement.place ha
    rw [hst] at ih
    exact hstatement.append (hskip.append (ih hskip.place))

/-! ### Arguments -/

/-- The tree is an argument before recovery: a name if it has one, and a value if there is one. -/
def IsArgument (t : Tree) : Prop :=
  ∃ named span name value, t = .node (.argument named) span (name ++ value) ∧
    name.length = (if named then 1 else 0) ∧ (∀ u ∈ name, u.isAtom = true) ∧ value.length ≤ 1

theorem IsArgument.form (h : IsArgument t) : Form eof all t := by
  obtain ⟨named, span, name, value, rfl, hname, hatom, hvalue⟩ := h
  rw [← List.append_nil (name ++ value)]
  exact .argument hname hatom hvalue (Nat.zero_le _) (List.forall_mem_nil _)

theorem IsArgument.form_adopt {e : Tree} (h : IsArgument t) (he : e.kind.isError = true) :
    Form eof all (t.adopt e) := by
  obtain ⟨named, span, name, value, rfl, hname, hatom, hvalue⟩ := h
  have herror : ∀ u ∈ [e], u.kind.isError = true := by
    intro u hu
    rw [List.mem_singleton.1 hu]
    exact he
  exact .argument hname hatom hvalue (Nat.le_refl _) herror

theorem isArgument_value (v : Tree) : IsArgument (.node (.argument false) v.span [v]) :=
  ⟨false, v.span, [], [v], rfl, rfl, List.forall_mem_nil _, Nat.le_refl _⟩

theorem length_optional_le (sub : Reader) (power : Nat) (context : Context) (s : Cursor) :
    (optional sub power context s).1.length ≤ 1 := by
  unfold optional
  split <;> simp

/-- A value that is read and put into an argument. -/
theorem yields_map_value {sub : Reader} (hsub : sub.Yielding eof all) (hs : s.PlaceOf all)
    (h : ((sub.run power context s).map fun (value, s') =>
      (Tree.node (.argument false) value.span [value], s')) = some (t, s')) :
    IsArgument t ∧ Yields eof all t.children s' := by
  obtain ⟨⟨value, s₁⟩, hrun, heq⟩ := Option.map_eq_some_iff.1 h
  obtain ⟨rfl, rfl⟩ := Prod.mk.inj heq
  exact ⟨isArgument_value value, hsub hs hrun⟩

theorem yields_argument {sub : Reader} (hsub : sub.Yielding eof all) (hs : s.PlaceOf all)
    (h : argument sub s = some (t, s')) : IsArgument t ∧ Yields eof all t.children s' := by
  unfold argument at h
  split at h
  · rename_i x equals rest hrest
    split at h
    · obtain ⟨rfl, rfl⟩ := Prod.mk.inj (Option.some.inj h)
      have hname : (if x.kind = .identifier then Tree.Kind.identifier else .literal) = .identifier ∨
          (if x.kind = .identifier then Tree.Kind.identifier else .literal) = .literal := by
        split <;> simp
      refine ⟨⟨true, _, [_], _, rfl, rfl, fun u hu => ?_, length_optional_le ..⟩, ?_⟩
      · rw [List.mem_singleton.1 hu]
        simpa [isAtom, Lexeme.leaf, Tree.leaf, Tree.kind] using hname
      · have hleaf : Yields eof all [x.leaf _] ⟨equals :: rest, x.span.stop⟩ :=
          yields_leaf hs hrest (hname.imp id .inl)
        exact hleaf.append (yields_optional hsub (hleaf.place.next rfl) argumentPower .bracket)
    · exact yields_map_value hsub hs h
  · exact yields_map_value hsub hs h

theorem yields_slot {sub : Reader} (hsub : sub.Yielding eof all) (hs : s.PlaceOf all) :
    Yields eof all (slot eof sub closer s).1.toList (slot eof sub closer s).2 := by
  unfold slot
  split
  · exact .nil hs
  · rename_i x xs hrest
    split
    · exact .nil hs
    · split
      · have hskip : Yields eof all [(skip eof (endsSlot closer) x xs).1] _ := yields_skip hs hrest
        exact Yields.node (t := .node (.argument false) _ [_]) hskip (isArgument_value _).form
      · rename_i a s' ha
        obtain ⟨hform, hargument⟩ := yields_argument hsub hs ha
        split
        · exact hargument.node hform.form
        · rename_i y ys hy
          split
          · exact hargument.node hform.form
          · have hskip : Yields eof all [(skip eof (endsSlot closer) y ys).1] _ :=
              yields_skip hargument.place hy
            exact Yields.node (t := a.adopt _) (hargument.append hskip) (hform.form_adopt rfl)

theorem yields_slots {sub : Reader} (hsub : sub.Yielding eof all) {start : Nat} (hs : s.PlaceOf all) :
    Yields eof all (slots eof sub closer start s).1.arguments (slots eof sub closer start s).2 := by
  fun_induction slots eof sub closer start s with
  | case1 start s r _ => exact yields_slot hsub hs
  | case2 start s r x xs hr _ =>
    have hslot : Yields eof all r.1.toList r.2 := yields_slot hsub hs
    exact ⟨hslot.place.next hr, hslot.forms⟩
  | case3 start s r x xs hr _ _ more s' hm first ih =>
    have hslot : Yields eof all r.1.toList r.2 := yields_slot hsub hs
    have hfirst : Yields eof all [first] r.2 := by
      cases hopt : r.1 with
      | none =>
        rw [show first = .leaf (.argument false) ⟨start, x.span.start⟩ by simp [first, hopt]]
        refine (Yields.nil hslot.place).node (t := .leaf (.argument false) _) ?_
        exact IsArgument.form ⟨false, _, [], [], rfl, rfl, List.forall_mem_nil _, Nat.zero_le _⟩
      | some t =>
        rw [hopt] at hslot
        rw [show first = t by simp [first, hopt]]
        exact hslot
    rw [hm] at ih
    exact hfirst.append (ih (hslot.place.next hr))

theorem yields_argumentList (hsub : (reader eof n).Yielding eof all) (hs : s.PlaceOf all)
    (hrest : s.rest = x :: xs)
    (hx : x.kind = .openParen ∧ closer = .closeParen ∨ x.kind = .openBracket ∧ closer = .closeBracket) :
    Yields eof all [(argumentList eof (reader eof n) closer x ⟨xs, x.span.stop⟩).1]
      (argumentList eof (reader eof n) closer x ⟨xs, x.span.stop⟩).2 :=
  Yields.node (yields_slots hsub (hs.next hrest)) (.list hs hrest hx)

/-- An index expression yields its object and its argument list. -/
theorem yields_index (hsub : (reader eof n).Yielding eof all) (hs : s.PlaceOf all)
    (hrest : s.rest = x :: xs) (hx : x.kind = .openBracket) {object : Tree} {s₀ : Cursor}
    (hobject : Yields eof all [object] s₀) :
    Yields eof all (index eof (reader eof n) object x ⟨xs, x.span.stop⟩).1.children
      (index eof (reader eof n) object x ⟨xs, x.span.stop⟩).2 := by
  have hclose : ∀ {list : Tree} {s' : Cursor} (b : Bool), Yields eof all [list] s' →
      Yields eof all [object, list] (if b then s'.advance else s') := by
    intro list s' b hlist
    exact hobject.append ⟨hlist.place.advanceIf b, hlist.forms⟩
  unfold index
  dsimp only
  split
  · rename_i y hy
    obtain ⟨ys, hys, hy'⟩ := rest_of_head?_filter (s := ⟨xs, x.span.stop⟩) hy
    simp only [Bool.and_eq_true, beq_iff_eq] at hy'
    rw [advance_of_cons hys]
    exact hclose _ (yields_argumentList hsub (hs.next hrest) hys (.inr ⟨hy'.1, rfl⟩))
  · exact hclose _ (yields_argumentList hsub hs hrest (.inr ⟨hx, rfl⟩))

end RSource.Grammar
