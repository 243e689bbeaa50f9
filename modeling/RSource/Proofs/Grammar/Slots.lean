import RSource.Proofs.Grammar.Growth
import RSource.Proofs.Grammar.Soundness

/-!
# Arguments and commas take turns

A slot of an argument list ends at a comma, at the closer or at the end of the text, whatever stands in it.
So the arguments and the commas of a list take turns (`Alternate`), with an argument in front of every comma
and at most one behind the last, and the commas are tokens of the text (`alternate_of_mem_parse`). Commas
that stand deeper, in blocks, in conditions or in what recovery skips, are not among them.
-/

namespace RSource.Grammar
open RSource.Tree Cursor

variable {eof a b c i start : Nat} {all : List Lexeme} {sub : Reader} {s : Cursor} {x : Lexeme}
  {xs : List Lexeme} {t : Tree} {ts : List Tree} {commas : List Nat} {stops : Lexeme → Bool}
  {closer : Token.Kind}

/-! ### Turns -/

/-- From `a` on and up to `b`, the trees and the commas take turns. Every comma has a tree in front of it;
behind the last one there may be none. -/
inductive Alternate (b : Nat) : Nat → List Nat → List Tree → Prop
  | none {a : Nat} (h : a ≤ b) : Alternate b a [] []
  | last {a : Nat} {t : Tree} (h : Forest a b [t]) : Alternate b a [] [t]
  | comma {a c : Nat} {t : Tree} {commas : List Nat} {ts : List Tree} (h : Forest a c [t])
      (more : Alternate b (c + 1) commas ts) : Alternate b a (c :: commas) (t :: ts)

namespace Alternate

theorem le (h : Alternate b a commas ts) : a ≤ b := by
  induction h with
  | none h => exact h
  | last h => exact h.le
  | comma h _ ih => exact Nat.le_trans h.le (Nat.le_of_succ_le ih)

theorem start_le {a' : Nat} (h : Alternate b a commas ts) (ha : a' ≤ a) : Alternate b a' commas ts := by
  cases h with
  | none h => exact .none (Nat.le_trans ha h)
  | last h => exact .last (h.start_le ha)
  | comma h more => exact .comma (h.start_le ha) more

theorem le_of_mem (h : Alternate b a commas ts) (hc : c ∈ commas) : a ≤ c := by
  induction h with
  | none | last => cases hc
  | comma h _ ih =>
    rcases List.mem_cons.1 hc with rfl | hc
    · exact h.le
    · exact Nat.le_trans h.le (Nat.le_of_succ_le (ih hc))

theorem pairwise (h : Alternate b a commas ts) : commas.Pairwise (· < ·) := by
  induction h with
  | none | last => exact .nil
  | comma _ more ih => exact .cons (fun c hc => more.le_of_mem hc) ih

theorem length_eq (h : Alternate b a commas ts) :
    ts.length = commas.length ∨ ts.length = commas.length + 1 := by
  induction h with
  | none => exact .inl rfl
  | last => exact .inr rfl
  | comma _ _ ih => simpa using ih

theorem span_of_mem (h : Alternate b a commas ts) (ht : t ∈ ts) :
    a ≤ t.span.start ∧ t.span.start ≤ t.span.stop := by
  induction h with
  | none => cases ht
  | last h =>
    obtain rfl := List.mem_singleton.1 ht
    obtain ⟨h1, h2, -⟩ := forest_cons.1 h
    exact ⟨h1, h2.start_le_stop⟩
  | comma h _ ih =>
    rcases List.mem_cons.1 ht with rfl | ht
    · obtain ⟨h1, h2, -⟩ := forest_cons.1 h
      exact ⟨h1, h2.start_le_stop⟩
    · obtain ⟨h1, h2⟩ := ih ht
      exact ⟨Nat.le_trans h.le (Nat.le_of_succ_le h1), h2⟩

theorem stop_le (h : Alternate b a commas ts) (ht : ts[i]? = some t) (hc : commas[i]? = some c) :
    t.span.stop ≤ c := by
  induction h generalizing i with
  | none | last => cases hc
  | comma h _ ih =>
    cases i with
    | zero =>
      cases ht
      cases hc
      exact forest_nil.1 (forest_cons.1 h).2.2
    | succ i => exact ih ht hc

/-- A tree starts behind the comma of the slot before. -/
theorem lt_start (h : Alternate b a commas ts) (ht : ts[i + 1]? = some t) (hc : commas[i]? = some c) :
    c < t.span.start := by
  induction h generalizing i with
  | none | last => cases hc
  | comma _ more ih =>
    cases i with
    | zero =>
      cases hc
      exact (more.span_of_mem (List.mem_of_getElem? ht)).1
    | succ i => exact ih ht hc

end Alternate

/-! ### Where slots end -/

theorem stops_of_skipLoop {depth last : Nat} {ys : List Lexeme}
    (h : (skipLoop stops depth last ys).2.rest = x :: xs) : stops x = true := by
  induction ys generalizing depth last with
  | nil => cases h
  | cons y ys ih =>
    rw [skipLoop] at h
    split at h
    · rename_i hstop
      cases h
      exact hstop.2
    · exact ih h

/-- Behind a slot stands a comma or the closer, if anything. -/
theorem endsSlot_of_slot (h : (slot eof sub closer s).2.rest = x :: xs) : endsSlot closer x = true := by
  unfold slot at h
  split at h
  · rename_i hrest
    rw [hrest] at h
    cases h
  · rename_i y ys hrest
    split at h
    · rename_i hy
      rw [hrest] at h
      cases h
      exact hy
    · split at h
      · exact stops_of_skipLoop h
      · split at h
        · rename_i hnil
          rw [hnil] at h
          cases h
        · rename_i z zs hz
          split at h
          · rename_i hends
            rw [hz] at h
            cases h
            exact hends
          · exact stops_of_skipLoop h

theorem alternate_toList {o : Option Tree} (h : Forest a b o.toList) : Alternate b a [] o.toList := by
  cases o with
  | none => exact .none (forest_nil.1 h)
  | some t => exact .last h

/-- The arguments and the commas of a list take turns up to the end of the list, and the commas are
lexemes. -/
theorem alternate_slots (n : Nat) (closer : Token.Kind) (hpos : ∀ x ∈ all, x.span.start < x.span.stop)
    (hs : s.PlaceOf all) (hordered : s.Ordered eof) (hstart : start = s.lastStop) :
    Alternate
        (if (slots eof (reader eof n) closer start s).1.closed then
          (slots eof (reader eof n) closer start s).2.lastStop else eof)
        start (slots eof (reader eof n) closer start s).1.separators
        (slots eof (reader eof n) closer start s).1.arguments ∧
      ∀ c ∈ (slots eof (reader eof n) closer start s).1.separators,
        ∃ x ∈ all, x.kind = .comma ∧ x.span.start = c ∧
          x.span.stop ≤ if (slots eof (reader eof n) closer start s).1.closed then
            (slots eof (reader eof n) closer start s).2.lastStop else eof := by
  have hsub : (reader eof n).InOrder eof := inOrder_reader eof n
  have hreach : start ≤ s.reach eof := hstart ▸ hordered.lastStop_le_reach
  fun_induction slots eof (reader eof n) closer start s with
  | case1 start s r hr =>
    have hslot : Reads eof s r.1.toList r.2 := (reads_slot hsub hordered).1
    have hforest := hslot.forest.start_le hreach
    rw [reach_of_nil hr] at hforest
    exact ⟨alternate_toList hforest, List.forall_mem_nil _⟩
  | case2 start s r x xs hr hx =>
    have hslot : Reads eof s r.1.toList r.2 := (reads_slot hsub hordered).1
    obtain ⟨h1, h2⟩ := hslot.ordered.next hr
    have hforest := (hslot.forest.start_le hreach).le_stop (Nat.le_trans h1 h2.start_le_stop)
    exact ⟨alternate_toList hforest, List.forall_mem_nil _⟩
  | case3 start s r x xs hr hx _ more s' hm first ih =>
    have hslot : Reads eof s r.1.toList r.2 := (reads_slot hsub hordered).1
    have hplace : r.2.PlaceOf all := (yields_slot (yielding_reader eof all n) hs).place
    obtain ⟨h1, h2⟩ := hslot.ordered.next hr
    have hfirst : Forest start x.span.start [first] := by
      subst hstart
      exact (forest_slot hsub hordered hr).start_le hreach
    -- a slot that does not end with the closer ends with a comma
    have hcomma : x.kind = .comma := by
      have hends := endsSlot_of_slot hr
      simpa [endsSlot, hx] using hends
    obtain ⟨i1, i2⟩ := ih (hplace.next hr) h2.ordered rfl h2.stop_le_reach
    rw [hm] at i1 i2
    refine ⟨.comma hfirst (i1.start_le (hpos x (hplace.mem hr))), fun c hc => ?_⟩
    rcases List.mem_cons.1 hc with rfl | hc
    · exact ⟨x, hplace.mem hr, hcomma, rfl, i1.le⟩
    · exact i2 c hc

/-! ### The lists of a text -/

theorem isArgumentList_of_isPlain (h : isPlain t.kind = true) : t.kind.isArgumentList = false := by
  cases hkind : t.kind with
  | argumentList => rw [hkind] at h; cases h
  | _ => rfl

theorem Grown.isArgumentList {power : Nat} {context : Context}
    (h : Grown eof all sub power context t s) : t.kind.isArgumentList = false := by
  cases h with
  | operand _ _ h =>
    rcases operand_cases h with hplain | ⟨q, -, hkind, -⟩
    · exact isArgumentList_of_isPlain hplain
    · rw [hkind]
      rfl
  | call | index | binary => rfl

theorem Form.argumentList (h : Form eof all t) (hlist : t.kind.isArgumentList = true) :
    ∃ (n : Nat) (closer : Token.Kind) (s : Cursor) (x : Lexeme) (xs : List Lexeme),
      s.PlaceOf all ∧ s.rest = x :: xs ∧
        t = (Grammar.argumentList eof (reader eof n) closer x ⟨xs, x.span.stop⟩).1 := by
  cases h with
  | expression h =>
    rw [h.isArgumentList] at hlist
    cases hlist
  | list hs hrest => exact ⟨_, _, _, _, _, hs, hrest, rfl⟩
  | argument | statement | error => cases hlist
  | leaf hs hrest hk => rcases hk with rfl | rfl | rfl <;> cases hlist

theorem start_lt_stop_of_mem_lexemes {source : Text} (h : x ∈ lexemes source (Token.tokenizeAll source)) :
    x.span.start < x.span.stop := by
  obtain ⟨token, hmem, hsilent, -, hspan, -⟩ := token_of_mem_lexemesFrom h
  have hkind : token.kind ≠ .endOfStream := by
    intro heq
    rw [heq] at hsilent
    cases hsilent
  rw [hspan]
  exact Nat.lt_add_of_pos_right (Token.length_pos_of_mem hmem hkind)

/-- In an argument list of a text the arguments and the commas take turns, and the commas are tokens
between the ends of the list. -/
theorem alternate_of_mem_parse {source : Text} (h : t ∈ (parse source).nodes)
    (hlist : t.kind.isArgumentList = true) :
    Alternate t.span.stop (t.span.start + 1) t.separators t.arguments ∧
      ∀ c ∈ t.separators, ∃ token ∈ Token.tokenizeAll source,
        token.kind = .comma ∧ token.start = c ∧ token.stop ≤ t.span.stop := by
  rcases form_of_mem_build h with rfl | hform
  · cases hlist
  obtain ⟨n, closer, s, x, xs, hs, hrest, rfl⟩ := hform.argumentList hlist
  have hpos := fun x => @start_lt_stop_of_mem_lexemes x source
  have hordered : s.Ordered source.byteLength :=
    hs.ordered (inOrder_lexemes_tokenizeAll source)
  obtain ⟨h1, h2⟩ := alternate_slots n closer hpos (hs.next hrest) (hordered.next hrest).2.ordered rfl
  refine ⟨h1.start_le (hpos x (hs.mem hrest)), fun c hc => ?_⟩
  obtain ⟨y, hy, hkind, rfl, hstop⟩ := h2 c hc
  obtain ⟨token, hmem, -, hkind', hspan, -⟩ := token_of_mem_lexemesFrom hy
  rw [hspan] at hstop ⊢
  exact ⟨token, hmem, hkind' ▸ hkind, rfl, hstop⟩

end RSource.Grammar
