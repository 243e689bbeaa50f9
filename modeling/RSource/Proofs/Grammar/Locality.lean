import RSource.Proofs.Grammar.Copy.Expression
import RSource.Proofs.Signature.Relocate

/-!
# A text ends at a line break and a `;`

Recovery stays within the text in which it begins. If the tree of `a` leaves nothing open and does not use up
the levels of nesting, and a line break behind `a` is a token, then the tree of `a`, a line break, a `;` and
`b` has the statements of `a` and then those of `b` at their new offsets (`parse_append`), and so it is with
the signatures.

The argument is one about copies of the lexemes of a text (`Copy.ofText`), used three times: the statements of
`a` come with more behind them, those of `b` come at other offsets, and no offset of a tree lies beyond its
text, since moving only the offsets beyond it moves nothing (`within_parse`).
-/

namespace RSource.Grammar
open RSource.Tree Text Token

/-- The statements of the lexemes of a text of `eof` bytes. -/
def statementsOf (eof : Nat) (xs : List Lexeme) (last : Nat) : List Tree :=
  (statements eof (reader eof maxNesting) .top none ⟨xs, last⟩).1

theorem children_parse (source : Text) :
    (parse source).children = statementsOf source.byteLength (lexemesOf source) 0 :=
  rfl

theorem statementsOf_nil (eof last : Nat) : statementsOf eof [] last = [] := by
  rw [statementsOf, statements_of_nil rfl]

theorem statementsOf_semicolon {x : Lexeme} (hx : x.isOperator ";" = true) (eof : Nat) (xs : List Lexeme)
    (last : Nat) : statementsOf eof (x :: xs) last = statementsOf eof xs x.span.stop := by
  rw [statementsOf, statements_of_cons rfl, if_neg (by simp), if_pos hx, statementsOf]

/-- The lexemes of a text in another text, at offsets that `move` gives and with `newTail` behind them: nothing,
or a `;` and more. -/
def Copy.ofText (source : Text) {move : Nat → Nat} (hmove : StrictMono move) (newEof : Nat) {newTail : List Lexeme}
    (hnew : ∀ y ∈ newTail.head?, y.isOperator ";" = true) : Copy where
  all := lexemesOf source
  tail := []
  newTail := newTail
  eof := byteLength source
  newEof := newEof
  move := move
  keeps _ := true
  inOrder := inOrder_lexemes_tokenizeAll source
  suffix := List.nil_suffix
  ends := isBarrier_of_mem_nil
  newEnds y hy := .inl (by simpa [Lexeme.isOperator] using hnew y hy)
  semicolon _ := hnew
  monotone _ _ hkl := hmove.le_iff_le.2 hkl
  touch x _ y _ := by rw [Bool.eq_iff_iff, beq_iff_eq, beq_iff_eq, hmove.injective.eq_iff]

/-- The trees do not depend on what comes behind the lexemes, since nothing does or they are settled. -/
def Copy.settled (c : Copy) (hkeeps : ∀ x, c.keeps x = true) : c.Guard :=
  .ofTrees c (fun n ts => c.IsLast ∨ Settled n ts) hkeeps (fun h => h.imp_right .succ)
    (fun h hus => h.imp_right (·.subset hus))
    (fun {_ t} h => h.imp_right fun h => (h t (List.mem_singleton_self t)).2)
    fun {n t} h hopen => h.resolve_right fun h => by
      cases n with
      | zero => exact h
      | succ n =>
        rw [(h t (List.mem_singleton_self t)).1] at hopen
        cases hopen

/-- The statements of the text in the other one, and those of what comes behind it. -/
theorem statementsOf_place (source : Text) {move : Nat → Nat} (hmove : StrictMono move) (newEof : Nat)
    {newTail : List Lexeme} (hnew : ∀ y ∈ newTail.head?, y.isOperator ";" = true)
    (h : (Copy.ofText source hmove newEof hnew).IsLast ∨
      Settled (maxNesting + 1) (statementsOf (byteLength source) (lexemesOf source) 0)) :
    ∃ last, statementsOf newEof ((lexemesOf source).map (·.relocate move) ++ newTail) (move 0) =
      (statementsOf (byteLength source) (lexemesOf source) 0).map (relocate move) ++
        statementsOf newEof newTail last := by
  let c := Copy.ofText source hmove newEof hnew
  let g := c.settled fun _ => rfl
  have hbase : g.Agrees 0 (reader newEof 0) := fun {_ _ s} _ hg => Copy.bailOut_place (hg.1.resolve_right id) s
  have hagrees : g.Agrees maxNesting (reader newEof maxNesting) := hbase.add maxNesting
  have hstart : c.Here ⟨c.all, 0⟩ := ⟨.start, c.suffix.length_le⟩
  have hdeep : g.Deep maxNesting := ⟨.top, ⟨c.all, 0⟩, [], ⟨c.all, 0⟩, .inr nofun, hstart.le⟩
  have hplace : statements newEof (reader newEof maxNesting) .top none (c.place ⟨c.all, 0⟩) = _ :=
    Copy.statements_place hagrees hdeep (by decide) hstart (.inr rfl) ⟨h, Nat.zero_le _⟩
  have hall : c.place ⟨c.all, 0⟩ = ⟨(lexemesOf source).map (·.relocate move) ++ newTail, move 0⟩ := by
    have hmap : (lexemesOf source).map c.lexeme = (lexemesOf source).map (·.relocate move) :=
      List.map_congr_left fun x _ => Copy.lexeme_of_keeps rfl
    rw [Copy.place_of_tail rfl, ← hmap]
    rfl
  obtain ⟨ts, s, hr⟩ : ∃ ts s, statements c.eof (reader c.eof maxNesting) .top none ⟨c.all, 0⟩ = (ts, s) := ⟨_, _, rfl⟩
  have hrest : s.rest = [] := by
    rcases rest_statements c.eof (reader c.eof maxNesting) .top none ⟨c.all, 0⟩ with hnil | ⟨x, ys, -, hx⟩
    · rwa [hr] at hnil
    · cases hx
  have hend : c.place s = ⟨newTail, move s.lastStop⟩ := by
    rw [Copy.place_of_tail rfl, hrest]
    rfl
  have hts : statementsOf (byteLength source) (lexemesOf source) 0 = ts := congrArg Prod.fst hr
  rw [hall, hr, Copy.resume, hend] at hplace
  rw [hts]
  exact ⟨move s.lastStop, congrArg Prod.fst hplace⟩

theorem statementsOf_map {f : Nat → Nat} (hf : StrictMono f) (source : Text) :
    statementsOf (f (byteLength source)) ((lexemesOf source).map (·.relocate f)) (f 0) =
      (statementsOf (byteLength source) (lexemesOf source) 0).map (relocate f) := by
  obtain ⟨last, heq⟩ := statementsOf_place source hf (f (byteLength source)) (by simp) (.inl ⟨rfl, rfl, rfl⟩)
  simpa [statementsOf_nil] using heq

/-- Settled statements with a `;` and more behind them. -/
theorem statementsOf_append {source : Text} {x : Lexeme} (hx : x.isOperator ";" = true)
    (h : Settled (maxNesting + 1) (statementsOf (byteLength source) (lexemesOf source) 0)) (newEof : Nat)
    (ys : List Lexeme) :
    statementsOf newEof (lexemesOf source ++ x :: ys) 0 =
      statementsOf (byteLength source) (lexemesOf source) 0 ++ statementsOf newEof ys x.span.stop := by
  have hnew : ∀ y ∈ (x :: ys).head?, y.isOperator ";" = true := by simpa using hx
  obtain ⟨last, heq⟩ := statementsOf_place source strictMono_id newEof hnew (.inr h)
  have hxs : (lexemesOf source).map (·.relocate id) = lexemesOf source := List.map_id _
  rw [hxs, funext relocate_id, statementsOf_semicolon hx] at heq
  exact heq.trans (congrArg (· ++ _) (List.map_id _))

/-! ### Offsets in the text -/

theorem stop_le_of_mem_lexemesOf {source : Text} {x : Lexeme} (hx : x ∈ lexemesOf source) :
    x.span.start ≤ byteLength source ∧ x.span.stop ≤ byteLength source := by
  have horder : InOrder (byteLength source) 0 (lexemesOf source) := inOrder_lexemes_tokenizeAll source
  have hstop := horder.stop_le_of_mem hx
  exact ⟨Nat.le_trans (horder.start_le_stop_of_mem hx) hstop, hstop⟩

/-- No offset in the statements of a text lies beyond the text. -/
theorem within_parse (source : Text) : ∀ t ∈ (parse source).children, t.Within (byteLength source) := by
  -- Moving what is beyond the text moves no lexeme, and the statements follow the lexemes.
  have hmap := statementsOf_map (strictMono_beyond (byteLength source)) source
  have hxs : (lexemesOf source).map (·.relocate (beyond (byteLength source))) = lexemesOf source := by
    refine (List.map_congr_left fun x hx => ?_).trans (List.map_id _)
    obtain ⟨hstart, hstop⟩ := stop_le_of_mem_lexemesOf hx
    rw [Lexeme.relocate, Span.relocate, beyond_eq_iff.2 hstart, beyond_eq_iff.2 hstop]
    rfl
  rw [hxs, beyond_eq_iff.2 (Nat.le_refl _), beyond_eq_iff.2 (Nat.zero_le _), ← children_parse] at hmap
  intro t ht
  exact List.map_inj_left.1 (hmap.symm.trans (List.map_id _).symm) t ht

/-! ### Two texts -/

/-- The statements of a text whose nodes are closed and have fewer than `maxNesting` ancestors are settled. -/
theorem settled_parse {source : Text} (hclosed : ∀ t ∈ (parse source).nodes, t.kind.isOpen = false)
    (hdepth : ∀ e ∈ (parse source).outline, e.1 < maxNesting) :
    Settled (maxNesting + 1) (parse source).children := by
  have hbelow : outlineForest 1 (parse source).children ⊆ (parse source).outline := by
    have hsub := (outline_of_mem 0 (List.mem_singleton_self (parse source))).2
    rwa [outlineForest, outlineForest, List.append_nil] at hsub
  have hsettled : Settled (maxNesting - 1 + 1) (parse source).children := by
    refine settled_of_outline 1 fun e he => ⟨?_, ?_⟩
    · exact hdepth e (hbelow he)
    · exact hclosed e.2 (List.mem_map_of_mem (hbelow he))
  exact hsettled.succ

/-- Behind a line break that is a token, a `;` ends a text as its end does. -/
theorem parse_append (a b : Text)
    (hline : (tokenizeAll (a ++ ['\n'])).dropLast.getLast?.map (·.kind) = some .newline)
    (hclosed : ∀ t ∈ (parse a).nodes, t.kind.isOpen = false)
    (hdepth : ∀ e ∈ (parse a).outline, e.1 < 100) :
    (parse (a ++ "\n;".toList ++ b)).children =
        (parse a).children ++ (parse b).children.map (relocate (· + (byteLength a + 2))) ∧
      Signature.extract (a ++ "\n;".toList ++ b) = Signature.extract a ++ Signature.extract b := by
  obtain ⟨x, hx, hstop, hlexemes⟩ := lexemes_append a b hline
  have hlength : byteLength (a ++ "\n;".toList) = byteLength a + 2 := byteLength_append a "\n;".toList
  have htotal : byteLength (a ++ "\n;".toList ++ b) = byteLength b + (byteLength a + 2) := by
    rw [byteLength_append, hlength, Nat.add_comm]
  have hmono : StrictMono (· + (byteLength a + 2)) := fun i j hij => Nat.add_lt_add_right hij _
  have hchildren : (parse (a ++ "\n;".toList ++ b)).children =
      (parse a).children ++ (parse b).children.map (relocate (· + (byteLength a + 2))) := by
    have hbehind := statementsOf_map hmono b
    rw [Nat.zero_add] at hbehind
    have hsettled : Settled (maxNesting + 1) (statementsOf (byteLength a) (lexemesOf a) 0) :=
      settled_parse hclosed hdepth
    rw [children_parse, hlexemes, statementsOf_append hx hsettled, hstop, htotal, hbehind]
    rfl
  refine ⟨hchildren, ?_⟩
  -- The signatures read the source only below the trees, so each part reads its own text.
  have hfirst : ∀ t ∈ (parse a).children,
      Signature.ofStatement (a ++ "\n;".toList ++ b) t = Signature.ofStatement a t := by
    intro t ht
    have hslice : ∀ i j, j ≤ byteLength a →
        (a ++ "\n;".toList ++ b).sliceD (id i) (id j) = a.sliceD i j := by
      intro i j hj
      rw [List.append_assoc]
      exact sliceD_append_of_le hj _ i
    have hsame := Signature.ofStatement_relocate hslice (within_parse a t ht)
    rwa [relocate_id] at hsame
  have hsecond : ∀ t ∈ (parse b).children,
      Signature.ofStatement (a ++ "\n;".toList ++ b) (t.relocate (· + (byteLength a + 2))) =
        Signature.ofStatement b t := by
    intro t ht
    refine Signature.ofStatement_relocate (fun i j _ => ?_) (within_parse b t ht)
    rw [Nat.add_comm i, Nat.add_comm j, ← hlength]
    exact sliceD_append_add _ b i j
  rw [Signature.extract_eq, hchildren, List.flatMap_append, List.flatMap_map]
  exact congrArg₂ _ (List.flatMap_congr hfirst) (List.flatMap_congr hsecond)

/-- The operand of `+` is missing before a stray closer, `2` is junk, and the `if` has no body. -/
theorem parse_append_broken :
    let a := "f <- function(x, y = 2) x + )\n1 2\nif (x)".toList
    let b := "g <- function(...) (".toList
    (parse a).hasErrors = true ∧ (parse (a ++ "\n;".toList ++ b)).children =
        (parse a).children ++ (parse b).children.map (relocate (· + 42)) ∧
      Signature.extract (a ++ "\n;".toList ++ b) =
        [⟨"f", [.of "x", .of "y" (some "2")], none⟩, ⟨"g", [.of "..."], none⟩] := by
  intro a b
  have hline : (tokenizeAll (a ++ ['\n'])).dropLast.getLast?.map (·.kind) = some .newline := by decide +kernel
  have hclosed : ∀ t ∈ (parse a).nodes, t.kind.isOpen = false := by decide +kernel
  have hdepth : ∀ e ∈ (parse a).outline, e.1 < 100 := by decide +kernel
  have hlength : byteLength a + 2 = 42 := by decide +kernel
  obtain ⟨hchildren, hextract⟩ := parse_append a b hline hclosed hdepth
  rw [hlength] at hchildren
  exact ⟨by decide +kernel, hchildren, hextract.trans (by decide +kernel)⟩

end RSource.Grammar
