import RSource.Proofs.Grammar.Growth

/-!
# Trees follow the binding powers

A reader stops where its power does not reach, so the operand that it read last is complete: whatever
extends the expression around it binds less tightly than that operand was read with (`Grown.stops`). And
an expression that was read with some power has no operator of less than that power at its root
(`Grown.le_firstPower`). From these two the grouping of every node follows, on any text
(`grouped_parse`).
-/

namespace RSource.Grammar
open RSource.Tree Cursor

variable {eof : Nat} {all : List Lexeme} {source : Text} {s s' : Cursor} {x : Lexeme} {xs : List Lexeme}
  {t : Tree} {context : Context} {n power p l r : Nat}

/-! ### Powers of lexemes -/

theorem binaryAt?_eq_some_iff :
    binaryAt? power x = some r ↔
      x.kind = .operator ∧ ∃ l, binaryPower? x.text = some (l, r) ∧ power ≤ l := by
  unfold binaryAt?
  constructor
  · intro h
    split at h
    · rename_i hkind
      obtain ⟨⟨l, r'⟩, hpowers, h⟩ := Option.bind_eq_some_iff.1 h
      dsimp only at h
      split at h
      · cases h
        exact ⟨hkind, l, hpowers, ‹_›⟩
      · cases h
    · cases h
  · rintro ⟨hkind, l, hpowers, hle⟩
    rw [if_pos hkind, hpowers, Option.bind_some]
    exact if_pos hle

/-- An operator that a reader of the power `p` leaves, and the expression around it takes, binds less
tightly than `p`. -/
theorem lt_of_goesOn (hgo : goesOn power context x = true) (hstop : goesOn p context x = false)
    (hkind : x.kind = .operator) (hpowers : binaryPower? x.text = some (l, r)) : l < p := by
  refine Nat.lt_of_not_le fun hle => ?_
  have hright : binaryAt? p x = some r := binaryAt?_eq_some_iff.2 ⟨hkind, l, hpowers, hle⟩
  simp only [goesOn, Bool.and_eq_true] at hgo
  simp [goesOn, hgo.1, hright] at hstop

theorem postfixPower_lt_of_goesOn (hgo : goesOn power context x = true)
    (hstop : goesOn p context x = false) (hkind : x.kind = .openParen ∨ x.kind = .openBracket) :
    postfixPower < p := by
  refine Nat.lt_of_not_le fun hle => ?_
  simp only [goesOn, Bool.and_eq_true] at hgo
  rcases hkind with hkind | hkind <;> simp [goesOn, hgo.1, hkind, hle] at hstop

/-! ### Powers of trees -/

def operatorText (source : Text) (op : Span) : String :=
  String.ofList (source.sliceD op.start op.stop)

/-- The left power of the operator at the root. -/
def firstPower? (source : Text) (t : Tree) : Option Nat :=
  match t.kind with
  | .binary op => (binaryPower? (operatorText source op)).map Prod.fst
  | _ => none

/-- The power with which the last operand was read, if there is one. -/
def lastPower? (source : Text) (t : Tree) : Option Nat :=
  match t.kind with
  | .binary op =>
    if 2 ≤ t.children.length then (binaryPower? (operatorText source op)).map Prod.snd else none
  | .unary op => if t.children = [] then none else unaryPower? (operatorText source op)
  | _ => none

/-! ### What was read last is complete -/

/-- The operators of the text are those of the lexemes. -/
def Spells (source : Text) (all : List Lexeme) : Prop :=
  ∀ x ∈ all, operatorText source x.span = x.text

theorem firstPower?_of_isPlain (h : isPlain t.kind = true) : firstPower? source t = none := by
  unfold firstPower?
  cases hkind : t.kind with
  | binary => rw [hkind] at h; cases h
  | _ => rfl

theorem lastPower?_of_isPlain (h : isPlain t.kind = true) : lastPower? source t = none := by
  unfold lastPower?
  cases hkind : t.kind with
  | binary | unary => rw [hkind] at h; cases h
  | _ => rfl

theorem stops_optional (hs : s.PlaceOf all) (h : (optional (reader eof n) p context s).1 ≠ []) :
    (optional (reader eof n) p context s).2.Stops p context := by
  unfold optional at h ⊢
  split
  · rename_i t s' hrun
    rcases run_cases hs hrun with ⟨start, -, hnil, -⟩ | ⟨m, -, -, hstops⟩
    · intro x hx
      rw [hnil] at hx
      cases hx
    · exact hstops
  · rename_i hrun
    rw [hrun] at h
    exact absurd rfl h

theorem Grown.stops (hsource : Spells source all) (h : Grown eof all (reader eof n) power context t s)
    (hp : lastPower? source t = some p) : s.Stops p context := by
  cases h with
  | operand hs hrest hoperand =>
    rcases operand_cases hoperand with hplain | ⟨q, hq, hkind, hchildren, rfl⟩
    · rw [lastPower?_of_isPlain hplain] at hp
      cases hp
    · simp only [lastPower?, hkind, hchildren] at hp
      split at hp
      · cases hp
      · rename_i hne
        rw [hsource _ (hs.mem hrest), hq] at hp
        cases hp
        exact stops_optional (hs.next hrest) hne
  | call => cases hp
  | index => cases hp
  | @binary left s x xs right h hrest hx hright =>
    obtain ⟨-, l, hpowers, -⟩ := binaryAt?_eq_some_iff.1 hright
    have hplace := (h.yields (yielding_reader eof all n)).place
    cases hread : (optional (reader eof n) right context ⟨xs, x.span.stop⟩).1 with
    | nil => simp [lastPower?, Tree.kind, Tree.children, hread] at hp
    | cons operand operands =>
      simp only [lastPower?, Tree.kind, Tree.children, hread, List.length_cons, Nat.le_add_left, if_true,
        hsource _ (hplace.mem hrest), hpowers, Option.map_some, Option.some.injEq] at hp
      subst hp
      exact stops_optional (hplace.next hrest) (by rw [hread]; exact List.cons_ne_nil _ _)

theorem Grown.le_firstPower (hsource : Spells source all)
    (h : Grown eof all (reader eof n) power context t s) (hl : firstPower? source t = some l) :
    power ≤ l := by
  cases h with
  | operand hs hrest hoperand =>
    rcases operand_cases hoperand with hplain | ⟨q, -, hkind, -⟩
    · rw [firstPower?_of_isPlain hplain] at hl
      cases hl
    · rw [firstPower?, hkind] at hl
      cases hl
  | call => cases hl
  | index => cases hl
  | @binary left s x xs right h hrest hx hright =>
    obtain ⟨-, l', hpowers, hle⟩ := binaryAt?_eq_some_iff.1 hright
    have hplace := (h.yields (yielding_reader eof all n)).place
    have hl : (binaryPower? (operatorText source x.span)).map Prod.fst = some l := hl
    rw [hsource x (hplace.mem hrest), hpowers] at hl
    cases hl
    exact hle

/-- An operand has no operator of less than the power it was read with. -/
theorem le_firstPower_of_optional (hsource : Spells source all) (hs : s.PlaceOf all) {c : Tree}
    (hc : c ∈ (optional (reader eof n) p context s).1) (hl : firstPower? source c = some l) : p ≤ l := by
  unfold optional at hc
  split at hc
  · rename_i t s' hrun
    obtain rfl := List.mem_singleton.1 hc
    rcases run_cases hs hrun with ⟨start, rfl, -, -⟩ | ⟨m, -, hgrown, -⟩
    · cases hl
    · exact hgrown.le_firstPower hsource hl
  · cases hc

/-! ### Every node -/

/-- How the operands of a node are bound: the first one more tightly than the node itself, and the last one
as tightly as the node asks for. -/
def Held (source : Text) (t : Tree) : Prop :=
  match t.kind with
  | .binary op => ∃ l r, binaryPower? (operatorText source op) = some (l, r) ∧
      (∀ c ∈ t.children.head?, ∀ p, lastPower? source c = some p → l < p) ∧
      ∀ c ∈ t.children.tail, ∀ q, firstPower? source c = some q → r ≤ q
  | .unary op => ∃ p, unaryPower? (operatorText source op) = some p ∧
      ∀ c ∈ t.children, ∀ q, firstPower? source c = some q → p ≤ q
  | .call | .index _ => ∀ c ∈ t.children.head?, ∀ p, lastPower? source c = some p → postfixPower < p
  | _ => True

theorem held_of_isPlain (h : isPlain t.kind = true) : Held source t := by
  unfold Held
  cases hkind : t.kind with
  | binary | unary | call | index => rw [hkind] at h; cases h
  | _ => trivial

theorem Grown.held (hsource : Spells source all) (h : Grown eof all (reader eof n) power context t s) :
    Held source t := by
  have hplace : ∀ {t s}, Grown eof all (reader eof n) power context t s → s.PlaceOf all :=
    fun h => (h.yields (yielding_reader eof all n)).place
  -- what extends `left` binds less tightly than the operand that was read last in it
  have hstop : ∀ {left s x xs}, Grown eof all (reader eof n) power context left s →
      s.rest = x :: xs → ∀ p, lastPower? source left = some p → goesOn p context x = false := by
    intro left s x xs h hrest p hp
    exact h.stops hsource hp x (by rw [hrest]; rfl)
  cases h with
  | operand hs hrest hoperand =>
    rcases operand_cases hoperand with hplain | ⟨q, hq, hkind, hchildren, -⟩
    · exact held_of_isPlain hplain
    · rw [Held, hkind, hchildren]
      refine ⟨q, by rw [hsource _ (hs.mem hrest), hq], fun c hc l hl => ?_⟩
      exact le_firstPower_of_optional hsource (hs.next hrest) hc hl
  | @call left s x xs h hrest hx hkind =>
    intro c hc p hp
    obtain rfl : left = c := Option.some.inj hc
    exact postfixPower_lt_of_goesOn hx (hstop h hrest p hp) (.inl hkind)
  | @index left s x xs h hrest hx hkind =>
    intro c hc p hp
    obtain rfl : left = c := Option.some.inj hc
    exact postfixPower_lt_of_goesOn hx (hstop h hrest p hp) (.inr hkind)
  | @binary left s x xs right h hrest hx hright =>
    obtain ⟨hkind, l, hpowers, -⟩ := binaryAt?_eq_some_iff.1 hright
    refine ⟨l, right, by rw [hsource x ((hplace h).mem hrest), hpowers], fun c hc p hp => ?_,
      fun c hc q hq => ?_⟩
    · obtain rfl : left = c := Option.some.inj hc
      exact lt_of_goesOn hx (hstop h hrest p hp) hkind hpowers
    · exact le_firstPower_of_optional hsource ((hplace h).next hrest) hc hq

theorem Form.held (hsource : Spells source all) (h : Form eof all t) : Held source t := by
  cases h with
  | expression h => exact h.held hsource
  | list | argument | statement | error => trivial
  | leaf hs hrest hk => rcases hk with rfl | rfl | rfl <;> trivial

theorem spells_lexemes (source : Text) (tokens : List Token) : Spells source (lexemes source tokens) := by
  intro x hx
  obtain ⟨t, -, -, -, hspan, htext⟩ := token_of_mem_lexemesFrom hx
  rw [htext, hspan]
  rfl

theorem held_parse (ht : t ∈ (parse source).nodes) : Held source t := by
  rcases form_of_mem_build ht with rfl | h
  · trivial
  · exact h.held (spells_lexemes source _)

/-! ### The tables -/

theorem mem_of_postfixPower_lt {op : String} (h : binaryPower? op = some (l, r))
    (hr : postfixPower < r) : op ∈ ["$", "@", "::", ":::"] := by
  unfold binaryPower? at h
  split at h <;> grind [postfixPower]

theorem unaryPower?_le {op : String} (h : unaryPower? op = some p) : p ≤ postfixPower := by
  unfold unaryPower? at h
  split at h <;> grind [postfixPower]

/-! ### Grouping -/

theorem firstPower?_of_binary {op : Span} (hkind : t.kind = .binary op)
    (hpowers : binaryPower? (operatorText source op) = some (l, r)) : firstPower? source t = some l := by
  simp [firstPower?, hkind, hpowers]

theorem lastPower?_of_binary {op : Span} (hkind : t.kind = .binary op) (hlength : 2 ≤ t.children.length)
    (hpowers : binaryPower? (operatorText source op) = some (l, r)) : lastPower? source t = some r := by
  simp [lastPower?, hkind, hlength, hpowers]

theorem lastPower?_of_unary {op : Span} (hkind : t.kind = .unary op) (hne : t.children ≠ []) :
    lastPower? source t = unaryPower? (operatorText source op) := by
  simp [lastPower?, hkind, hne]

/-- The operands of a node are grouped as the tables say. For a binary operator `op` the table has a left and
a right power, for an operator in front the power with which its operand is read. -/
structure Grouped (source : Text) (t : Tree) : Prop where
  right : ∀ op child op', t.kind = .binary op → t.children[1]? = some child → child.kind = .binary op' →
    ∃ l r l' r', binaryPower? (operatorText source op) = some (l, r) ∧
      binaryPower? (operatorText source op') = some (l', r') ∧ r ≤ l'
  left : ∀ op child op', t.kind = .binary op → t.children[0]? = some child → child.kind = .binary op' →
    2 ≤ child.children.length →
    ∃ l r l' r', binaryPower? (operatorText source op) = some (l, r) ∧
      binaryPower? (operatorText source op') = some (l', r') ∧ l < r'
  leftUnary : ∀ op child op', t.kind = .binary op → t.children[0]? = some child → child.kind = .unary op' →
    child.children ≠ [] →
    ∃ l r p, binaryPower? (operatorText source op) = some (l, r) ∧
      unaryPower? (operatorText source op') = some p ∧ l < p
  operand : ∀ op child op', t.kind = .unary op → child ∈ t.children → child.kind = .binary op' →
    ∃ p l' r', unaryPower? (operatorText source op) = some p ∧
      binaryPower? (operatorText source op') = some (l', r') ∧ p ≤ l'
  /-- What is called or indexed is no binary expression but one of a package or a component. -/
  callee : ∀ child, (t.kind = .call ∨ ∃ double, t.kind = .index double) → t.children[0]? = some child →
    (∀ op, child.kind = .binary op → 2 ≤ child.children.length →
      operatorText source op ∈ ["$", "@", "::", ":::"]) ∧
    ∀ op, child.kind = .unary op → child.children = []

theorem Held.of_binary {op : Span} (h : Held source t) (hkind : t.kind = .binary op) :
    ∃ l r, binaryPower? (operatorText source op) = some (l, r) ∧
      (∀ c ∈ t.children.head?, ∀ p, lastPower? source c = some p → l < p) ∧
      ∀ c ∈ t.children.tail, ∀ q, firstPower? source c = some q → r ≤ q := by
  rw [Held, hkind] at h
  exact h

theorem Held.of_unary {op : Span} (h : Held source t) (hkind : t.kind = .unary op) :
    ∃ p, unaryPower? (operatorText source op) = some p ∧
      ∀ c ∈ t.children, ∀ q, firstPower? source c = some q → p ≤ q := by
  rw [Held, hkind] at h
  exact h

theorem Held.of_callee (h : Held source t) (hkind : t.kind = .call ∨ ∃ double, t.kind = .index double) :
    ∀ c ∈ t.children.head?, ∀ p, lastPower? source c = some p → postfixPower < p := by
  rcases hkind with hkind | ⟨double, hkind⟩
  · rw [Held, hkind] at h
    exact h
  · rw [Held, hkind] at h
    exact h

/-- A node is grouped by the tables if its operands are bound as they should be. -/
theorem Held.grouped (h : Held source t) (hchildren : ∀ c ∈ t.children, Held source c) :
    Grouped source t where
  right op child op' hkind hchild hkind' := by
    obtain ⟨l, r, hpowers, -, hright⟩ := h.of_binary hkind
    obtain ⟨l', r', hpowers', -, -⟩ := (hchildren child (List.mem_of_getElem? hchild)).of_binary hkind'
    have htail : child ∈ t.children.tail := by
      rw [← List.drop_one]
      exact List.mem_of_getElem? (i := 0) (by rw [List.getElem?_drop, hchild])
    exact ⟨l, r, l', r', hpowers, hpowers', hright child htail l' (firstPower?_of_binary hkind' hpowers')⟩
  left op child op' hkind hchild hkind' hlength := by
    obtain ⟨l, r, hpowers, hleft, -⟩ := h.of_binary hkind
    obtain ⟨l', r', hpowers', -, -⟩ := (hchildren child (List.mem_of_getElem? hchild)).of_binary hkind'
    rw [← List.head?_eq_getElem?] at hchild
    exact ⟨l, r, l', r', hpowers, hpowers',
      hleft child hchild r' (lastPower?_of_binary hkind' hlength hpowers')⟩
  leftUnary op child op' hkind hchild hkind' hne := by
    obtain ⟨l, r, hpowers, hleft, -⟩ := h.of_binary hkind
    obtain ⟨p, hp, -⟩ := (hchildren child (List.mem_of_getElem? hchild)).of_unary hkind'
    rw [← List.head?_eq_getElem?] at hchild
    exact ⟨l, r, p, hpowers, hp, hleft child hchild p (by rw [lastPower?_of_unary hkind' hne, hp])⟩
  operand op child op' hkind hchild hkind' := by
    obtain ⟨p, hp, hoperand⟩ := h.of_unary hkind
    obtain ⟨l', r', hpowers', -, -⟩ := (hchildren child hchild).of_binary hkind'
    exact ⟨p, l', r', hp, hpowers', hoperand child hchild l' (firstPower?_of_binary hkind' hpowers')⟩
  callee child hkind hchild := by
    have hheld := hchildren child (List.mem_of_getElem? hchild)
    rw [← List.head?_eq_getElem?] at hchild
    have hlast := h.of_callee hkind child hchild
    constructor
    · intro op hkind' hlength
      obtain ⟨l', r', hpowers', -, -⟩ := hheld.of_binary hkind'
      exact mem_of_postfixPower_lt hpowers' (hlast r' (lastPower?_of_binary hkind' hlength hpowers'))
    · intro op hkind'
      obtain ⟨p, hp, -⟩ := hheld.of_unary hkind'
      -- no operator in front binds as tightly as calls and indexing
      by_cases hnil : child.children = []
      · exact hnil
      · have hlt := hlast p (by rw [lastPower?_of_unary hkind' hnil, hp])
        have hle := unaryPower?_le hp
        omega

/-- Every node of the tree of a text is grouped by the tables of powers. -/
theorem grouped_parse (source : Text) (t : Tree) (ht : t ∈ (parse source).nodes) : Grouped source t :=
  (held_parse ht).grouped fun _ hc => held_parse (child_mem_nodes ht hc)

/-- The first `-` is in front of a whole power and belongs to the left side of the second one. -/
theorem grouped_parse_signed :
    let tree := parse "-a ^ b - c$d(e) *".toList
    ∃ t ∈ tree.nodes, t.kind = .binary ⟨7, 8⟩ ∧
      t.children.map (·.kind) = [.unary ⟨0, 1⟩, .binary ⟨16, 17⟩] ∧
      Grouped "-a ^ b - c$d(e) *".toList t := by
  intro tree
  have hmem := List.get_mem tree.nodes ⟨2, by decide +kernel⟩
  exact ⟨_, hmem, by decide +kernel, by decide +kernel, grouped_parse _ _ hmem⟩

end RSource.Grammar
