import RSource.Proofs.Grammar.Precedence
import RSource.Proofs.Grammar.Written
import RSource.Proofs.Tree.Nodes

/-!
# Printed operator trees are read back

An `OperatorTree` has names at its leaves and binary operators at its nodes. If the powers allow its grouping
without parentheses (`WellGrouped`), reading its print gives the tree again (`parse_print`).

The two conditions of `WellGrouped` are local: they compare a node with its children. That they reach through
the whole tree is due to the table of powers. The right power of an operator is at most one above its left
power, so an operator that a left child leaves to its parent is none that the parent's surroundings take
(`BinaryOperator.right_le`). And no left power lies between the two powers of an operator, so what stops a
node stops the operators that are grouped below it on its right (`BinaryOperator.lt_right`).
-/

namespace RSource.Grammar
open RSource.Tree Text Token

structure Name where
  text : Text
  isPlainName : IsPlainName text

/-- A binary operator with its powers. An operator `%...%` has no other `%` in it and no line break: the text
would not be one token. -/
structure BinaryOperator where
  text : Text
  left : Nat
  right : Nat
  powers : binaryPower? (String.ofList text) = some (left, right)
  isInner : isPercentOperator (String.ofList text) = true → ∀ d ∈ text.tail.dropLast, isPercentInner d = true

inductive OperatorTree where
  | leaf (name : Name)
  | node (left : OperatorTree) (op : BinaryOperator) (right : OperatorTree)

variable {eof n power last a b : Nat} {context : Context} {source u v w : Text} {k : Token.Kind} {pos : Nat}
  {es : List Token} {rest : List Lexeme} {sub : Reader}

/-! ### Operators -/

namespace BinaryOperator

def powerPairs : List (Nat × Nat) :=
  [(1, 2), (4, 3), (6, 5), (7, 8), (9, 10), (11, 12), (13, 14), (17, 18), (19, 20), (21, 22), (23, 24),
    (25, 26), (30, 29), (41, 42), (43, 44)]

theorem mem_powerPairs (op : BinaryOperator) : (op.left, op.right) ∈ powerPairs := by
  have h := op.powers
  generalize (op.left, op.right) = p at h ⊢
  unfold binaryPower? at h
  split at h
  case h_30 =>
    split at h
    · cases h
      decide
    · cases h
  all_goals
    cases h
    decide

/-- What binds on its left less tightly than `op` on its right binds no more tightly than `op` on its left. -/
theorem right_le (op : BinaryOperator) : op.right ≤ op.left + 1 := by
  have h : ∀ p ∈ powerPairs, p.2 ≤ p.1 + 1 := by decide
  exact h _ op.mem_powerPairs

/-- No left power lies between the two powers of an operator. -/
theorem lt_right (op : BinaryOperator) {o : BinaryOperator} (h : op.left < o.left) : op.left < o.right := by
  have hpairs : ∀ p ∈ powerPairs, ∀ q ∈ powerPairs, p.1 < q.1 → p.1 < q.2 := by decide
  exact hpairs _ op.mem_powerPairs _ o.mem_powerPairs h

theorem eq_of_isPercentOperator (h : isPercentOperator (String.ofList w) = true) :
    w = '%' :: (w.tail.dropLast ++ ['%']) := by
  simp only [isPercentOperator, Bool.and_eq_true, decide_eq_true_eq, beq_iff_eq, String.toList_ofList] at h
  obtain ⟨⟨hlength, hfirst⟩, hlast⟩ := h
  obtain ⟨cs, rfl⟩ := List.head?_eq_some_iff.1 hfirst
  cases cs with
  | nil => exact absurd hlength (by decide)
  | cons c cs =>
    rw [List.getLast?_cons_cons] at hlast
    rw [List.tail_cons, List.dropLast_append_getLast? _ hlast]

theorem isOperator (op : BinaryOperator) : IsOperator op.text := by
  by_cases hpercent : isPercentOperator (String.ofList op.text) = true
  · exact .inr ⟨_, eq_of_isPercentOperator hpercent, op.isInner hpercent⟩
  · have hmem : String.ofList op.text ∈ operators := by
      have h := op.powers
      generalize String.ofList op.text = name at h hpercent ⊢
      unfold binaryPower? at h
      split at h
      case h_30 =>
        rw [if_neg hpercent] at h
        cases h
      all_goals decide
    exact .inl ⟨_, hmem, String.toList_ofList.symm⟩

def lexeme (op : BinaryOperator) (start : Nat) : Lexeme :=
  ⟨.operator, ⟨start, start + op.text.byteLength⟩, String.ofList op.text, false⟩

end BinaryOperator

/-! ### Trees -/

namespace OperatorTree

def root? : OperatorTree → Option BinaryOperator
  | leaf _ => none
  | node _ op _ => some op

/-- The tree in order, with one space on both sides of every operator. -/
def print : OperatorTree → Text
  | leaf x => x.text
  | node l op r => l.print ++ ' ' :: (op.text ++ ' ' :: r.print)

/-- The offset of the operator of a node that starts at `start`, where `left` is the left child. -/
def operatorStart (start : Nat) (left : OperatorTree) : Nat :=
  start + left.print.byteLength + 1

/-- The offset of the right child of a node that starts at `start`. -/
def rightStart (start : Nat) (left : OperatorTree) (op : BinaryOperator) : Nat :=
  operatorStart start left + op.text.byteLength + 1

/-- The tree with the spans of its print, which starts at `start`. -/
def tree (start : Nat) : OperatorTree → Tree
  | leaf x => .leaf .identifier ⟨start, start + x.text.byteLength⟩
  | node l op r =>
    .node (.binary (op.lexeme (operatorStart start l)).span) ⟨start, start + (node l op r).print.byteLength⟩
      [l.tree start, r.tree (rightStart start l op)]

def lexemes (start : Nat) : OperatorTree → List Lexeme
  | leaf x => [⟨.identifier, ⟨start, start + x.text.byteLength⟩, String.ofList x.text, false⟩]
  | node l op r =>
    l.lexemes start ++ op.lexeme (operatorStart start l) :: r.lexemes (rightStart start l op)

/-- The powers group the operators as the tree does: a right child binds at least as tightly on its left as
its parent on its right, and a left child binds more tightly on its right than its parent on its left. -/
def WellGrouped : OperatorTree → Prop
  | leaf _ => True
  | node l op r =>
    (∀ o ∈ l.root?, op.left < o.right) ∧ (∀ o ∈ r.root?, op.right ≤ o.left) ∧ l.WellGrouped ∧ r.WellGrouped

/-- The greatest number of steps to a right child on a path to a leaf. -/
def rightDepth : OperatorTree → Nat
  | leaf _ => 0
  | node l _ r => max l.rightDepth (r.rightDepth + 1)

/-! ### The lexemes of a print -/

theorem byteLength_print_node (l r : OperatorTree) (op : BinaryOperator) :
    (node l op r).print.byteLength =
      l.print.byteLength + 1 + op.text.byteLength + 1 + r.print.byteLength := by
  have hspace : ∀ v : Text, byteLength (' ' :: v) = 1 + byteLength v := fun _ => rfl
  rw [print, byteLength_append, hspace, byteLength_append, hspace]
  omega

theorem isInlineBlank_head_print (t : OperatorTree) (v : Text) :
    ∀ d ∈ (t.print ++ v).head?, isInlineBlank d = false := by
  induction t generalizing v with
  | leaf x =>
    obtain ⟨c, cs, hcs, hc, -⟩ := isWord_name x.isPlainName
    intro d hd
    rw [print, hcs] at hd
    cases hd
    exact hc
  | node l op r ihl ihr =>
    rw [print, List.append_assoc]
    exact ihl _

end OperatorTree

theorem lexemesFrom_word (hw : IsWord k w) (hk : isSilent k = false) (hv : IsApart v)
    (hsource : source = u ++ w ++ v) :
    lexemesFrom source source.byteLength false (tokensFrom (byteLength u) (w ++ v) ++ es) =
      ⟨k, ⟨byteLength u, byteLength u + byteLength w⟩, String.ofList w, false⟩ ::
        lexemesFrom source source.byteLength false (tokensFrom (byteLength (u ++ w)) v ++ es) := by
  obtain ⟨c, cs, rfl, -, hscan⟩ := hw
  exact lexemesFrom_token (hscan v hv) hk hsource

namespace OperatorTree

/-- The lexemes of a print that has a delimiter or the end of the text behind it. -/
theorem lexemesFrom_print (t : OperatorTree) (hv : IsApart v) (hsource : source = u ++ t.print ++ v) :
    lexemesFrom source source.byteLength false (tokensFrom (byteLength u) (t.print ++ v) ++ es) =
      t.lexemes (byteLength u) ++
        lexemesFrom source source.byteLength false (tokensFrom (byteLength (u ++ t.print)) v ++ es) := by
  induction t generalizing u v with
  | leaf x => exact lexemesFrom_word (isWord_name x.isPlainName) rfl hv hsource
  | node l op r ihl ihr =>
    have hop := isWord_operator op.isOperator
    have hapart : ∀ v : Text, IsApart (' ' :: v) := isApart_cons (by decide +kernel)
    have hstart : ∀ d ∈ (op.text ++ ' ' :: (r.print ++ v)).head?, isInlineBlank d = false := by
      obtain ⟨c, cs, hcs, hc, -⟩ := hop
      intro d hd
      rw [hcs] at hd
      cases hd
      exact hc
    have hsplit : (node l op r).print ++ v = l.print ++ ' ' :: (op.text ++ ' ' :: (r.print ++ v)) := by
      simp [print]
    have hspace : byteLength [' '] = 1 := rfl
    have hoperator : byteLength (u ++ l.print ++ [' ']) = operatorStart (byteLength u) l := by
      rw [byteLength_append, byteLength_append, hspace, operatorStart]
    have hright : byteLength (u ++ l.print ++ [' '] ++ op.text ++ [' ']) = rightStart (byteLength u) l op := by
      rw [byteLength_append, byteLength_append, hoperator, hspace, rightStart]
    have hstop : u ++ l.print ++ [' '] ++ op.text ++ [' '] ++ r.print = u ++ (node l op r).print := by
      simp [print]
    rw [hsplit, ihl (hapart _) (by simp [hsource, print]),
      lexemesFrom_space hstart (by simp [hsource, print]),
      lexemesFrom_word hop rfl (hapart _) (by simp [hsource, print]),
      lexemesFrom_space (isInlineBlank_head_print r v) (by simp [hsource, print]),
      ihr hv (by simp [hsource, print]), hright, hstop, hoperator, lexemes, List.append_assoc, List.cons_append]
    rfl

theorem lexemes_print (t : OperatorTree) : Grammar.lexemes t.print (tokenizeAll t.print) = t.lexemes 0 := by
  have h := @lexemesFrom_print t.print [] [] [eos t.print.byteLength] t (by simp [IsApart]) (by simp)
  rw [List.append_nil, byteLength_nil] at h
  rw [Grammar.lexemes, tokenizeAll_eq, h]
  simp [lexemesFrom, isSilent, eos]

theorem lexemes_eq_cons (t : OperatorTree) (start : Nat) :
    ∃ x xs, t.lexemes start = x :: xs ∧ x.kind = .identifier := by
  induction t with
  | leaf x => exact ⟨_, [], rfl, rfl⟩
  | node l op r ihl ihr =>
    obtain ⟨x, xs, hl, hkind⟩ := ihl
    exact ⟨x, _, by rw [lexemes, hl, List.cons_append], hkind⟩

/-! ### Reading the lexemes -/

theorem span_tree (t : OperatorTree) (start : Nat) :
    (t.tree start).span = ⟨start, start + t.print.byteLength⟩ := by
  cases t <;> rfl

end OperatorTree

/-- What follows is nothing, or an operator that binds on its left less tightly than `power`. -/
def Ends (power : Nat) (rest : List Lexeme) : Prop :=
  ∀ x ∈ rest.head?, ∃ (op : BinaryOperator) (start : Nat), x = op.lexeme start ∧ op.left < power

theorem extend_of_ends {left : Tree} (h : Ends power rest) :
    extend eof sub power context left ⟨rest, last⟩ = (left, ⟨rest, last⟩) := by
  cases rest with
  | nil => exact extend_of_nil rfl
  | cons x rest =>
    obtain ⟨op, start, rfl, hlt⟩ := h x rfl
    have hnone : binaryAt? power (op.lexeme start) = none := by
      rw [BinaryOperator.lexeme, binaryAt?, if_pos rfl, op.powers, Option.bind_some]
      exact if_neg (Nat.not_le.2 hlt)
    rw [extend_of_cons rfl, hnone]
    simp [BinaryOperator.lexeme]

theorem extend_operator (op : BinaryOperator) {left : Tree} {start : Nat} (h : power ≤ op.left) :
    extend eof sub power context left ⟨op.lexeme start :: rest, last⟩ =
      let r := optional sub op.right context ⟨rest, start + op.text.byteLength⟩
      extend eof sub power context
        (.node (.binary (op.lexeme start).span)
          ⟨left.span.start, lastStopD r.1 (op.lexeme start).span.stop⟩ (left :: r.1)) r.2 := by
  have hsome : binaryAt? power (op.lexeme start) = some op.right :=
    binaryAt?_eq_some_iff.2 ⟨rfl, op.left, op.powers, h⟩
  rw [extend_of_cons rfl, hsome]
  simp [BinaryOperator.lexeme]

namespace OperatorTree

/-- Reading the lexemes of a tree gives the tree, to be extended by what follows. -/
theorem expression_lexemes (t : OperatorTree) (hgroup : t.WellGrouped) (hdepth : t.rightDepth ≤ n)
    (hpower : ∀ o ∈ t.root?, power ≤ o.left) (hends : ∀ o ∈ t.root?, Ends o.right rest) :
    expression eof (reader eof n) power context ⟨t.lexemes a ++ rest, last⟩ =
      some (extend eof (reader eof n) power context (t.tree a) ⟨rest, a + t.print.byteLength⟩) := by
  induction t generalizing n power a last rest with
  | leaf x => rfl
  | node l op r ihl ihr =>
    obtain ⟨hl, hr, hgroupl, hgroupr⟩ := hgroup
    simp only [rightDepth, Nat.max_le] at hdepth
    have hpower : power ≤ op.left := hpower op rfl
    have hends : Ends op.right rest := hends op rfl
    obtain ⟨m, rfl⟩ : ∃ m, n = m + 1 := ⟨n - 1, by omega⟩
    -- the left child takes its operators and leaves `op`
    have hpowerl : ∀ o ∈ l.root?, power ≤ o.left := by
      intro o ho
      have hlt := hl o ho
      have hle := o.right_le
      omega
    have hendsl : ∀ o ∈ l.root?,
        Ends o.right (op.lexeme (operatorStart a l) :: (r.lexemes (rightStart a l op) ++ rest)) := by
      intro o ho x hx
      cases hx
      exact ⟨op, _, rfl, hl o ho⟩
    -- the right child takes its operators and leaves what follows the tree
    have hendsr : ∀ o ∈ r.root?, Ends o.right rest := by
      intro o ho x hx
      obtain ⟨o', start, rfl, hlt⟩ := hends x hx
      exact ⟨o', start, rfl, o'.lt_right (Nat.lt_of_lt_of_le hlt (hr o ho))⟩
    have hoptional : optional (reader eof (m + 1)) op.right context
        ⟨r.lexemes (rightStart a l op) ++ rest, operatorStart a l + op.text.byteLength⟩ =
        ([r.tree (rightStart a l op)], ⟨rest, rightStart a l op + r.print.byteLength⟩) := by
      rw [optional, show (reader eof (m + 1)).run = expression eof (reader eof m) from rfl,
        ihr hgroupr (by omega) hr hendsr, extend_of_ends hends]
    have hstop : rightStart a l op + r.print.byteLength = a + (node l op r).print.byteLength := by
      rw [byteLength_print_node, rightStart, operatorStart]
      omega
    rw [lexemes, List.append_assoc, List.cons_append, ihl hgroupl hdepth.1 hpowerl hendsl,
      extend_operator op hpower, hoptional]
    simp only [lastStopD, List.getLast?_singleton, Option.map_some, Option.getD_some, span_tree, hstop, tree]

theorem isError_of_mem_tree (t : OperatorTree) (start : Nat) :
    ∀ u ∈ (t.tree start).nodes, u.kind.isError = false := by
  induction t generalizing start with
  | leaf x =>
    intro u hu
    rcases mem_nodes.1 hu with rfl | ⟨c, hc, -⟩
    · rfl
    · cases hc
  | node l op r ihl ihr =>
    intro u hu
    rcases mem_nodes.1 hu with rfl | ⟨c, hc, hu⟩
    · rfl
    · rw [tree] at hc
      rcases List.mem_pair.1 hc with rfl | rfl
      · exact ihl _ u hu
      · exact ihr _ u hu

/-- The print of a tree that the powers group as it stands is read as this one tree, and without errors. -/
theorem parse_print (t : OperatorTree) (hgroup : t.WellGrouped) (hdepth : t.rightDepth < maxNesting) :
    parse t.print = .node .program ⟨0, t.print.byteLength⟩
        [.node .expressionStatement ⟨0, t.print.byteLength⟩ [t.tree 0]] ∧
      (parse t.print).hasErrors = false := by
  have hrun : (reader t.print.byteLength maxNesting).run 0 .top ⟨t.lexemes 0, 0⟩ =
      some (t.tree 0, ⟨[], t.print.byteLength⟩) := by
    have h := @expression_lexemes t.print.byteLength (maxNesting - 1) 0 0 0 .top [] t hgroup (by omega)
      (fun _ _ => Nat.zero_le _) (fun _ _ => by simp [Ends])
    rw [List.append_nil, Nat.zero_add, extend_of_nil rfl] at h
    exact h
  have htree : parse t.print = .node .program ⟨0, t.print.byteLength⟩
      [.node .expressionStatement ⟨0, t.print.byteLength⟩ [t.tree 0]] := by
    obtain ⟨x, xs, hlexemes, hkind⟩ := t.lexemes_eq_cons 0
    have hsemi : ¬ x.isOperator ";" = true := by simp [Lexeme.isOperator, hkind]
    have hstray : ¬ x.kind.isCloser = true := by simp [hkind, Kind.isCloser]
    rw [parse, build, t.lexemes_print, statements_of_some hlexemes (by simp) hsemi hstray hrun, span_tree,
      Nat.zero_add]
    rfl
  refine ⟨htree, ?_⟩
  rw [htree, hasErrors, List.any_eq_false]
  intro u hu
  rcases mem_nodes.1 hu with rfl | ⟨c, hc, hu⟩
  · simp [Tree.kind, Tree.Kind.isError]
  · obtain rfl := List.mem_singleton.1 hc
    rcases mem_nodes.1 hu with rfl | ⟨c, hc, hu⟩
    · simp [Tree.kind, Tree.Kind.isError]
    · obtain rfl := List.mem_singleton.1 hc
      simp [t.isError_of_mem_tree 0 u hu]

/-- Operators that group to the left, to the right, and of the form `%...%`. -/
theorem parse_print_mixed :
    let name (text : Text) (h : IsPlainName text) : OperatorTree := .leaf ⟨text, h⟩
    let assign : BinaryOperator := ⟨"<-".toList, 6, 5, by decide, fun h => absurd h (by decide)⟩
    let minus : BinaryOperator := ⟨"-".toList, 19, 20, by decide, fun h => absurd h (by decide)⟩
    let into : BinaryOperator := ⟨"%in%".toList, 23, 24, by decide, fun _ => List.all_eq_true.1 rfl⟩
    let t : OperatorTree := .node (name ['a'] (by decide +kernel)) assign
      (.node (name ['b'] (by decide +kernel)) assign
        (.node (.node (name ['c'] (by decide +kernel)) minus (name ['d'] (by decide +kernel))) minus
          (.node (name ['e'] (by decide +kernel)) into (name ['f'] (by decide +kernel)))))
    t.print = "a <- b <- c - d - e %in% f".toList ∧
      parse t.print = .node .program ⟨0, t.print.byteLength⟩
        [.node .expressionStatement ⟨0, t.print.byteLength⟩ [t.tree 0]] ∧
      (parse t.print).hasErrors = false := by
  intro name assign minus into t
  have hgroup : t.WellGrouped := by simp [t, name, assign, minus, into, WellGrouped, root?]
  have hdepth : t.rightDepth < maxNesting := by decide
  exact ⟨rfl, t.parse_print hgroup hdepth⟩

end OperatorTree

end RSource.Grammar
