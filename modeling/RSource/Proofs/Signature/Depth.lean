import RSource.Proofs.Grammar.OperatorTree
import RSource.Proofs.Signature.Default

/-!
# How deep definitions are looked for

`definitions` calls itself on the inner part of an assignment or of parentheses. The levels that expressions may
nest bound how often it can do so into parentheses and to the right of an operator, since what stands there was
read one level deeper. They do not bound how often it goes on to the left of a right assignment: operators that
group to the left are read one after the other at one level. So the calls inside one another are at most one more
than the levels, but for those made for right assignments (`length_calls_le`), and there is no bound on these
(`not_exists_length_calls_le`).
-/

namespace RSource.Signature
open RSource.Tree Grammar Text Cursor

variable {source : Text} {t u : Tree} {names : List String} {s s' : Cursor} {n power eof : Nat}
  {context : Context} {all : List Lexeme} {x : Lexeme} {sub : Reader}

/-! ### Calls -/

/-- `definitions` together with the trees it is called for, from the outermost call to the innermost. -/
def definitionsWithCalls (source : Text) (names : List String) : Tree → List Signature × List Tree
  | .node .functionDefinition span children =>
    let t := Tree.node .functionDefinition span children
    (names.map fun name => ⟨name, formals t source, none⟩, [t])
  | .node (.binary op) span [left, right] =>
    let r :=
      match String.ofList (source.sliceD op.start op.stop) with
      | "<-" | "<<-" | "=" =>
        if left.isAtom then definitionsWithCalls source (names ++ [left.unquotedText source]) right else ([], [])
      | "->" | "->>" =>
        if right.isAtom then definitionsWithCalls source (names ++ [right.unquotedText source]) left else ([], [])
      | _ => ([], [])
    (r.1, .node (.binary op) span [left, right] :: r.2)
  | .node .parenthesized span (inner :: rest) =>
    let r := definitionsWithCalls source names inner
    (r.1, .node .parenthesized span (inner :: rest) :: r.2)
  | t => ([], [t])

/-- The definitions of one statement together with the calls of `definitions`. -/
def ofStatementWithCalls (source : Text) (statement : Tree) : List Signature × List Tree :=
  match statement with
  | .node .expressionStatement _ (expression :: _) => definitionsWithCalls source [] expression
  | _ => ([], [])

theorem fst_definitionsWithCalls (source : Text) (t : Tree) (names : List String) :
    (definitionsWithCalls source names t).1 = definitions source names t := by
  fun_induction definitions source names t with
  | case1 => rfl
  | case13 names span inner rest ih => exact ih
  | _ => simp_all [definitionsWithCalls]

theorem fst_ofStatementWithCalls (source : Text) (t : Tree) :
    (ofStatementWithCalls source t).1 = ofStatement source t := by
  obtain ⟨k, s, cs⟩ := t
  cases k with
  | expressionStatement =>
    cases cs with
    | nil => rfl
    | cons e rest => exact fst_definitionsWithCalls source e []
  | _ => rfl

/-- The tree is an assignment to its right side. -/
def isRightAssignment (source : Text) (t : Tree) : Bool :=
  match t.kind with
  | .binary op =>
    let operator := String.ofList (source.sliceD op.start op.stop)
    operator == "->" || operator == "->>"
  | _ => false

/-- For `t`, `definitions` may call itself on `u`: what stands in parentheses, or the value that is assigned. -/
inductive CallsOn (source : Text) (t u : Tree) : Prop
  | inner (hkind : t.kind = .parenthesized) (hu : t.children.head? = some u)
  | right {op : Span} (hkind : t.kind = .binary op) (hright : isRightAssignment source t = false)
      (hu : t.children[1]? = some u)
  | left {op : Span} (hkind : t.kind = .binary op) (hright : isRightAssignment source t = true)
      (hu : t.children.head? = some u)

theorem CallsOn.kind_eq (h : CallsOn source t u) : t.kind = .parenthesized ∨ ∃ op, t.kind = .binary op := by
  cases h with
  | inner hkind => exact .inl hkind
  | right hkind | left hkind => exact .inr ⟨_, hkind⟩

theorem calls_cases (source : Text) (t : Tree) (names : List String) :
    (definitionsWithCalls source names t).2 = [t] ∨
      ∃ names' u, CallsOn source t u ∧
        (definitionsWithCalls source names t).2 = t :: (definitionsWithCalls source names' u).2 := by
  obtain ⟨k, span, cs⟩ := t
  cases k with
  | binary op =>
    rcases cs with _ | ⟨left, _ | ⟨right, _ | ⟨third, rest⟩⟩⟩
    case cons.cons.nil =>
      have hassign : isRightAssignment source (.node (.binary op) span [left, right]) =
          (String.ofList (source.sliceD op.start op.stop) == "->" ||
            String.ofList (source.sliceD op.start op.stop) == "->>") := rfl
      simp only [definitionsWithCalls]
      -- the operator says on which side the name stands, and the other side is the value
      generalize String.ofList (source.sliceD op.start op.stop) = o at hassign ⊢
      split
      case h_1 | h_2 | h_3 =>
        split
        · exact .inr ⟨_, right, .right rfl (hassign.trans (by decide)) rfl, rfl⟩
        · exact .inl rfl
      case h_4 | h_5 =>
        split
        · exact .inr ⟨_, left, .left rfl (hassign.trans (by decide)) rfl, rfl⟩
        · exact .inl rfl
      case h_6 => exact .inl rfl
    all_goals exact .inl rfl
  | parenthesized =>
    cases cs with
    | nil => exact .inl rfl
    | cons inner rest => exact .inr ⟨names, inner, .inner rfl rfl, rfl⟩
  | _ => exact .inl rfl

theorem calls_rightAssignment {op span : Span} {left right : Tree} (hright : right.isAtom = true)
    (hop : String.ofList (source.sliceD op.start op.stop) = "->") :
    (definitionsWithCalls source names (.node (.binary op) span [left, right])).2 =
      .node (.binary op) span [left, right] ::
        (definitionsWithCalls source (names ++ [right.unquotedText source]) left).2 := by
  simp only [definitionsWithCalls, hop, hright, if_true]

/-! ### Levels -/

/-- Of the calls inside one another at most `n` are made for trees other than right assignments. -/
def IsWithin (source : Text) (n : Nat) (t : Tree) : Prop :=
  ∀ names, (definitionsWithCalls source names t).2.length ≤
    n + (definitionsWithCalls source names t).2.countP (isRightAssignment source)

theorem isWithin_of_callsOn
    (h : ∀ u, CallsOn source t u → IsWithin source (if isRightAssignment source t then n + 1 else n) u) :
    IsWithin source (n + 1) t := by
  intro names
  rcases calls_cases source t names with hcalls | ⟨names', u, hu, hcalls⟩
  · rw [hcalls, List.length_singleton]
    omega
  · have hinner := h u hu names'
    rw [hcalls, List.length_cons, List.countP_cons]
    -- a right assignment is counted with its own call, any other tree takes one of the `n + 1`
    split at hinner
    · next hright =>
      rw [if_pos hright]
      omega
    · next hright =>
      rw [if_neg hright]
      omega

theorem isWithin_of_kind (hparens : t.kind ≠ .parenthesized) (hbinary : ∀ op, t.kind ≠ .binary op) :
    IsWithin source (n + 1) t := by
  refine isWithin_of_callsOn fun u hu => ?_
  rcases hu.kind_eq with hkind | ⟨op, hkind⟩
  · exact absurd hkind hparens
  · exact absurd hkind (hbinary op)

theorem isWithin_of_isError (h : t.kind.isError = true) : IsWithin source (n + 1) t := by
  refine isWithin_of_kind ?_ ?_
  · intro hkind
    rw [hkind] at h
    cases h
  · intro op hkind
    rw [hkind] at h
    cases h

section

variable (hsub : ∀ {power context s s' t}, s.PlaceOf all → (reader eof n).run power context s = some (t, s') →
  IsWithin source (n + 1) t)

include hsub

theorem isWithin_of_mem_optional (hs : s.PlaceOf all) (h : t ∈ (Grammar.optional (reader eof n) power context s).1) :
    IsWithin source (n + 1) t := by
  obtain ⟨s', hrun⟩ := exists_run_of_mem_optional h
  exact hsub hs hrun

/-- An operand goes on in what was read one level deeper, if it is in parentheses, and nowhere else. -/
theorem isWithin_operand (hs : s.PlaceOf all) (h : operand eof (reader eof n) context x s = some (t, s')) :
    IsWithin source (n + 2) t := by
  refine isWithin_of_callsOn fun u hu => ?_
  have hnot : ∀ op, t.kind ≠ .binary op := by
    intro op hkind
    rcases operand_cases h with hplain | ⟨q, -, hunary, -⟩
    · rw [hkind] at hplain
      cases hplain
    · rw [hkind] at hunary
      cases hunary
  cases hu with
  | right hkind | left hkind => exact absurd hkind (hnot _)
  | inner hkind hu =>
    have hright : isRightAssignment source t = false := by rw [isRightAssignment, hkind]
    rw [if_neg (by simp [hright])]
    rcases operand_of_isWrapper h (by rw [hkind]; rfl) with heq | heq
    · obtain rfl : t = _ := congrArg Prod.fst heq
      cases hkind
    · have hchildren : t.children = (condition eof (reader eof n) s).2.1 :=
        (congrArg (fun r => r.1.children) heq).trans (children_finish ..)
      rw [hchildren] at hu
      rcases mem_condition (List.mem_of_mem_head? hu) with ⟨s'', hrun⟩ | herror
      · exact hsub hs hrun
      · exact isWithin_of_isError herror

/-- An expression goes on in a right side, which was read one level deeper, or in the left side of a right
assignment, which was read at its own level. -/
theorem isWithin_grown (h : Grown eof all (reader eof n) power context t s) : IsWithin source (n + 2) t := by
  induction h with
  | operand hs hrest h => exact isWithin_operand hsub (hs.next hrest) h
  | call => exact isWithin_of_kind nofun nofun
  | index => exact isWithin_of_kind nofun nofun
  | binary h hrest hx hright ih =>
    have hplace := (h.yields (yielding_reader eof all n)).place.next hrest
    refine isWithin_of_callsOn fun u hu => ?_
    cases hu with
    | inner hkind => cases hkind
    | right hkind hright hu =>
      rw [if_neg (by simp [hright])]
      exact isWithin_of_mem_optional hsub hplace (List.mem_of_getElem? hu)
    | left hkind hright hu =>
      obtain rfl : _ = u := Option.some.inj hu
      rw [if_pos hright]
      exact ih

end

theorem isWithin_run (n : Nat) (hs : s.PlaceOf all) (h : (reader eof n).run power context s = some (t, s')) :
    IsWithin source (n + 1) t := by
  induction n generalizing power context s s' t with
  | zero =>
    rcases run_cases hs h with ⟨start, rfl, -⟩ | ⟨m, hm, -⟩
    · exact isWithin_of_isError rfl
    · cases hm
  | succ n ih =>
    rcases run_cases hs h with ⟨start, rfl, -⟩ | ⟨m, hm, hgrown, -⟩
    · exact isWithin_of_isError rfl
    · cases hm
      exact isWithin_grown ih hgrown

/-- The signatures of a text are those of its statements, and the calls made for one statement inside one another
are at most one more than the levels of nesting, but for those made for right assignments. -/
theorem length_calls_le (source : Text) :
    extract source = (parse source).children.flatMap (fun t => (ofStatementWithCalls source t).1) ∧
      ∀ t ∈ (parse source).children, (ofStatementWithCalls source t).2.length ≤
        maxNesting + 1 + (ofStatementWithCalls source t).2.countP (isRightAssignment source) := by
  refine ⟨?_, fun t ht => ?_⟩
  · rw [extract_eq, funext (fst_ofStatementWithCalls source)]
  · cases herror : t.kind.isError with
    | true =>
      obtain ⟨k, span, cs⟩ := t
      cases k with
      | error => exact Nat.zero_le _
      | _ => cases herror
    | false =>
      obtain ⟨e, s₁, s₂, hs₁, hrun, rfl⟩ :=
        exists_run_of_mem_statements (yielding_reader _ _ maxNesting) .start ht herror
      exact isWithin_run maxNesting hs₁ hrun []

/-- Two right assignments on the way to a definition in parentheses, and one that no call is made for since it
stands in the body of a definition. -/
theorem length_calls_le_mixed :
    let source := "(f <- function(x) x) -> g ->> `h`\nm = n <- (\\(y) y -> z)".toList
    let calls (t : Tree) := (ofStatementWithCalls source t).2
    (parse source).children.map (fun t => ((calls t).length, (calls t).countP (isRightAssignment source))) =
        [(5, 2), (4, 0)] ∧
      ∃ t ∈ (parse source).children, (calls t).length = 5 ∧
        (calls t).length ≤ maxNesting + 1 + (calls t).countP (isRightAssignment source) := by
  intro source calls
  have hcalls : (parse source).children.map (fun t =>
      ((calls t).length, (calls t).countP (isRightAssignment source))) = [(5, 2), (4, 0)] := by decide +kernel
  obtain ⟨t, ht, hlength⟩ := List.mem_map.1 (hcalls ▸ List.mem_cons_self)
  exact ⟨hcalls, t, ht, congrArg Prod.fst hlength, (length_calls_le source).2 t ht⟩

/-! ### Right assignments -/

def nameX : Name :=
  ⟨['x'], by decide +kernel⟩

def rightArrow : BinaryOperator :=
  ⟨"->".toList, 7, 8, by decide, fun h => absurd h (by decide)⟩

/-- The tree of `x -> x -> ... -> x` with `n` arrows. -/
def rightAssignments : Nat → OperatorTree
  | 0 => .leaf nameX
  | n + 1 => .node (rightAssignments n) rightArrow (.leaf nameX)

theorem wellGrouped_rightAssignments (n : Nat) : (rightAssignments n).WellGrouped := by
  induction n with
  | zero => trivial
  | succ n ih =>
    refine ⟨fun o ho => ?_, nofun, ih, trivial⟩
    cases n with
    | zero => cases ho
    | succ n =>
      cases ho
      decide

theorem rightDepth_rightAssignments_le (n : Nat) : (rightAssignments n).rightDepth ≤ 1 := by
  induction n with
  | zero => exact Nat.zero_le _
  | succ n ih => exact Nat.max_le.2 ⟨ih, Nat.le_refl _⟩

theorem length_calls_rightAssignments (n : Nat) {rest : Text} (names : List String)
    (hsource : source = (rightAssignments n).print ++ rest) :
    (definitionsWithCalls source names ((rightAssignments n).tree 0)).2.length = n + 1 := by
  induction n generalizing rest names with
  | zero => rfl
  | succ n ih =>
    -- the last arrow as a slice of the text
    have hparts : source = (rightAssignments n).print ++ [' '] ++ "->".toList ++ (' ' :: 'x' :: rest) := by
      rw [hsource, rightAssignments, OperatorTree.print]
      simp [rightArrow, OperatorTree.print, nameX]
    have hstart : byteLength ((rightAssignments n).print ++ [' ']) =
        OperatorTree.operatorStart 0 (rightAssignments n) := by
      rw [byteLength_append, OperatorTree.operatorStart, Nat.zero_add]
      rfl
    have hoperator : source.sliceD (OperatorTree.operatorStart 0 (rightAssignments n))
        (OperatorTree.operatorStart 0 (rightAssignments n) + byteLength rightArrow.text) = "->".toList := by
      rw [sliceD, hparts, ← hstart, rightArrow, ← byteLength_append, slice?_append]
      rfl
    have hname : String.ofList (source.sliceD
        (rightArrow.lexeme (OperatorTree.operatorStart 0 (rightAssignments n))).span.start
        (rightArrow.lexeme (OperatorTree.operatorStart 0 (rightAssignments n))).span.stop) = "->" :=
      congrArg String.ofList hoperator
    rw [List.append_assoc, List.append_assoc] at hparts
    rw [rightAssignments, OperatorTree.tree, calls_rightAssignment rfl hname, List.length_cons, ih _ hparts]

theorem children_parse_rightAssignments (n : Nat) :
    (parse (rightAssignments n).print).children =
      [.node .expressionStatement ((rightAssignments n).tree 0).span [(rightAssignments n).tree 0]] := by
  obtain ⟨x, xs, hlexemes, hkind⟩ := (rightAssignments n).lexemes_eq_cons 0
  have hsource : lexemesOf (rightAssignments n).print = x :: xs := (rightAssignments n).lexemes_print.trans hlexemes
  have hdepth : (rightAssignments n).rightDepth ≤ maxNesting - 1 :=
    Nat.le_trans (rightDepth_rightAssignments_le n) (by decide)
  have hrun := @OperatorTree.expression_lexemes (byteLength (rightAssignments n).print) (maxNesting - 1) 0 0 0 .top []
    (rightAssignments n) (wellGrouped_rightAssignments n) hdepth (fun _ _ => Nat.zero_le _) (fun _ _ => by simp [Ends])
  rw [List.append_nil, hlexemes, extend_of_nil rfl] at hrun
  rw [parse_expression hsource (by simp [Lexeme.isOperator, hkind]) (by simp [hkind, Token.Kind.isCloser]) hrun]
  rfl

/-- The levels that expressions may nest bound the calls inside one another by no number. -/
theorem not_exists_length_calls_le :
    ¬∃ bound : Nat, ∀ (source : Text), ∀ t ∈ (parse source).children,
      (ofStatementWithCalls source t).2.length ≤ bound := by
  rintro ⟨bound, h⟩
  have hle := h (rightAssignments bound).print _ (children_parse_rightAssignments bound ▸ List.mem_singleton_self _)
  have hlength := length_calls_rightAssignments bound [] (List.append_nil (rightAssignments bound).print).symm
  rw [ofStatementWithCalls, hlength] at hle
  omega

end RSource.Signature
