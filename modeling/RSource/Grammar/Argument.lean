import RSource.Grammar.Reader

/-! # Argument lists

The arguments of a call or an index stand in slots between commas. A slot before a comma that holds
nothing is an argument without a value; what follows an argument up to the next comma is an error
inside it. Line breaks mean nothing here. -/

namespace RSource.Grammar

variable (eof : Nat) (sub : Reader)

def argument (s : Cursor) : Option (Tree × Cursor) :=
  let positional := (sub.run argumentPower .bracket s).map fun (value, s') =>
    (Tree.node (.argument false) value.span [value], s')
  match s.rest with
  | x :: equals :: rest =>
    if x.canName && equals.isOperator "=" then
      let name := x.leaf (if x.kind = .identifier then .identifier else .literal)
      let (value, s') := optional sub argumentPower .bracket ⟨rest, equals.span.stop⟩
      some (.node (.argument true) ⟨x.span.start, lastStopD value equals.span.stop⟩
        (name :: value), s')
    else positional
  | _ => positional

def endsSlot (closer : Token.Kind) (x : Lexeme) : Bool :=
  x.kind == .comma || x.kind == closer

/-- One slot of an argument list: nothing, or an argument that takes what follows it up to the
next comma or closer as an error. -/
def slot (closer : Token.Kind) (s : Cursor) : Option Tree × Cursor :=
  match s.rest with
  | [] => (none, s)
  | x :: xs =>
    if endsSlot closer x then (none, s)
    else
      match argument sub s with
      | none =>
        let (e, s') := skip eof (endsSlot closer) x xs
        (some (.node (.argument false) e.span [e]), s')
      | some (a, s') =>
        match s'.rest with
        | [] => (some a, s')
        | y :: ys =>
          if endsSlot closer y then (some a, s')
          else
            let (e, s'') := skip eof (endsSlot closer) y ys
            (some (a.adopt e), s'')

theorem remaining_argument_le {s s' : Cursor} {t : Tree} (h : argument sub s = some (t, s')) :
    s'.remaining ≤ s.remaining := by
  have hp : ∀ {t s'}, ((sub.run argumentPower .bracket s).map fun (value, s') =>
      (Tree.node (.argument false) value.span [value], s')) = some (t, s') →
      s'.remaining ≤ s.remaining := by
    intro t s' h
    obtain ⟨⟨v, s''⟩, hr, he⟩ := Option.map_eq_some_iff.1 h
    simp only [Prod.mk.injEq] at he
    exact he.2 ▸ Nat.le_of_lt (sub.shorter hr)
  unfold argument at h
  split at h
  · rename_i x equals rest hs
    split at h
    · simp only [Option.some.injEq, Prod.mk.injEq] at h
      obtain ⟨-, rfl⟩ := h
      refine Nat.le_trans (remaining_optional_le ..) ?_
      simp [Cursor.remaining, hs]
      omega
    · exact hp h
  · exact hp h

theorem remaining_slot_le (closer : Token.Kind) (s : Cursor) :
    (slot eof sub closer s).2.remaining ≤ s.remaining := by
  unfold slot
  split
  · exact Nat.le_refl _
  · rename_i x xs hs
    split
    · exact Nat.le_refl _
    · split
      · refine Nat.le_trans (remaining_skip_le eof (endsSlot closer) x xs) ?_
        simp [Cursor.remaining, hs]
      · rename_i a s' ha
        have hle := remaining_argument_le sub ha
        split
        · exact hle
        · rename_i y ys hy
          split
          · exact hle
          · refine Nat.le_trans (remaining_skip_le eof (endsSlot closer) y ys) ?_
            simp only [Cursor.remaining, hy, List.length_cons] at hle
            simp only [Cursor.remaining]
            omega

structure Slots where
  arguments : List Tree
  separators : List Nat
  closed : Bool

/-- The slots up to and including `closer`. `start` is the offset where the first slot starts; an
empty slot before a comma is an argument without a value. -/
def slots (closer : Token.Kind) (start : Nat) (s : Cursor) : Slots × Cursor :=
  let r := slot eof sub closer s
  match hr : r.2.rest with
  | [] => (⟨r.1.toList, [], false⟩, r.2)
  | x :: xs =>
    if x.kind = closer then (⟨r.1.toList, [], true⟩, ⟨xs, x.span.stop⟩)
    else
      have : xs.length < s.remaining := by
        have h := remaining_slot_le eof sub closer s
        simp only [Cursor.remaining] at h
        rw [show (slot eof sub closer s).2.rest = x :: xs from hr] at h
        exact h
      let (more, s') := slots closer x.span.stop ⟨xs, x.span.stop⟩
      let first := r.1.getD (.leaf (.argument false) ⟨start, x.span.start⟩)
      (⟨first :: more.arguments, x.span.start :: more.separators, more.closed⟩, s')
termination_by s.remaining

theorem remaining_slots_le (closer : Token.Kind) (start : Nat) (s : Cursor) :
    (slots eof sub closer start s).2.remaining ≤ s.remaining := by
  fun_induction slots eof sub closer start s with
  | case1 start s r hr => exact remaining_slot_le ..
  | case2 start s r x xs hr hx =>
    have h : r.2.remaining ≤ s.remaining := remaining_slot_le ..
    simp only [Cursor.remaining, hr, List.length_cons] at h ⊢
    omega
  | case3 start s r x xs hr hx hlt more s' hm first ih =>
    simp only [hm] at ih
    simp only [Cursor.remaining] at *
    omega

def argumentList (closer : Token.Kind) (opener : Lexeme) (s : Cursor) : Tree × Cursor :=
  let (c, s') := slots eof sub closer opener.span.stop s
  (.node (.argumentList c.closed c.separators)
    ⟨opener.span.start, if c.closed then s'.lastStop else eof⟩ c.arguments, s')

theorem remaining_argumentList_le (closer : Token.Kind) (opener : Lexeme) (s : Cursor) :
    (argumentList eof sub closer opener s).2.remaining ≤ s.remaining :=
  remaining_slots_le ..

def isClosedList (t : Tree) : Bool :=
  match t.kind with
  | .argumentList closed _ => closed
  | _ => false

/-- The index expression `object[...]` or `object[[...]]` behind its first bracket. Two brackets
are a double one only when they touch. -/
def index (object : Tree) (opener : Lexeme) (s : Cursor) : Tree × Cursor :=
  let inner := s.rest.head?.filter fun y =>
    y.kind == .openBracket && y.span.start == opener.span.stop
  let (list, s') :=
    match inner with
    | some y => argumentList eof sub .closeBracket y s.advance
    | none => argumentList eof sub .closeBracket opener s
  let closed := isClosedList list
  let paired := inner.isSome && closed && s'.rest.head?.any fun y =>
    y.kind == .closeBracket && y.span.start == s'.lastStop
  let s'' := if paired then s'.advance else s'
  (.node (.index inner.isSome)
    ⟨object.span.start, if closed then s''.lastStop else eof⟩ [object, list], s'')

theorem remaining_index_le (object : Tree) (opener : Lexeme) (s : Cursor) :
    (index eof sub object opener s).2.remaining ≤ s.remaining := by
  unfold index
  have key : ∀ r : Tree × Cursor, r.2.remaining ≤ s.remaining → ∀ b : Bool,
      (if b then r.2.advance else r.2).remaining ≤ s.remaining := by
    intro r hr b
    cases b
    · simpa using hr
    · exact Nat.le_trans r.2.remaining_advance_le hr
  dsimp only
  split
  · exact key _ (Nat.le_trans (remaining_argumentList_le ..) s.remaining_advance_le) _
  · exact key _ (remaining_argumentList_le ..) _

end RSource.Grammar
