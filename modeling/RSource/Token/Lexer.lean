import RSource.Token.Scan

/-! # Lexing a window of a text

A lexer stands at an offset of a window of a text and hands out the tokens of the window one by
one, then one empty end-of-stream token. It counts the brackets it has passed; the count is not
checked and goes below zero on stray closers. It is a 32-bit number, exact as long as fewer than
`2 ^ 31` tokens were handed out. Lexing can be restarted at any offset up to the window's end. -/

namespace RSource.Token

/-- A lexer. `window` is the text up to the window's end, `rest` what is left of it, and `pos` the
offset of `rest`. -/
structure Lexer where
  window : Text
  rest : Text
  pos : Nat
  depth : Int32 := 0
  finished : Bool := false

namespace Lexer

/-- The lexer for the `length` bytes of `text` from `start`. Offsets outside the text or inside a
character are moved down to a boundary of the text. -/
def new (text : Text) (start length : Nat) : Lexer :=
  let window := text.takeBytes (start + length)
  { window, rest := window.dropBytes start, pos := window.floorBoundary start }

def restart (l : Lexer) (offset : Nat) : Lexer :=
  { window := l.window, rest := l.window.dropBytes offset, pos := l.window.floorBoundary offset }

def next (l : Lexer) : Option Token × Lexer :=
  if l.finished then (none, l)
  else
    match l.rest with
    | [] => (some (eos l.pos), { l with finished := true })
    | c :: cs =>
      let (kind, n) := scan c cs
      let length := Text.byteLength (c :: cs.take n)
      (some ⟨kind, l.pos, length⟩,
        { l with
          rest := cs.drop n
          pos := l.pos + length
          depth := l.depth + kind.depthChange })

def remaining (l : Lexer) : Nat :=
  l.rest.length + if l.finished then 0 else 1

theorem remaining_next_lt {l l' : Lexer} {t : Token} (h : l.next = (some t, l')) :
    l'.remaining < l.remaining := by
  unfold next at h
  split at h
  · simp at h
  · rename_i hf
    split at h <;> simp only [Prod.mk.injEq, Option.some.injEq] at h <;> obtain ⟨-, rfl⟩ := h
    · rename_i hr
      simp only [remaining, hr, hf, if_true, List.length_nil]
      exact Nat.lt_succ_self 0
    · rename_i c cs hr
      simp only [remaining, hr, List.length_drop, List.length_cons]
      omega

def drain (l : Lexer) : List Token × Lexer :=
  match h : l.next with
  | (none, l') => ([], l')
  | (some t, l') =>
    have := remaining_next_lt h
    let (ts, last) := drain l'
    (t :: ts, last)
termination_by l.remaining

end Lexer

def tokenize (text : Text) (start length : Nat) : List Token :=
  (Lexer.new text start length).drain.1

def tokenizeAll (text : Text) : List Token :=
  tokenize text 0 text.byteLength

end RSource.Token
