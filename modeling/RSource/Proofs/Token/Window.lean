import Mathlib.Algebra.Group.Nat.Defs
import RSource.Proofs.Text.Slice
import RSource.Proofs.Token.Stream

/-!
# A lexer in use

A lexer over a window of a text is asked for the next token or restarted, in any order. A `Trace` is a
lexer together with the offset from which it was started last and the tokens it has handed out since.
Whatever is asked, these tokens and those that are still to come make up the tokens of the window's text
from there on (`Trace.Sound.act`, `Trace.Sound.after`), so nothing outside the window has a part in them,
and position and depth can be read off the tokens handed out (`after_trace`).
-/

namespace RSource.Text

variable {u v : Text} {m n : Nat}

theorem isBoundary_append_iff (h : m ≤ byteLength u) : (u ++ v).IsBoundary m ↔ u.IsBoundary m := by
  constructor
  · rintro ⟨a, b, hab, rfl⟩
    rcases List.append_eq_append_iff.1 hab with ⟨w, rfl, rfl⟩ | ⟨w, rfl, rfl⟩
    · rw [byteLength_append] at h
      obtain rfl := eq_nil_of_byteLength (t := w) (by omega)
      exact ⟨u, [], by simp, by simp⟩
    · exact ⟨a, w, rfl, rfl⟩
  · rintro ⟨a, b, rfl, rfl⟩
    exact ⟨a, b ++ v, by simp, rfl⟩

/-- An offset is moved down to a boundary of a beginning of the text as it is in the text, once it is
clamped to that beginning. -/
theorem floorBoundary_of_append (u v : Text) (n : Nat) :
    u.floorBoundary n = (u ++ v).floorBoundary (min n u.byteLength) := by
  have hle := floorBoundary_le (u ++ v) (min n u.byteLength)
  refine Nat.le_antisymm ?_ ?_
  · have hu := floorBoundary_le_byteLength u n
    refine ((isBoundary_append_iff hu).2 (isBoundary_floorBoundary u n)).le_floorBoundary ?_
    exact Nat.le_min.2 ⟨floorBoundary_le u n, hu⟩
  · have hb := isBoundary_floorBoundary (u ++ v) (min n u.byteLength)
    rw [isBoundary_append_iff (by omega)] at hb
    exact hb.le_floorBoundary (by omega)

end RSource.Text

namespace RSource.Token
open Text

/-- The tokens of a text end and start between its characters. -/
theorem isBoundary_of_mem_tokensFrom {pos : Nat} {t u v : Text} {x : Token}
    (h : x ∈ tokensFrom pos t) (hpos : pos = byteLength u) :
    (u ++ t ++ v).IsBoundary x.start ∧ (u ++ t ++ v).IsBoundary x.stop := by
  fun_induction tokensFrom pos t generalizing u with
  | case1 => simp at h
  | case2 pos c cs ih =>
    have hsplit : u ++ c :: cs = u ++ c :: cs.take (scan c cs).2 ++ cs.drop (scan c cs).2 := by
      rw [List.append_assoc, List.cons_append, List.take_append_drop]
    have hstop : (first pos c cs).stop = byteLength (u ++ c :: cs.take (scan c cs).2) := by
      rw [byteLength_append, ← hpos]
      rfl
    rcases List.mem_cons.1 h with rfl | h
    · refine ⟨⟨u, c :: cs ++ v, by simp, hpos.symm⟩, ?_⟩
      rw [hsplit, hstop]
      exact ⟨_, cs.drop (scan c cs).2 ++ v, by rw [List.append_assoc], rfl⟩
    · rw [hsplit]
      exact ih h hstop

namespace Lexer

variable {l l' : Lexer} {t : Token}

/-! ### One token -/

/-- What is handed out starts at the position, and the lexer then stands behind it. -/
theorem next_some (h : l.next = (some t, l')) :
    l'.pos = t.stop ∧ l'.depth = l.depth + t.kind.depthChange ∧ l'.window = l.window := by
  unfold next at h
  split at h
  · cases h
  · split at h <;> cases h
    · exact ⟨rfl, (Int32.add_zero _).symm, rfl⟩
    · exact ⟨rfl, rfl, rfl⟩

theorem next_none (h : l.next = (none, l')) : l' = l := by
  unfold next at h
  split at h
  · cases h
    rfl
  · split at h <;> cases h

/-- The next token comes first of all that are left. -/
theorem drain_eq_next (l : Lexer) : l.drain.1 = l.next.1.toList ++ l.next.2.drain.1 := by
  rw [drain]
  split
  · rename_i l' hn
    rw [hn]
    obtain rfl := next_none hn
    rw [drain]
    split
    · rfl
    · rename_i hn'
      rw [hn] at hn'
      cases hn'
  · rename_i t l' hn
    have hfst : l.next.1 = some t := congrArg Prod.fst hn
    have hsnd : l.next.2 = l' := congrArg Prod.snd hn
    rw [hfst, hsnd]
    rfl

theorem finished_drain (l : Lexer) : l.drain.2.finished = true := by
  fun_induction drain l with
  | case1 l l' hn =>
    obtain rfl := next_none hn
    by_contra hf
    rw [next, if_neg hf] at hn
    split at hn <;> cases hn
  | case2 l t l' hn _ ts last hd ih =>
    rw [hd] at ih
    exact ih

/-! ### Depth -/

/-- The number of openers less the number of closers. -/
def balance (ts : List Token) : Int :=
  (ts.countP fun t => t.kind.isOpener : Int) - ts.countP fun t => t.kind.isCloser

theorem ofInt_balance_concat (ts : List Token) (t : Token) :
    Int32.ofInt (balance (ts ++ [t])) = Int32.ofInt (balance ts) + t.kind.depthChange := by
  have hchange : t.kind.depthChange =
      Int32.ofInt ((if t.kind.isOpener then 1 else 0) - if t.kind.isCloser then 1 else 0) := by
    cases t.kind <;> rfl
  have hbalance : balance (ts ++ [t]) =
      balance ts + ((if t.kind.isOpener then 1 else 0) - if t.kind.isCloser then 1 else 0) := by
    simp only [balance, List.countP_append, List.countP_singleton]
    split <;> split <;> push_cast <;> omega
  rw [hbalance, Int32.ofInt_add, hchange]

/-- A count that is short of `2 ^ 31` tokens fits. -/
theorem toInt_ofInt_balance {ts : List Token} (h : ts.length < 2 ^ 31) :
    (Int32.ofInt (balance ts)).toInt = balance ts := by
  have hopeners := ts.countP_le_length (p := fun t => t.kind.isOpener)
  have hclosers := ts.countP_le_length (p := fun t => t.kind.isCloser)
  refine Int32.toInt_ofInt_of_le ?_ ?_ <;> simp only [balance] <;> omega

/-! ### Traces -/

inductive Call where
  | next
  | restart (offset : Nat)

/-- A lexer, the offset from which it was started last, and the tokens it has handed out since. -/
structure Trace where
  lexer : Lexer
  origin : Nat
  handed : List Token := []

namespace Trace

/-- A lexer that has not been asked for anything. -/
def new (text : Text) (start length : Nat) : Trace :=
  ⟨.new text start length, start, []⟩

def act (u : Trace) : Call → Trace
  | .next => { u with lexer := u.lexer.next.2, handed := u.handed ++ u.lexer.next.1.toList }
  | .restart offset => ⟨u.lexer.restart offset, offset, []⟩

def after (u : Trace) (calls : List Call) : Trace :=
  calls.foldl act u

/-- The tokens handed out and those to come are those of the window from the origin on, and position and
depth are as the tokens handed out leave them. -/
structure Sound (window : Text) (u : Trace) : Prop where
  window_eq : u.lexer.window = window
  tokens : u.handed ++ u.lexer.drain.1 =
    tokensFrom (window.floorBoundary u.origin) (window.dropBytes u.origin) ++ [eos window.byteLength]
  pos_eq : u.lexer.pos = (u.handed.getLast?.map Token.stop).getD (window.floorBoundary u.origin)
  depth_eq : u.lexer.depth = Int32.ofInt (balance u.handed)

variable {window : Text} {u : Trace}

theorem Sound.of_start (window : Text) (offset : Nat) :
    Sound window ⟨⟨window, window.dropBytes offset, window.floorBoundary offset, 0, false⟩, offset, []⟩ := by
  have hlen := congrArg byteLength (takeBytes_append_dropBytes offset window)
  rw [byteLength_append] at hlen
  refine ⟨rfl, ?_, rfl, rfl⟩
  rw [List.nil_append, drain_eq _ rfl, ← hlen]
  rfl

theorem Sound.act (h : u.Sound window) (call : Call) : (u.act call).Sound window := by
  cases call with
  | restart offset =>
    have hs := Sound.of_start window offset
    rw [← h.window_eq] at hs ⊢
    exact hs
  | next =>
    have htokens : (u.act .next).handed ++ (u.act .next).lexer.drain.1 = u.handed ++ u.lexer.drain.1 := by
      rw [drain_eq_next u.lexer, ← List.append_assoc]
      rfl
    rcases hn : u.lexer.next with ⟨_ | t, l'⟩
    · -- nothing is left, and nothing changes
      obtain rfl := next_none hn
      have hu : u.act .next = u := by
        simp only [Trace.act, hn, Option.toList_none, List.append_nil]
      rw [hu]
      exact h
    · obtain ⟨hpos, hdepth, hwindow⟩ := next_some hn
      refine ⟨?_, htokens.trans h.tokens, ?_, ?_⟩ <;> simp only [Trace.act, hn, Option.toList_some]
      · exact hwindow.trans h.window_eq
      · rw [List.getLast?_concat]
        exact hpos
      · rw [hdepth, h.depth_eq, ofInt_balance_concat]

theorem Sound.after (h : u.Sound window) (calls : List Call) : (u.after calls).Sound window := by
  induction calls generalizing u with
  | nil => exact h
  | cons call calls ih => exact ih (h.act call)

/-- A lexer over a window that ends at `stop` has been asked for tokens and restarted in any way. With
`p` for the place of its last start, the tokens it has handed out since begin the tokens of the text from
`p` to `stop`. Run to exhaustion it hands out exactly these: tokens that are not empty and follow one
another without a gap from `p` to `stop` at character boundaries, one empty end of stream, and then
nothing. Position and depth are at every moment those of the tokens handed out. The depth is a 32-bit
number: it is the number of openers less the number of closers as such a number, and no other one as long
as fewer than `2 ^ 31` tokens were handed out. -/
theorem after_trace (text : Text) (start length : Nat) (calls : List Call) :
    let u := (new text start length).after calls
    let stop := text.floorBoundary (min (start + length) text.byteLength)
    let p := text.floorBoundary (min u.origin stop)
    ∃ part, text.slice? p stop = some part ∧
      u.handed <+: (tokenizeAll part).map (·.shift p) ∧
      u.handed ++ u.lexer.drain.1 = (tokenizeAll part).map (·.shift p) ∧
      (∃ body, (tokenizeAll part).map (·.shift p) = body ++ [eos stop] ∧ Covers p body stop ∧
        ∀ t ∈ body, t.kind ≠ .endOfStream ∧ text.IsBoundary t.start ∧ text.IsBoundary t.stop) ∧
      u.lexer.drain.2.next = (none, u.lexer.drain.2) ∧
      u.lexer.pos = (u.handed.getLast?.map Token.stop).getD p ∧
      u.lexer.depth = Int32.ofInt
        ((u.handed.countP fun t => t.kind.isOpener : Int) - u.handed.countP fun t => t.kind.isCloser) ∧
      (u.handed.length < 2 ^ 31 → u.lexer.depth.toInt =
        (u.handed.countP fun t => t.kind.isOpener : Int) - u.handed.countP fun t => t.kind.isCloser) := by
  intro u stop p
  set window := text.takeBytes (start + length) with hwindow
  have hs : u.Sound window := Sound.after (Sound.of_start window start) calls
  -- the text is what stands before the place of the last start, the part, and what is behind the window
  obtain ⟨a, part, v, htext, ha, hpart, hstop⟩ : ∃ a part v, text = a ++ part ++ v ∧
      a = window.takeBytes u.origin ∧ part = window.dropBytes u.origin ∧ stop = byteLength (a ++ part) := by
    refine ⟨_, _, text.dropBytes (start + length), ?_, rfl, rfl, ?_⟩
    · rw [takeBytes_append_dropBytes, takeBytes_append_dropBytes]
    · rw [takeBytes_append_dropBytes]
      exact floorBoundary_min text (start + length)
  have hwin : window = a ++ part := by rw [ha, hpart, takeBytes_append_dropBytes]
  have hp : p = window.floorBoundary u.origin := by
    rw [floorBoundary_of_append window v, hwin, ← htext, ← hstop]
  have hpa : p = byteLength a := by rw [hp, ha, floorBoundary]
  have hall : (tokenizeAll part).map (·.shift p) = tokensFrom p part ++ [eos stop] := by
    rw [map_shift_tokenizeAll, hpa, hstop, byteLength_append]
  have htokens : u.handed ++ u.lexer.drain.1 = (tokenizeAll part).map (·.shift p) := by
    rw [hs.tokens, hall, ← hpart, ← hp, hwin, hstop]
  refine ⟨part, ?_, ⟨_, htokens⟩, htokens, ⟨_, hall, ?_, fun t ht => ?_⟩, ?_, ?_, hs.depth_eq, fun hlt => ?_⟩
  · rw [htext, hpa, hstop]
    exact slice?_append a part v
  · have hcovers := covers_tokensFrom p part
    rwa [hpa, ← byteLength_append, ← hstop, ← hpa] at hcovers
  · rw [htext]
    exact ⟨kind_ne_endOfStream_of_mem ht, isBoundary_of_mem_tokensFrom ht hpa⟩
  · rw [next, if_pos (finished_drain u.lexer)]
  · rw [hs.pos_eq, hp]
  · rw [hs.depth_eq]
    exact toInt_ofInt_balance hlt

end Trace

end Lexer

end RSource.Token
