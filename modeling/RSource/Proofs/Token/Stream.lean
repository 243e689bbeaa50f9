import Mathlib.Data.List.Chain
import RSource.Proofs.Text.Encoding
import RSource.Token.Relex

/-!
# The token stream as a recursion over the text

`tokensFrom pos rest` are the tokens of the text `rest` when it stands at offset `pos`, without the
end of stream. Nothing but the text that is left decides the next token, so this one recursion says
all about `tokenizeAll` (`tokenizeAll_eq`): the stream can be cut between any two tokens
(`tokensFrom_split`), and moving the text moves the tokens (`map_shift_tokensFrom`).

`Covers p ts q` says that the tokens `ts` follow one another without a gap from `p` to `q`.
-/

namespace RSource.Token
open Text

variable {p q pos : Nat} {t : Text} {xs ys ts : List Token}

/-- The first token of `c :: cs`, which stands at offset `pos`. -/
def first (pos : Nat) (c : Char) (cs : Text) : Token :=
  ⟨(scan c cs).1, pos, byteLength (c :: cs.take (scan c cs).2)⟩

/-- The tokens of `rest`, which stands at offset `pos`, without the end of stream. -/
def tokensFrom (pos : Nat) : Text → List Token
  | [] => []
  | c :: cs => first pos c cs :: tokensFrom (first pos c cs).stop (cs.drop (scan c cs).2)
termination_by rest => rest.length
decreasing_by simp only [List.length_drop, List.length_cons]; omega

@[simp] theorem tokensFrom_nil (pos : Nat) : tokensFrom pos [] = [] := by rw [tokensFrom]

theorem tokensFrom_cons (pos : Nat) (c : Char) (cs : Text) :
    tokensFrom pos (c :: cs) =
      first pos c cs :: tokensFrom (first pos c cs).stop (cs.drop (scan c cs).2) := by
  rw [tokensFrom]

theorem eq_nil_of_tokensFrom (h : tokensFrom pos t = []) : t = [] := by
  cases t with
  | nil => rfl
  | cons c cs =>
    rw [tokensFrom_cons] at h
    cases h

/-- The first token and what is left make up the text. -/
theorem stop_first_add (pos : Nat) (c : Char) (cs : Text) :
    (first pos c cs).stop + byteLength (cs.drop (scan c cs).2) = pos + byteLength (c :: cs) := by
  show pos + byteLength (c :: cs.take _) + _ = _
  rw [Nat.add_assoc, ← byteLength_append, List.cons_append, List.take_append_drop]

/-! ### The lexer -/

theorem Lexer.drain_of_finished {l : Lexer} (h : l.finished = true) : l.drain = ([], l) := by
  have hn : l.next = (none, l) := by rw [next, if_pos h]
  rw [drain]
  split <;> rename_i h' <;> rw [hn] at h' <;> cases h'
  rfl

theorem Lexer.drain_eq (l : Lexer) (h : l.finished = false) :
    l.drain.1 = tokensFrom l.pos l.rest ++ [eos (l.pos + byteLength l.rest)] := by
  fun_induction Lexer.drain l with
  | case1 l l' hn =>
    unfold next at hn
    rw [if_neg (by simp [h])] at hn
    split at hn <;> simp at hn
  | case2 l t l' hn hlt ts last hd ih =>
    rw [hd] at ih
    unfold next at hn
    rw [if_neg (by simp [h])] at hn
    split at hn
    · rename_i hr
      simp only [Prod.mk.injEq, Option.some.injEq] at hn
      obtain ⟨rfl, rfl⟩ := hn
      obtain ⟨rfl, -⟩ := Prod.mk.inj (hd.symm.trans (drain_of_finished rfl))
      simp [hr]
    · rename_i c cs hr
      simp only [Prod.mk.injEq, Option.some.injEq] at hn
      obtain ⟨rfl, rfl⟩ := hn
      have hts : ts = tokensFrom (first l.pos c cs).stop (cs.drop (scan c cs).2) ++
          [eos ((first l.pos c cs).stop + byteLength (cs.drop (scan c cs).2))] := ih h
      rw [hr, tokensFrom_cons, List.cons_append, ← stop_first_add, ← hts]
      rfl

/-- The tokens of a text, with the end of stream at its end. -/
theorem tokenizeAll_eq (t : Text) : tokenizeAll t = tokensFrom 0 t ++ [eos t.byteLength] := by
  have hw : t.takeBytes t.byteLength = t := by simpa using takeBytes_append t []
  have hd : t.dropBytes 0 = t := by simpa using dropBytes_append [] t
  have hf : t.floorBoundary 0 = 0 := Nat.le_zero.1 (floorBoundary_le t 0)
  rw [tokenizeAll, tokenize, Lexer.drain_eq _ rfl]
  simp only [Lexer.new, Nat.zero_add, hw, hd, hf]

/-! ### Tokens without gaps -/

/-- The tokens are not empty and follow one another without a gap from `p` to `q`. -/
def Covers (p : Nat) : List Token → Nat → Prop
  | [], q => p = q
  | t :: ts, q => t.start = p ∧ 0 < t.length ∧ Covers t.stop ts q

theorem covers_tokensFrom (pos : Nat) (t : Text) :
    Covers pos (tokensFrom pos t) (pos + byteLength t) := by
  fun_induction tokensFrom pos t with
  | case1 => rfl
  | case2 pos c cs ih => exact ⟨rfl, byteLength_pos .., stop_first_add pos c cs ▸ ih⟩

theorem covers_append : Covers p (xs ++ ys) q ↔ ∃ m, Covers p xs m ∧ Covers m ys q := by
  induction xs generalizing p with
  | nil =>
    constructor
    · intro h; exact ⟨p, rfl, h⟩
    · rintro ⟨m, rfl, h⟩; exact h
  | cons t ts ih =>
    constructor
    · rintro ⟨hs, hl, h⟩
      obtain ⟨m, h1, h2⟩ := ih.1 h
      exact ⟨m, ⟨hs, hl, h1⟩, h2⟩
    · rintro ⟨m, ⟨hs, hl, h1⟩, h2⟩
      exact ⟨hs, hl, ih.2 ⟨m, h1, h2⟩⟩

theorem coveredLength_of_covers (h : Covers 0 ts q) : coveredLength ts = q := by
  rcases List.eq_nil_or_concat ts with rfl | ⟨xs, t, rfl⟩
  · exact h
  · rw [List.concat_eq_append] at h ⊢
    obtain ⟨m, -, -, -, rfl⟩ := covers_append.1 h
    simp [coveredLength]

theorem Covers.length_pos {x : Token} (h : Covers p ts q) (hx : x ∈ ts) : 0 < x.length := by
  induction ts generalizing p with
  | nil => cases hx
  | cons t ts ih =>
    rcases List.mem_cons.1 hx with rfl | hx
    · exact h.2.1
    · exact ih h.2.2 hx

theorem Covers.stop_le (h : Covers p ts q) : ∀ t ∈ ts, t.stop ≤ q := by
  induction ts generalizing p with
  | nil => nofun
  | cons t ts ih =>
    obtain ⟨-, -, hts⟩ := h
    have hle : t.stop ≤ q := by
      cases ts with
      | nil => exact Nat.le_of_eq hts
      | cons u us =>
        have hu := ih hts u List.mem_cons_self
        have hstart : u.start = t.stop := hts.1
        have hstop : u.start ≤ u.stop := Nat.le_add_right ..
        omega
    exact List.forall_mem_cons.2 ⟨hle, ih hts⟩

theorem Covers.eq_nil (h : Covers p ts p) : ts = [] := by
  cases ts with
  | nil => rfl
  | cons t ts =>
    have hle := h.stop_le t List.mem_cons_self
    obtain ⟨hstart, hpos, -⟩ := h
    have hstop : t.stop = t.start + t.length := rfl
    omega

/-- Tokens without gaps, and the end of stream behind them, follow one another. -/
theorem isChain_of_covers (h : Covers p ts q) :
    (ts ++ [eos q]).IsChain fun t u => t.stop ≤ u.start := by
  induction ts generalizing p with
  | nil => exact .singleton _
  | cons t ts ih =>
    obtain ⟨-, -, h⟩ := h
    refine List.isChain_cons.2 ⟨fun u hu => ?_, ih h⟩
    cases ts with
    | nil =>
      obtain rfl : eos q = u := Option.some.inj hu
      exact Nat.le_of_eq h
    | cons v ts =>
      obtain rfl : v = u := Option.some.inj hu
      exact Nat.le_of_eq h.1.symm

theorem isChain_tokenizeAll (t : Text) : (tokenizeAll t).IsChain fun t u => t.stop ≤ u.start := by
  have h := covers_tokensFrom 0 t
  rw [Nat.zero_add] at h
  rw [tokenizeAll_eq]
  exact isChain_of_covers h

/-! ### The end of stream -/

theorem length_pos_of_mem {t : Text} {x : Token} (h : x ∈ tokenizeAll t) (hx : x.kind ≠ .endOfStream) :
    0 < x.length := by
  rw [tokenizeAll_eq, List.mem_append, List.mem_singleton] at h
  rcases h with h | rfl
  · exact (covers_tokensFrom 0 t).length_pos h
  · exact absurd rfl hx

theorem scan_fst_ne_endOfStream (c : Char) (cs : Text) : (scan c cs).1 ≠ .endOfStream := by
  fun_cases scan c cs <;> simp_all
  unfold nameKind
  split <;> simp

theorem kind_ne_endOfStream_of_mem {x : Token} (h : x ∈ tokensFrom pos t) :
    x.kind ≠ .endOfStream := by
  fun_induction tokensFrom pos t with
  | case1 => simp at h
  | case2 pos c cs ih =>
    rcases List.mem_cons.1 h with rfl | h
    · exact scan_fst_ne_endOfStream c cs
    · exact ih h

theorem withoutEos_tokensFrom (pos : Nat) (t : Text) :
    withoutEos (tokensFrom pos t) = tokensFrom pos t := by
  unfold withoutEos
  split
  · rename_i x hx
    rw [if_neg (kind_ne_endOfStream_of_mem (List.mem_of_getLast? hx))]
  · rfl

theorem withoutEos_tokenizeAll (t : Text) : withoutEos (tokenizeAll t) = tokensFrom 0 t := by
  rw [tokenizeAll_eq, withoutEos, List.getLast?_concat]
  simp [eos]

/-! ### Cutting and moving the stream -/

/-- A cut between two tokens is a cut of the text. -/
theorem tokensFrom_split (h : tokensFrom pos t = xs ++ ys) :
    ∃ u v, t = u ++ v ∧ Covers pos xs (pos + byteLength u) ∧
      ys = tokensFrom (pos + byteLength u) v := by
  induction xs generalizing pos t with
  | nil => exact ⟨[], t, rfl, rfl, h.symm⟩
  | cons x xs ih =>
    cases t with
    | nil => simp at h
    | cons c cs =>
      rw [tokensFrom_cons, List.cons_append] at h
      obtain ⟨rfl, hr⟩ := List.cons.inj h
      obtain ⟨u, v, hcs, hu, rfl⟩ := ih hr
      have hpos : (first pos c cs).stop + byteLength u =
          pos + byteLength (c :: cs.take (scan c cs).2 ++ u) := by
        rw [byteLength_append, ← Nat.add_assoc]; rfl
      rw [hpos] at hu ⊢
      refine ⟨c :: cs.take (scan c cs).2 ++ u, v, ?_, ⟨rfl, byteLength_pos .., hu⟩, rfl⟩
      rw [List.append_assoc, ← hcs, List.cons_append, List.take_append_drop]

theorem shift_first (pos : Nat) (d : Int) (q : Nat) (h : (pos : Int) + d = q) (c : Char) (cs : Text) :
    (first pos c cs).shift d = first q c cs := by
  show Token.mk _ (((pos : Nat) : Int) + d).toNat _ = _
  rw [h]; rfl

theorem map_shift_tokensFrom {d : Int} (h : (pos : Int) + d = q) :
    (tokensFrom pos t).map (·.shift d) = tokensFrom q t := by
  fun_induction tokensFrom pos t generalizing q with
  | case1 => simp
  | case2 pos c cs ih =>
    have hq : ((first pos c cs).stop : Int) + d = (first q c cs).stop := by
      show ((pos + byteLength _ : Nat) : Int) + d = ((q + byteLength _ : Nat) : Int)
      omega
    rw [tokensFrom_cons, List.map_cons, shift_first pos d q h, ih hq]

/-- Moving a text moves all its tokens, the end of stream with them. -/
theorem map_shift_tokenizeAll (t : Text) (p : Nat) :
    (tokenizeAll t).map (·.shift p) = tokensFrom p t ++ [eos (p + byteLength t)] := by
  rw [tokenizeAll_eq, List.map_append, map_shift_tokensFrom (q := p) (by omega)]
  have heos : (eos t.byteLength).shift p = eos (p + byteLength t) := by
    simp only [shift, eos]
    congr 1
    omega
  simp [heos]

end RSource.Token
