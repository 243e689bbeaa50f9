import RSource.Proofs.Grammar.Step
import RSource.Proofs.Text.Slice
import RSource.Proofs.Token.LineEnd
import RSource.Proofs.Tree.Relocate

/-!
# The lexemes of two texts with a line break and a `;` between them

If the line break is a token, the lexemes are those of the first text, the `;`, and those of the second text
at their new offsets (`lexemes_append`).
-/

namespace RSource

namespace Grammar
open Text Token

def Lexeme.relocate (f : Nat → Nat) (x : Lexeme) : Lexeme :=
  { x with span := x.span.relocate f }

@[simp] theorem Lexeme.kind_relocate (f : Nat → Nat) (x : Lexeme) : (x.relocate f).kind = x.kind := rfl

@[simp] theorem Lexeme.text_relocate (f : Nat → Nat) (x : Lexeme) : (x.relocate f).text = x.text := rfl

variable {source source' : Text} {total total' : Nat} {ts : List Token}

/-- Tokens with the same kinds and texts at other offsets. -/
theorem lexemesFrom_map {f : Nat → Nat} (move : Token → Token)
    (h : ∀ t ∈ ts, (move t).kind = t.kind ∧ (move t).span = t.span.relocate f ∧
      (move t).text source' = t.text source ∧ (total' < (move t).stop ↔ total < t.stop))
    (newline : Bool) :
    lexemesFrom source' total' newline (ts.map move) =
      (lexemesFrom source total newline ts).map (·.relocate f) := by
  induction ts generalizing newline with
  | nil => rfl
  | cons t ts ih =>
    obtain ⟨⟨hkind, hspan, htext, hstop⟩, hts⟩ := List.forall_mem_cons.1 h
    rw [List.map_cons, lexemesFrom, lexemesFrom, hkind, htext, hspan, ih hts, ih hts]
    by_cases hout : total < t.stop
    · rw [if_pos (hstop.2 hout), if_pos hout, List.map_nil]
    · rw [if_neg (fun hlt => hout (hstop.1 hlt)), if_neg hout]
      split <;> rfl

/-- The lexemes of tokens that lie in the text, and of those behind them. -/
theorem lexemesFrom_append (source : Text) (h : ∀ t ∈ ts, t.stop ≤ total) (newline : Bool) :
    ∃ newline', ∀ us, lexemesFrom source total newline (ts ++ us) =
      lexemesFrom source total newline ts ++ lexemesFrom source total newline' us := by
  induction ts generalizing newline with
  | nil => exact ⟨newline, fun _ => rfl⟩
  | cons t ts ih =>
    obtain ⟨ht, hts⟩ := List.forall_mem_cons.1 h
    simp only [List.cons_append, lexemesFrom, if_neg (Nat.not_lt.2 ht)]
    split
    · exact ih hts _
    · obtain ⟨newline', heq⟩ := ih hts false
      exact ⟨newline', fun us => by rw [heq, List.cons_append]⟩

theorem lexemesFrom_silent (h : ∀ t ∈ ts, isSilent t.kind = true) (newline : Bool) :
    lexemesFrom source total newline ts = [] := by
  induction ts generalizing newline with
  | nil => rfl
  | cons t ts ih =>
    obtain ⟨ht, hts⟩ := List.forall_mem_cons.1 h
    rw [lexemesFrom, if_pos ht, ih hts]
    split <;> rfl

def lexemesOf (source : Text) : List Lexeme :=
  lexemes source (tokenizeAll source)

theorem shift_natCast (t : Token) (d : Nat) : t.shift d = ⟨t.kind, t.start + d, t.length⟩ := by
  rw [Token.shift, ← Int.natCast_add, Int.toNat_natCast]

/-- The lexemes of `b` where it stands behind `u`. -/
theorem lexemesFrom_behind (u b : Text) :
    lexemesFrom (u ++ b) (byteLength (u ++ b)) false
        (tokensFrom (byteLength u) b ++ [eos (byteLength (u ++ b))]) =
      (lexemesOf b).map (·.relocate (· + byteLength u)) := by
  have hmove : tokensFrom (byteLength u) b ++ [eos (byteLength (u ++ b))] =
      (tokenizeAll b).map (·.shift (byteLength u)) := by
    rw [tokenizeAll_eq, List.map_append, map_shift_tokensFrom (q := byteLength u) (by simp), List.map_singleton,
      shift_natCast, byteLength_append, Nat.add_comm]
    rfl
  rw [hmove, lexemesOf, lexemes]
  refine lexemesFrom_map (·.shift (byteLength u)) (fun t _ => ?_) false
  have hstop : (t.shift (byteLength u)).stop = t.stop + byteLength u := by
    rw [shift_natCast]
    exact Nat.add_right_comm ..
  have hstart : (t.shift (byteLength u)).start = t.start + byteLength u := by rw [shift_natCast]
  refine ⟨rfl, ?_, ?_, ?_⟩
  · rw [Token.span, hstart, hstop]
    rfl
  · rw [Token.text, hstart, hstop, Nat.add_comm t.start, Nat.add_comm t.stop, sliceD_append_add]
    rfl
  · rw [hstop, byteLength_append]
    omega

/-- Tokens that lie in the beginning of a text are read as they are without what follows it. -/
theorem lexemesFrom_beginning {a : Text} (h : ∀ t ∈ ts, t.stop ≤ byteLength a) (w : Text) (newline : Bool) :
    lexemesFrom (a ++ w) (byteLength (a ++ w)) newline ts = lexemesFrom a (byteLength a) newline ts := by
  have hsame : lexemesFrom (a ++ w) (byteLength (a ++ w)) newline (ts.map id) =
      (lexemesFrom a (byteLength a) newline ts).map (·.relocate id) := by
    refine lexemesFrom_map id (fun t ht => ?_) newline
    have hle : t.stop ≤ byteLength a := h t ht
    refine ⟨rfl, rfl, sliceD_append_of_le hle w t.start, ?_⟩
    rw [id, byteLength_append]
    omega
  rw [List.map_id] at hsame
  exact hsame.trans (List.map_id _)

/-- The lexemes of the tokens of `a` that lie before a line break are those of `a`. -/
theorem lexemesFrom_before {a w : Text} {xs zs : List Token} (h : tokensFrom 0 a = xs ++ zs)
    (hzs : ∀ z ∈ zs, z.kind = .whitespace) :
    lexemesFrom (a ++ w) (byteLength (a ++ w)) false xs = lexemesOf a ∧ ∀ t ∈ xs, t.stop ≤ byteLength a := by
  have hcovers := covers_tokensFrom 0 a
  rw [h, Nat.zero_add] at hcovers
  have hin : ∀ t ∈ xs, t.stop ≤ byteLength a := fun t ht => hcovers.stop_le t (List.mem_append_left _ ht)
  have hlexemes : lexemesOf a = lexemesFrom a (byteLength a) false xs := by
    have hsilent : ∀ t ∈ zs ++ [eos (byteLength a)], isSilent t.kind = true := by
      intro t ht
      rcases List.mem_append.1 ht with ht | ht
      · rw [hzs t ht]
        rfl
      · rw [List.mem_singleton.1 ht]
        rfl
    obtain ⟨newline, hsplit⟩ := lexemesFrom_append a hin false
    rw [lexemesOf, lexemes, tokenizeAll_eq, h, List.append_assoc, hsplit, lexemesFrom_silent hsilent,
      List.append_nil]
  rw [lexemesFrom_beginning hin, hlexemes]
  exact ⟨rfl, hin⟩

/-- Behind a text whose line break is a token, a `;` and a second text are read as they stand. -/
theorem lexemes_append (a b : Text)
    (h : (tokenizeAll (a ++ ['\n'])).dropLast.getLast?.map (·.kind) = some .newline) :
    ∃ x : Lexeme, x.isOperator ";" = true ∧ x.span.stop = byteLength a + 2 ∧
      lexemesOf (a ++ "\n;".toList ++ b) =
        lexemesOf a ++ x :: (lexemesOf b).map (·.relocate (· + (byteLength a + 2))) := by
  obtain ⟨xs, y, zs, hxs, hzs, hy, hstop, htokens⟩ := tokenizeAll_append a b h
  have hlength : byteLength (a ++ "\n;".toList) = byteLength a + 2 := byteLength_append a "\n;".toList
  have htotal : byteLength (a ++ "\n;".toList ++ b) = byteLength a + 2 + byteLength b := by
    rw [byteLength_append, hlength]
  have hsilent : isSilent y.kind = true := by
    rw [hy]
    rfl
  obtain ⟨hbefore, hin⟩ := lexemesFrom_before (w := "\n;".toList ++ b) hxs hzs
  have hbehind := lexemesFrom_behind (a ++ "\n;".toList) b
  have htext : Token.text ⟨.operator, byteLength a + 1, 1⟩ (a ++ "\n;".toList ++ b) = ";".toList := by
    have hparts : a ++ "\n;".toList ++ b = a ++ ['\n'] ++ [';'] ++ b := by simp
    have hslice := slice?_append (a ++ ['\n']) [';'] b
    have hstart : byteLength (a ++ ['\n']) = byteLength a + 1 := byteLength_append a ['\n']
    have hend : byteLength (a ++ ['\n'] ++ [';']) = byteLength a + 1 + 1 := by
      rw [byteLength_append, hstart]
      rfl
    rw [hstart, hend] at hslice
    rw [Token.text, sliceD, hparts]
    exact congrArg (fun o => o.getD []) hslice
  have hstops : ∀ t ∈ xs, t.stop ≤ byteLength (a ++ "\n;".toList ++ b) := by
    intro t ht
    have hle := hin t ht
    omega
  obtain ⟨newline, hsplit⟩ := lexemesFrom_append (a ++ "\n;".toList ++ b) hstops false
  rw [← List.append_assoc] at hbefore
  rw [lexemesOf, lexemes, htokens, hsplit, hbefore, lexemesFrom, if_neg (by omega), if_pos hsilent, lexemesFrom,
    if_neg (by show ¬ _ < byteLength a + 1 + 1; omega), if_neg (by simp [isSilent, Kind.isTrivia]), hbehind,
    htext, hlength]
  exact ⟨_, rfl, rfl, rfl⟩

end Grammar

end RSource
