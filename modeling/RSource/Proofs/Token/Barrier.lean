import RSource.Proofs.Token.Lookahead
import RSource.Proofs.Token.Stream

/-!
# Line breaks as barriers of the token stream

The tokens up to a line break token are the tokens of any text that goes on from there: none of them
has looked past it (`exists_barrier`). So a text that ends with such a token can be cut off from what
follows it (`tokenizeAll_append_of_newline`). A line break inside a string is no such barrier, since it
is no token.
-/

namespace RSource.Token
open Text

variable {pos : Nat} {t : Text} {xs ys : List Token} {x : Token} {c : Char} {cs : Text} {n : Nat}

theorem nameKind_ne_newline (name : Text) : nameKind name ≠ .newline := by
  unfold nameKind
  split <;> simp

/-- A line break token is a line feed, perhaps behind a carriage return. -/
theorem Scans.of_newline (h : Scans c cs .newline n) :
    (c = '\n' ∧ n = 0) ∨ (c = '\r' ∧ n = 1 ∧ ∃ r, cs = '\n' :: r) := by
  generalize hk : Kind.newline = k at h
  cases h with
  | newline => exact .inl ⟨rfl, rfl⟩
  | returnNewline => exact .inr ⟨rfl, rfl, _, rfl⟩
  | name => exact absurd hk.symm (nameKind_ne_newline _)
  | single h =>
    subst hk
    simp [singles] at h
  | _ => cases hk

/-- The text of a line break token ends with a line feed and is read the same before every text. -/
theorem first_newline (h : (first pos c cs).kind = .newline) :
    (∃ r, c :: cs.take (scan c cs).2 = r ++ ['\n']) ∧
      ∀ v, scan c (cs.take (scan c cs).2 ++ v) = scan c cs := by
  have hs := scans_scan c cs
  rw [show (scan c cs).1 = .newline from h] at hs
  rcases hs.of_newline with ⟨rfl, hn⟩ | ⟨rfl, hn, r, rfl⟩
  · rw [hn]
    exact ⟨⟨[], rfl⟩, fun v => rfl⟩
  · rw [hn]
    exact ⟨⟨['\r'], rfl⟩, fun v => rfl⟩

/-- A first token that does not depend on what follows it is read off its own text. -/
theorem tokensFrom_take_append {w : Text} (hs : scan c (cs.take (scan c cs).2 ++ w) = scan c cs) :
    tokensFrom pos (c :: cs.take (scan c cs).2 ++ w) =
      first pos c cs :: tokensFrom (first pos c cs).stop w := by
  have hlen : (cs.take (scan c cs).2).length = (scan c cs).2 :=
    List.length_take_of_le (scans_scan c cs).le
  have hf : first pos c (cs.take (scan c cs).2 ++ w) = first pos c cs := by
    rw [first, first, hs, List.take_left' hlen]
  rw [List.cons_append, tokensFrom_cons, hf, hs, List.drop_left' hlen]

/-- A first token before a line break does not see what replaces the text behind the line break. -/
theorem scan_take_append_newline {r v : Text} (h : cs.drop (scan c cs).2 = r ++ '\n' :: v) (w : Text) :
    scan c (cs.take (scan c cs).2 ++ (r ++ '\n' :: w)) = scan c cs := by
  have hs := scans_scan c cs
  have hlen : (cs.take (scan c cs).2).length = (scan c cs).2 := List.length_take_of_le hs.le
  have hcs : cs.take (scan c cs).2 ++ r ++ '\n' :: v = cs := by
    rw [List.append_assoc, ← h, List.take_append_drop]
  have hv : Scans c (cs.take (scan c cs).2 ++ r ++ '\n' :: v) (scan c cs).1 (scan c cs).2 := by
    rw [hcs]; exact hs
  rw [← List.append_assoc, (hv.behind_newline (by rw [List.length_append, hlen]; omega) w).scan_eq]

/-- The tokens up to a line break token are the tokens of every text with that beginning. -/
theorem exists_barrier (h : tokensFrom pos t = xs ++ x :: ys) (hx : x.kind = .newline) :
    ∃ u v, t = u ++ v ∧ (∃ r, u = r ++ ['\n']) ∧ Covers pos (xs ++ [x]) (pos + byteLength u) ∧
      ∀ w, tokensFrom pos (u ++ w) = xs ++ x :: tokensFrom (pos + byteLength u) w := by
  induction xs generalizing pos t with
  | nil =>
    cases t with
    | nil => simp at h
    | cons c cs =>
      rw [tokensFrom_cons, List.nil_append] at h
      obtain ⟨rfl, -⟩ := List.cons.inj h
      obtain ⟨hr, hs⟩ := first_newline hx
      refine ⟨c :: cs.take (scan c cs).2, cs.drop (scan c cs).2, ?_, hr, ⟨rfl, byteLength_pos .., rfl⟩,
        fun w => tokensFrom_take_append (hs w)⟩
      rw [List.cons_append, List.take_append_drop]
  | cons y xs ih =>
    cases t with
    | nil => simp at h
    | cons c cs =>
      rw [tokensFrom_cons, List.cons_append] at h
      obtain ⟨rfl, h'⟩ := List.cons.inj h
      obtain ⟨u, v, hcs, ⟨r, rfl⟩, hc, hw⟩ := ih h'
      have hpos : (first pos c cs).stop + byteLength (r ++ ['\n']) =
          pos + byteLength (c :: cs.take (scan c cs).2 ++ (r ++ ['\n'])) := by
        rw [byteLength_append (c :: _), ← Nat.add_assoc]; rfl
      have hs : ∀ w, scan c (cs.take (scan c cs).2 ++ (r ++ ['\n'] ++ w)) = scan c cs := by
        intro w
        rw [← List.append_cons]
        rw [← List.append_cons] at hcs
        exact scan_take_append_newline hcs w
      rw [hpos] at hc
      refine ⟨c :: cs.take (scan c cs).2 ++ (r ++ ['\n']), v, ?_, ⟨c :: cs.take (scan c cs).2 ++ r, ?_⟩,
        ⟨rfl, byteLength_pos .., hc⟩, fun w => ?_⟩
      · rw [List.append_assoc, ← hcs, List.cons_append, List.take_append_drop]
      · rw [List.append_assoc]
      · rw [List.append_assoc, tokensFrom_take_append (hs w), hw, hpos]
        rfl

/-- Behind a text that ends with a line break token, every text is read as it stands. -/
theorem tokensFrom_append_of_newline (h : tokensFrom pos t = xs ++ [x]) (hx : x.kind = .newline) (w : Text) :
    tokensFrom pos (t ++ w) = xs ++ x :: tokensFrom (pos + byteLength t) w := by
  obtain ⟨u, v, rfl, -, -, hw⟩ := exists_barrier h hx
  -- the line break is the last token, so nothing stands behind the barrier
  obtain rfl : v = [] := by
    rw [hw, List.append_cancel_left_eq, List.cons.injEq] at h
    exact eq_nil_of_tokensFrom h.2
  rw [List.append_nil]
  exact hw w

/-- If the last token of a text is a line break, the tokens of what follows it stand behind those of the
text, and they do not depend on it but for their offsets. -/
theorem tokenizeAll_append_of_newline (a b : Text)
    (h : (withoutEos (tokenizeAll a)).getLast?.map (·.kind) = some .newline) :
    tokenizeAll (a ++ b) =
      withoutEos (tokenizeAll a) ++ (tokenizeAll b).map (·.shift (byteLength a)) := by
  rw [withoutEos_tokenizeAll] at h ⊢
  obtain ⟨x, hlast, hx⟩ := Option.map_eq_some_iff.1 h
  obtain ⟨xs, hxs⟩ := List.getLast?_eq_some_iff.1 hlast
  have htokens := tokensFrom_append_of_newline hxs hx b
  rw [Nat.zero_add] at htokens
  rw [tokenizeAll_eq, htokens, map_shift_tokenizeAll, byteLength_append, hxs, List.append_assoc, List.append_assoc]
  rfl

/-- The line break in the string is no barrier, and the one behind it keeps the two `%` apart. -/
theorem tokenizeAll_append_of_newline_percent :
    let a := "x <- 'é\n' %\r\n".toList
    let b := "% 1e5".toList
    (withoutEos (tokenizeAll a)).getLast?.map (·.kind) = some .newline ∧ byteLength a = 14 ∧
      tokenizeAll (a ++ b) = withoutEos (tokenizeAll a) ++ (tokenizeAll b).map (·.shift 14) := by
  intro a b
  have hline : (withoutEos (tokenizeAll a)).getLast?.map (·.kind) = some .newline := by decide +kernel
  have hlength : byteLength a = 14 := by decide +kernel
  have htokens := tokenizeAll_append_of_newline a b hline
  rw [hlength] at htokens
  exact ⟨hline, hlength, htokens⟩

end RSource.Token
