import Mathlib.Data.List.DropRight
import RSource.Proofs.Token.Barrier
import RSource.Proofs.Token.Change

/-!
# Tokens after an edit are the tokens of the edited text

`relex` keeps the old tokens up to a line break before the change, which is a barrier of the stream,
lexes on from there, and takes over old tokens once the two streams meet behind the change, where the
rest of the old text is the rest of the new one. So for a truthful change it gives what a full
tokenization gives (`relex_tokenizeAll`).
-/

namespace RSource.Token
open Text

variable {change : Change} {before after u w rest : Text} {total pos offset : Nat}

/-! ### The kept tokens -/

/-- The kept tokens are a beginning of the tokens, end at or before the offset, and if there are any
the last one is a line break. -/
theorem linesBefore_spec (tokens : List Token) (offset : Nat) :
    (∃ rest, tokens = linesBefore tokens offset ++ rest) ∧
      (∀ t ∈ linesBefore tokens offset, t.stop ≤ offset) ∧
      (linesBefore tokens offset = [] ∨
        ∃ xs x, linesBefore tokens offset = xs ++ [x] ∧ x.kind = .newline) := by
  have hpre : linesBefore tokens offset <+: tokens.takeWhile fun t => t.stop ≤ offset :=
    List.rdropWhile_prefix ..
  refine ⟨?_, fun t ht => ?_, ?_⟩
  · obtain ⟨rest, hrest⟩ := hpre.trans (List.takeWhile_prefix _)
    exact ⟨rest, hrest.symm⟩
  · simpa using List.mem_takeWhile_imp (hpre.subset ht)
  · rcases List.eq_nil_or_concat (linesBefore tokens offset) with h | ⟨xs, x, h⟩
    · exact .inl h
    · rw [List.concat_eq_append] at h
      have hlast := List.rdropWhile_last_not (fun t : Token => t.kind ≠ .newline)
        (tokens.takeWhile fun t => t.stop ≤ offset) (by
          rw [show List.rdropWhile _ _ = linesBefore tokens offset from rfl, h]; simp)
      simp only [show List.rdropWhile _ _ = linesBefore tokens offset from rfl, h] at hlast
      exact .inr ⟨xs, x, h, by simpa using hlast⟩

/-- Where a truthful change begins, the kept tokens end at a place of both texts from which the new
text is lexed as if nothing stood before it. -/
theorem exists_restart (h : change.Truthful before.bytes after.bytes) :
    ∃ u w, after = u ++ w ∧
      coveredLength (linesBefore (tokensFrom 0 before) change.start) = u.byteLength ∧
      tokensFrom 0 after = linesBefore (tokensFrom 0 before) change.start ++
        tokensFrom u.byteLength w := by
  obtain ⟨⟨rest, hold⟩, hstop, hk | ⟨xs, x, hk, hx⟩⟩ :=
    linesBefore_spec (tokensFrom 0 before) change.start
  · exact ⟨[], after, rfl, by rw [hk]; rfl, by rw [hk]; rfl⟩
  · rw [hk] at hold hstop ⊢
    rw [List.append_assoc] at hold
    obtain ⟨u, v, rfl, -, hcov, hu⟩ := exists_barrier hold hx
    rw [Nat.zero_add] at hcov hu
    have hlen : u.byteLength ≤ change.start := by
      have hs := hstop x (by simp)
      obtain ⟨m, -, -, -, hm⟩ := covers_append.1 hcov
      rwa [show x.stop = u.byteLength from hm] at hs
    obtain ⟨w, rfl⟩ := h.exists_append hlen
    refine ⟨u, w, rfl, coveredLength_of_covers hcov, ?_⟩
    rw [hu, List.append_assoc]
    rfl

/-! ### Meeting the old tokens -/

/-- An old token that starts behind the change where a new one does begins the rest of both
streams. -/
theorem map_shift_of_met {t : Token} {xs ts : List Token}
    (h : change.Truthful before.bytes (w ++ rest).bytes) (hpos : change.newStop ≤ w.byteLength)
    (hold : tokensFrom 0 before = xs ++ t :: ts)
    (ht : (t.start : Int) = w.byteLength - change.delta) :
    (t :: ts).map (·.shift change.delta) = tokensFrom w.byteLength rest := by
  obtain ⟨a, b, rfl, -, hts⟩ := tokensFrom_split hold
  rw [Nat.zero_add] at hts
  have hstart : t.start = a.byteLength := by
    have hcov := covers_tokensFrom a.byteLength b
    rw [← hts] at hcov
    exact hcov.1
  rw [Change.delta] at ht
  obtain rfl : b = rest := h.eq_of_behind hpos (by omega)
  rw [hts]
  exact map_shift_tokensFrom (by rw [Change.delta]; omega)

/-- Lexing on gives the tokens of the rest, met by old tokens or not. -/
theorem resync_eq (h : change.Truthful before.bytes (w ++ rest).bytes)
    (hpos : pos = w.byteLength) (htotal : total = (w ++ rest).byteLength) :
    resync (tokensFrom 0 before) change total pos rest = tokensFrom pos rest ++ [eos total] := by
  fun_induction resync (tokensFrom 0 before) change total pos rest generalizing w with
  | case1 pos => simp [htotal, hpos]
  | case2 pos c cs s token met =>
    rename_i ih
    have hsplit : w ++ c :: cs = w ++ c :: cs.take (scan c cs).2 ++ cs.drop (scan c cs).2 := by
      rw [List.append_assoc, List.cons_append, List.take_append_drop]
    rw [hsplit] at h htotal
    rw [ih h (by rw [byteLength_append, ← hpos]; rfl) htotal, tokensFrom_cons]
    rfl
  | case3 pos c cs met t ts =>
    rename_i hmet
    subst hpos
    by_cases hnew : change.newStop ≤ w.byteLength
    · rw [show met = _ from dif_pos hnew] at hmet
      have hold := @List.takeWhile_append_dropWhile _
        (fun t : Token => (t.start : Int) ≠ w.byteLength - change.delta) (tokensFrom 0 before)
      rw [hmet] at hold
      have ht := List.head?_dropWhile_not
        (fun t : Token => (t.start : Int) ≠ w.byteLength - change.delta) (tokensFrom 0 before)
      rw [hmet] at ht
      rw [map_shift_of_met h hnew hold.symm (by simpa using ht)]
    · rw [show met = _ from dif_neg hnew] at hmet
      cases hmet

/-! ### The whole stream -/

theorem fits_of_truthful (h : change.Truthful before.bytes after.bytes) :
    fits change (coveredLength (tokensFrom 0 before)) after.byteLength = true := by
  have hcov := covers_tokensFrom 0 before
  rw [Nat.zero_add] at hcov
  have hlen := h.length_eq
  have hold := h.oldStop_le
  have hnew := h.newStop_le
  rw [length_bytes] at hold hnew
  rw [length_bytes, length_bytes] at hlen
  simp only [fits, coveredLength_of_covers hcov, Change.delta, Bool.and_eq_true, decide_eq_true_eq,
    beq_iff_eq]
  exact ⟨⟨⟨⟨h.start_le_oldStop, h.start_le_newStop⟩, hnew⟩, hold⟩, by omega⟩

/-- With the tokens of the text before a truthful change, however they end, `relex` gives those of the
text after it. -/
theorem relex_of_truthful {previous : List Token} (hp : withoutEos previous = tokensFrom 0 before)
    (h : change.Truthful before.bytes after.bytes) : relex previous after change = tokenizeAll after := by
  obtain ⟨u, w, rfl, hcov, hw⟩ := exists_restart h
  simp only [relex, hp, fits_of_truthful h, if_true]
  rw [hcov, floorBoundary_append, dropBytes_append, resync_eq h rfl rfl, tokenizeAll_eq, hw,
    List.append_assoc]

/-- For a truthful change `relex` gives the tokens of the text after it, whether or not the tokens of
the text before it are given with their end of stream. -/
theorem relex_tokenizeAll (before after : Text) (change : Change)
    (h : change.Truthful before.bytes after.bytes) :
    relex (tokenizeAll before) after change = tokenizeAll after ∧
      (tokenizeAll before).getLast? = some (eos before.byteLength) ∧
      relex (tokenizeAll before).dropLast after change = tokenizeAll after := by
  refine ⟨relex_of_truthful (withoutEos_tokenizeAll before) h, ?_, ?_⟩
  · rw [tokenizeAll_eq, List.getLast?_concat]
  · refine relex_of_truthful ?_ h
    rw [tokenizeAll_eq, List.dropLast_concat, withoutEos_tokensFrom]

/-- An edit that closes a string, with a change that starts inside a character. -/
theorem relex_tokenizeAll_closing_string :
    (Change.mk 4 5 6).Truthful (bytes "1\n\"é\n%".toList) (bytes "1\n\"è\"\n%".toList) ∧
      relex (tokenizeAll "1\n\"é\n%".toList) "1\n\"è\"\n%".toList ⟨4, 5, 6⟩ =
        tokenizeAll "1\n\"è\"\n%".toList := by
  have h : (Change.mk 4 5 6).Truthful (bytes "1\n\"é\n%".toList) (bytes "1\n\"è\"\n%".toList) :=
    ⟨by decide, by decide, by decide, by decide, by decide, by decide⟩
  exact ⟨h, (relex_tokenizeAll _ _ _ h).1⟩

end RSource.Token
