import RSource.Proofs.Token.Cut

/-!
# A line break at the end of a text

Where a line break at the end of a text is a token, the tokens before it are those of the text without it:
each of them takes the line break for the end of the text (`Scans.cut`). What is left of the text
behind them, a carriage return, is a blank (`tokensFrom_of_newline`). Behind such a line break a `;` and a
second text are read as they stand (`tokenizeAll_append`).
-/

namespace RSource.Token
open Text

variable {pos : Nat} {u : Text} {xs : List Token} {x : Token}

/-- The tokens before a line break at the end, which is a token, are those of the text without it, but for
a carriage return that belongs to the line break. -/
theorem tokensFrom_of_newline (h : tokensFrom pos (u ++ ['\n']) = xs ++ [x]) (hx : x.kind = .newline) :
    ∃ zs, tokensFrom pos u = xs ++ zs ∧ ∀ z ∈ zs, z.kind = .whitespace := by
  induction xs generalizing pos u with
  | nil =>
    cases u with
    | nil => exact ⟨[], tokensFrom_nil pos, nofun⟩
    | cons c cs =>
      rw [List.cons_append, tokensFrom_cons, List.nil_append] at h
      obtain ⟨rfl, hrest⟩ := List.cons.inj h
      have hscan := scans_scan c (cs ++ ['\n'])
      rw [show (scan c (cs ++ ['\n'])).1 = .newline from hx] at hscan
      have hdrop := eq_nil_of_tokensFrom hrest
      rcases hscan.of_newline with ⟨rfl, hn⟩ | ⟨rfl, hn, r, hr⟩
      · rw [hn] at hdrop
        simp at hdrop
      · rw [hn, hr] at hdrop
        obtain rfl : cs = [] := by
          have hr' : r = [] := hdrop
          simpa [hr'] using congrArg List.length hr
        refine ⟨[first pos '\r' []], by simp [tokensFrom_cons], fun z hz => ?_⟩
        rw [List.mem_singleton.1 hz]
        rfl
  | cons y xs ih =>
    cases u with
    | nil =>
      rw [List.nil_append, tokensFrom_cons, List.cons_append] at h
      have hrest := (List.cons.inj h).2
      simp at hrest
    | cons c cs =>
      rw [List.cons_append, tokensFrom_cons, List.cons_append] at h
      obtain ⟨rfl, hrest⟩ := List.cons.inj h
      have hn : (scan c (cs ++ ['\n'])).2 ≤ cs.length := by
        by_contra hlt
        have hnil : (cs ++ ['\n']).drop (scan c (cs ++ ['\n'])).2 = [] := by
          rw [List.drop_eq_nil_iff, List.length_append, List.length_singleton]
          omega
        rw [hnil, tokensFrom_nil] at hrest
        simp at hrest
      -- the first token ends before the line break, so it is the first one of the text without it
      have hscan : scan c cs = scan c (cs ++ ['\n']) :=
        ((scans_scan c (cs ++ ['\n'])).cut hn).scan_eq
      have hfirst : first pos c (cs ++ ['\n']) = first pos c cs := by
        rw [first, first, hscan, List.take_append_of_le_length hn]
      rw [List.drop_append_of_le_length hn, hfirst] at hrest
      obtain ⟨zs, hzs, hblank⟩ := ih hrest
      refine ⟨zs, ?_, hblank⟩
      rw [tokensFrom_cons, hscan, hzs, hfirst, List.cons_append]

theorem scan_semicolon (cs : Text) : scan ';' cs = (.operator, 0) := by
  rfl

theorem tokensFrom_semicolon (pos : Nat) (cs : Text) :
    tokensFrom pos (';' :: cs) = ⟨.operator, pos, 1⟩ :: tokensFrom (pos + 1) cs := by
  rw [tokensFrom_cons, first, scan_semicolon]
  rfl

/-- The tokens of two texts with a line break, which is a token, and a `;` between them. -/
theorem tokenizeAll_append (a b : Text)
    (h : (tokenizeAll (a ++ ['\n'])).dropLast.getLast?.map (·.kind) = some .newline) :
    ∃ xs x zs, tokensFrom 0 a = xs ++ zs ∧ (∀ z ∈ zs, z.kind = .whitespace) ∧ x.kind = .newline ∧
      x.stop ≤ byteLength a + 1 ∧
      tokenizeAll (a ++ "\n;".toList ++ b) = xs ++ x :: ⟨.operator, byteLength a + 1, 1⟩ ::
        (tokensFrom (byteLength (a ++ "\n;".toList)) b ++
          [eos (byteLength (a ++ "\n;".toList ++ b))]) := by
  rw [tokenizeAll_eq, List.dropLast_concat] at h
  obtain ⟨x, hlast, hx⟩ := Option.map_eq_some_iff.1 h
  obtain ⟨xs, hxs⟩ := List.getLast?_eq_some_iff.1 hlast
  obtain ⟨zs, hzs, hblank⟩ := tokensFrom_of_newline hxs hx
  have hcovers := covers_tokensFrom 0 (a ++ ['\n'])
  have htokens := tokensFrom_append_of_newline hxs hx (';' :: b)
  have hline : 0 + byteLength (a ++ ['\n']) = byteLength a + 1 := by
    rw [byteLength_append, Nat.zero_add]
    rfl
  have hlength : byteLength (a ++ "\n;".toList) = byteLength a + 1 + 1 := byteLength_append a "\n;".toList
  have hparts : a ++ "\n;".toList ++ b = a ++ ['\n'] ++ ';' :: b := by simp
  rw [hxs, hline] at hcovers
  rw [hline] at htokens
  refine ⟨xs, x, zs, hzs, hblank, hx, hcovers.stop_le x (by simp), ?_⟩
  rw [tokenizeAll_eq, hlength]
  nth_rewrite 1 [hparts]
  rw [htokens, tokensFrom_semicolon, List.append_assoc, List.cons_append, List.cons_append]

end RSource.Token
