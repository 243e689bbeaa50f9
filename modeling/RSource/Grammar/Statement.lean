import RSource.Grammar.Reader

/-! # Statements

Statements are separated by line breaks and semicolons. A closer that closes nothing is an error of
its own, and what follows a complete expression on its line is folded into an error. -/

namespace RSource.Grammar

variable (eof : Nat) (sub : Reader)

/-- Statements up to `closer`, which is not taken, or the end. -/
def statements (context : Context) (closer : Option Token.Kind) (s : Cursor) :
    List Tree × Cursor :=
  match hs : s.rest with
  | [] => ([], s)
  | x :: xs =>
    have hx : xs.length < s.remaining := by
      rw [Cursor.remaining, hs, List.length_cons]
      exact Nat.lt_succ_self _
    if closer = some x.kind then ([], s)
    else if x.isOperator ";" then statements context closer ⟨xs, x.span.stop⟩
    else if x.kind.isCloser then
      let (ts, s') := statements context closer ⟨xs, x.span.stop⟩
      (x.leaf (.error false) :: ts, s')
    else
      match he : sub.run 0 context s with
      | none =>
        let r := skip eof (endsStatement closer) x xs
        have : r.2.remaining < s.remaining := Nat.lt_of_le_of_lt (remaining_skip_le ..) hx
        let (ts, s') := statements context closer r.2
        (r.1 :: ts, s')
      | some (e, after) =>
        have hlt := sub.shorter he
        let statement := Tree.node .expressionStatement e.span [e]
        match ha : after.rest with
        | [] => ([statement], after)
        | y :: ys =>
          if endsStatement closer y then
            let (ts, s') := statements context closer after
            (statement :: ts, s')
          else
            let r := skip eof (endsStatement closer) y ys
            have : r.2.remaining < s.remaining := by
              have hr : r.2.remaining ≤ ys.length := remaining_skip_le ..
              have hy : ys.length < after.remaining := by
                rw [Cursor.remaining, ha, List.length_cons]
                exact Nat.lt_succ_self _
              exact Nat.lt_of_le_of_lt hr (Nat.lt_trans hy hlt)
            let (ts, s') := statements context closer r.2
            (statement :: r.1 :: ts, s')
termination_by s.remaining
decreasing_by
  · exact hx
  · exact hx
  · exact this
  · exact hlt
  · exact this

theorem remaining_statements_le (context : Context) (closer : Option Token.Kind) (s : Cursor) :
    (statements eof sub context closer s).2.remaining ≤ s.remaining := by
  fun_induction statements eof sub context closer s with
  | case1 => exact Nat.le_refl _
  | case2 => exact Nat.le_refl _
  | case3 s x xs hs hx _ _ ih => exact Nat.le_trans ih (Nat.le_of_lt hx)
  | case4 s x xs hs hx _ _ _ ts s' hst ih =>
    rw [hst] at ih
    exact Nat.le_trans ih (Nat.le_of_lt hx)
  | case5 s x xs hs hx _ _ _ he r hlt ts s' hst ih =>
    exact Nat.le_trans (by simpa [hst] using ih) (Nat.le_of_lt hlt)
  | case6 s x xs hs hx _ _ _ e after he hlt statement ha => exact Nat.le_of_lt hlt
  | case7 s x xs hs hx _ _ _ e after he hlt statement y ys ha hy ts s' hst ih =>
    exact Nat.le_trans (by simpa [hst] using ih) (Nat.le_of_lt hlt)
  | case8 s x xs hs hx _ _ _ e after he hlt statement y ys ha hy r hr ts s' hst ih =>
    exact Nat.le_trans (by simpa [hst] using ih) (Nat.le_of_lt hr)

end RSource.Grammar
