import RSource.Proofs.Text.Lines
import RSource.Proofs.Text.Slice
import RSource.Proofs.Token.Cut

/-!
# The ends of tokens

A token that carries meaning and does not reach the end of the text neither starts nor ends with a blank
(`not_blank_of_scan`, `Scans.last_not_blank`), so trimming leaves a text alone that starts and ends with such
tokens.
-/

namespace RSource.Token
open Text

variable {c : Char} {k : Kind} {n : Nat} {u v cs : Text}

/-- A blank starts white space or a line break. -/
theorem not_blank_of_scan (h : (scan c cs).1.isTrivia = false) : isBlank c = false := by
  refine Bool.eq_false_iff.2 fun hc => ?_
  by_cases hline : c = '\n'
  · subst hline
    cases h
  by_cases hreturn : c = '\r'
  · subst hreturn
    rw [scan_carriage] at h
    split at h <;> cases h
  · have hinline : isInlineBlank c = true := by simp [isInlineBlank, hline, hreturn, hc]
    have hscan : Scans c cs _ _ := .blank hinline
    rw [hscan.scan_eq] at h
    cases h

/-! ### Closing quotes -/

theorem getLast?_cons_of_some {α : Type} {a b : α} {l : List α} (h : l.getLast? = some b) :
    (a :: l).getLast? = some b := by
  rw [List.getLast?_cons, h]
  rfl

theorem getLast?_quoted {q : Char} (h : quotedLength q u < u.length) :
    (u.take (quotedLength q u)).getLast? = some q := by
  fun_induction quotedLength q u with
  | case1 => exact absurd h (Nat.lt_irrefl 0)
  | case2 d u ih =>
    simp only [List.length_cons] at h
    exact getLast?_cons_of_some (getLast?_cons_of_some (ih (by omega)))
  | case3 u => rfl
  | case4 c u _ hc ih =>
    simp only [List.length_cons] at h
    exact getLast?_cons_of_some (ih (by omega))

theorem take_find? {pat : Text} {i : Nat} (h : find? pat u = some i) :
    u.take (i + pat.length) = u.take i ++ pat := by
  induction u generalizing i with
  | nil =>
    have hle := find?_add_le h
    obtain rfl : pat = [] := List.eq_nil_of_length_eq_zero (by simp only [List.length_nil] at hle; omega)
    simp
  | cons c u ih =>
    rw [find?] at h
    split at h
    · next hbegins =>
      obtain ⟨v, hv⟩ := List.isPrefixOf_iff_prefix.1 hbegins
      obtain rfl : 0 = i := Option.some.inj h
      rw [Nat.zero_add, ← hv, List.take_left]
      rfl
    · obtain ⟨j, hj, rfl⟩ := Option.map_eq_some_iff.1 h
      rw [Nat.add_right_comm, List.take_succ_cons, ih hj]
      rfl

theorem getLast?_raw {quote : Char} (h : rawLength? (quote :: cs) = some n) (hn : n < (quote :: cs).length) :
    ((quote :: cs).take n).getLast? = some quote := by
  rw [rawLength?_cons] at h
  split at h
  · generalize runLength (· == '-') cs = dashes at h
    obtain ⟨m, hm, rfl⟩ := Option.map_eq_some_iff.1 h
    cases hbody : cs.drop dashes with
    | nil =>
      rw [hbody] at hm
      cases hm
    | cons opener body =>
      rw [hbody, rawBody] at hm
      obtain ⟨closer, -, rfl⟩ := Option.map_eq_some_iff.1 hm
      have hlength := congrArg List.length hbody
      rw [List.length_drop, List.length_cons] at hlength
      rw [List.length_cons] at hn
      -- the terminator was found, or the string would reach the end of the text
      have hrest : (body.take (rawRest (rawTerminator closer dashes quote) body)).getLast? = some quote := by
        unfold rawRest at hn ⊢
        cases hfind : find? (rawTerminator closer dashes quote) body with
        | none =>
          simp only [hfind] at hn
          omega
        | some i =>
          simp only [take_find? hfind]
          rw [List.getLast?_append, rawTerminator, getLast?_cons_of_some List.getLast?_concat]
          rfl
      rw [Nat.add_assoc, Nat.add_comm 1, List.take_succ_cons, List.take_add, hbody, Nat.add_comm 1,
        List.take_succ_cons]
      refine getLast?_cons_of_some ?_
      rw [List.getLast?_append, getLast?_cons_of_some hrest]
      rfl
  · cases h

/-! ### The last character -/

/-- What ends before every blank does not end with one. -/
theorem Halts.last_not_blank {f : Text → Nat} (hf : Halts delimiters f) :
    ∀ e ∈ (cs.take (f cs)).getLast?, isBlank e = false := by
  intro e he
  refine Bool.eq_false_iff.2 fun hblank => ?_
  obtain ⟨w, hw⟩ := List.getLast?_eq_some_iff.1 he
  have hlength := congrArg List.length hw
  have happart : IsApart (e :: cs.drop (f cs)) := isApart_cons (List.mem_append_left _ (mem_blanks hblank)) _
  have hcs : cs = w ++ e :: cs.drop (f cs) := by
    rw [← List.singleton_append, ← List.append_assoc, ← hw, List.take_append_drop]
  have hhalt := hf.halt w _ happart
  rw [← hcs] at hhalt
  have hle := hf.le w
  rw [List.length_take, Nat.min_eq_left (hf.le cs), List.length_append, List.length_singleton] at hlength
  omega

theorem not_blank_of_mem_operator {op : String} {e : Char} (hop : op ∈ operators) (he : e ∈ op.toList) :
    isBlank e = false := by
  refine Bool.eq_false_iff.2 fun hblank => ?_
  exact delimiter_not_mem_operators hop (mem_delimiters_of_isBlank hblank) he

/-- A token that carries meaning does not end with a blank, unless it reaches the end of the text. -/
theorem Scans.last_not_blank (h : Scans c cs k n) (hk : k.isTrivia = false) (hn : n < cs.length) :
    ∀ e ∈ (cs.take n).getLast?, isBlank e = false := by
  intro e he
  cases h with
  | newline | returnNewline | carriage | blank | comment => cases hk
  | string h =>
    rw [getLast?_quoted hn] at he
    obtain rfl := Option.some.inj he
    rcases h with rfl | rfl <;> rfl
  | quotedName =>
    rw [getLast?_quoted hn] at he
    obtain rfl := Option.some.inj he
    rfl
  | number => exact (halts_numberLength c).last_not_blank e he
  | raw _ hraw =>
    cases cs with
    | nil => cases hraw
    | cons quote cs =>
      rw [getLast?_raw hraw hn] at he
      obtain rfl := Option.some.inj he
      rw [rawLength?_cons] at hraw
      split at hraw
      · next hquote => rcases hquote with rfl | rfl <;> rfl
      · cases hraw
  | name =>
    exact halts_name.last_not_blank e he
  | single | lonePercent | unknown => cases he
  | percent h =>
    obtain ⟨rest, hrest⟩ := List.head?_eq_some_iff.1 h
    rw [List.take_add, hrest, List.getLast?_append] at he
    obtain rfl : '%' = e := Option.some.inj he
    rfl
  | @operator _ _ op _ hop =>
    unfold operatorOf? at hop
    have hfound := List.find?_some hop
    obtain ⟨rest, hrest⟩ := List.isPrefixOf_iff_prefix.1 hfound
    refine not_blank_of_mem_operator (List.mem_of_find?_eq_some hop) ?_
    rw [← String.length_toList] at he
    cases hchars : op.toList with
    | nil =>
      rw [hchars] at he
      cases he
    | cons d ds =>
      rw [hchars, List.cons_append] at hrest
      rw [hchars] at he
      obtain ⟨-, rfl⟩ := List.cons.inj hrest
      rw [List.length_cons, Nat.add_sub_cancel, List.take_left] at he
      exact List.mem_cons_of_mem _ (List.mem_of_getLast? he)

/-! ### Streams -/

theorem eq_of_append_eq {u' v' : Text} (h : u ++ v = u' ++ v') (hlength : byteLength u = byteLength u') :
    u = u' ∧ v = v' := by
  have htake := takeExact?_append u v
  rw [h, hlength, takeExact?_append] at htake
  obtain rfl := Option.some.inj htake
  exact ⟨rfl, List.append_cancel_left h⟩

variable {pos : Nat} {ts us : List Token}

/-- The last of the tokens that cover a range ends where the range ends. -/
theorem Covers.stop_getLast {stop : Nat} (h : Covers pos ts stop) : ∀ t ∈ ts.getLast?, t.stop = stop := by
  intro t ht
  obtain ⟨ts, rfl⟩ := List.getLast?_eq_some_iff.1 ht
  obtain ⟨m, -, -, -, hstop⟩ := covers_append.1 h
  exact hstop

theorem first_not_blank (h : tokensFrom pos u = ts ++ us) (hts : ts ≠ [])
    (hfirst : ∀ t ∈ ts.head?, t.kind.isTrivia = false) : ∀ c ∈ u.head?, isBlank c = false := by
  obtain ⟨t, ts, rfl⟩ := List.exists_cons_of_ne_nil hts
  cases u with
  | nil =>
    rw [tokensFrom_nil] at h
    cases h
  | cons c cs =>
    rw [tokensFrom_cons] at h
    obtain ⟨rfl, -⟩ := List.cons.inj h
    intro d hd
    obtain rfl := Option.some.inj hd
    exact not_blank_of_scan (hfirst _ rfl)

/-- A beginning that ends with a token that carries meaning does not end with a blank. -/
theorem last_not_blank (h : tokensFrom pos (u ++ v) = ts ++ us) (hcovers : Covers pos ts (pos + byteLength u))
    (hv : v ≠ []) (hlast : ∀ t ∈ ts.getLast?, t.kind.isTrivia = false) : ∀ e ∈ u.getLast?, isBlank e = false := by
  rcases List.eq_nil_or_concat ts with rfl | ⟨ts, t, rfl⟩
  · have hpos : pos = pos + byteLength u := hcovers
    obtain rfl : u = [] := eq_nil_of_byteLength (by omega)
    simp
  · rw [List.concat_eq_append] at h hcovers hlast
    have ht : t.kind.isTrivia = false := hlast t (by rw [List.getLast?_concat]; rfl)
    rw [List.append_assoc] at h
    obtain ⟨w, rest, hparts, hts, hrest⟩ := tokensFrom_split h
    cases rest with
    | nil =>
      rw [tokensFrom_nil] at hrest
      cases hrest
    | cons c cs =>
      rw [tokensFrom_cons] at hrest
      obtain ⟨rfl, -⟩ := List.cons.inj hrest
      generalize hn : (scan c cs).2 = n
      have hscan : Scans c cs (scan c cs).1 n := hn ▸ scans_scan c cs
      -- the token ends where the beginning ends
      have hstop := hcovers.stop_getLast _ (by rw [List.getLast?_concat]; rfl)
      have hstop : pos + byteLength w + byteLength (c :: cs.take (scan c cs).2) = pos + byteLength u := hstop
      rw [hn, Nat.add_assoc, ← byteLength_append] at hstop
      have hcut : u ++ v = w ++ c :: cs.take n ++ cs.drop n := by
        rw [hparts, List.append_assoc, List.cons_append, List.take_append_drop]
      obtain ⟨rfl, rfl⟩ := eq_of_append_eq hcut (Nat.add_left_cancel hstop).symm
      have hlt : n < cs.length := by
        rwa [ne_eq, List.drop_eq_nil_iff, Nat.not_le] at hv
      intro e he
      rw [List.getLast?_append, List.getLast?_cons] at he
      obtain rfl := Option.some.inj he
      cases hend : (cs.take n).getLast? with
      | none => exact not_blank_of_scan ht
      | some e => exact hscan.last_not_blank ht hlt e hend

end RSource.Token
