import RSource.Proofs.Text.Slice
import RSource.Proofs.Token.Barrier

/-!
# Tokens cut out of their text

A token looks beyond its own end, but what it sees there only tells it to end. So a token that lies in the
beginning of a text is the first token of that beginning (`Scans.cut`), and the text of a token, read alone,
is that token (`tokenizeAll_text`). The beginning may also go on with a delimiter instead of what it went on
with, unless the token is white space, which would take in more, or a lone `%`, which would find another one
to end with (`Scans.delimited`, `tokensFrom_delimited`).
-/

namespace RSource.Token
open Text

variable {c : Char} {k : Kind} {n pos : Nat} {u v w : Text} {xs ys : List Token} {p : Char → Bool}

/-! ### Measures -/

theorem runLength_cut (h : runLength p (u ++ v) ≤ u.length) : runLength p (u ++ v) = runLength p u := by
  have hhalts : Halts [] (runLength p) := halts_runLength (by simp)
  exact hhalts.cut u v h

theorem runLength_replace (h : runLength p (u ++ v) < u.length) (w : Text) :
    runLength p (u ++ w) = runLength p (u ++ v) := by
  have hu := runLength_cut (Nat.le_of_lt h)
  rw [hu] at h ⊢
  rw [runLength_append_eq, if_neg (Nat.ne_of_lt h)]

theorem quotedLength_cut {q : Char} (h : quotedLength q (u ++ v) ≤ u.length) :
    quotedLength q (u ++ v) = quotedLength q u := by
  cases v with
  | nil => rw [List.append_nil]
  | cons d v => rw [← quotedLength_congr [] h, List.append_nil]

/-- The digit behind the point that starts a number belongs to the number. -/
theorem numberLength_point_pos {d : Char} (hd : isDigit d = true) (u : Text) :
    0 < numberLength '.' (d :: u) := by
  have hrun : runLength isDigit (d :: u) = runLength isDigit u + 1 := by rw [runLength_cons, if_pos hd]
  have hhex : isHex '.' (d :: u) = false := rfl
  rw [numberLength_eq, numberBody, hhex]
  simp only [Bool.false_eq_true, if_false]
  rw [decimalLength_eq, hrun]
  omega

theorem ne_nil_of_point (hd : (u ++ v).head?.any isDigit = true) (hn : numberLength '.' (u ++ v) ≤ u.length) :
    u ≠ [] := by
  rintro rfl
  obtain ⟨d, hhead, hd⟩ := (Option.any_eq_true ..).1 hd
  obtain ⟨v, rfl⟩ := List.head?_eq_some_iff.1 hhead
  exact absurd (numberLength_point_pos hd v) (Nat.not_lt.2 hn)

theorem operatorOf?_cut {op : String} (h : operatorOf? (u ++ v) = some op) (hn : op.length ≤ u.length) :
    operatorOf? u = some op := by
  obtain ⟨hop, before, behind, hoperators, hbefore⟩ := List.find?_eq_some_iff_append.1 h
  refine List.find?_eq_some_iff_append.2 ⟨?_, before, behind, hoperators, fun op' hop' => ?_⟩
  · rw [← String.length_toList] at hn
    rwa [isPrefixOf_append_of_le hn v [], List.append_nil] at hop
  · have hnot := hbefore op' hop'
    simp only [Bool.not_eq_eq_eq_not, Bool.not_true, ← Bool.not_eq_true, List.isPrefixOf_iff_prefix] at hnot ⊢
    exact fun hbegins => hnot (hbegins.trans (List.prefix_append u v))

theorem operatorOf?_none_cut (h : operatorOf? (u ++ v) = none) : operatorOf? u = none := by
  refine List.find?_eq_none.2 fun op hop hbegins => ?_
  refine List.find?_eq_none.1 h op hop ?_
  rw [List.isPrefixOf_iff_prefix] at hbegins ⊢
  exact hbegins.trans (List.prefix_append u v)

/-! ### The first token of a beginning -/

/-- A token that lies in the beginning of a text is the first token of the beginning. -/
theorem Scans.cut (h : Scans c (u ++ v) k n) (hn : n ≤ u.length) : Scans c u k n := by
  rcases List.eq_nil_or_concat v with rfl | ⟨_, _, hv⟩
  · rwa [List.append_nil] at h
  have hv : v ≠ [] := by simp [hv]
  have hraw := rawLength?_replace (u := u) (w := []) hv (by simp [IsApart])
  rw [List.append_nil] at hraw
  generalize hcs : u ++ v = cs at h
  cases h with
  | newline => exact .newline
  | returnNewline =>
    cases u with
    | nil => exact absurd hn (by simp)
    | cons d u =>
      obtain ⟨rfl, -⟩ := List.cons.inj hcs
      exact .returnNewline
  | carriage h =>
    subst hcs
    rw [runLength_cut hn]
    refine .carriage fun hu => h ?_
    rw [List.head?_append, hu]
    rfl
  | blank h =>
    subst hcs
    rw [runLength_cut hn]
    exact .blank h
  | comment =>
    subst hcs
    rw [runLength_cut hn]
    exact .comment
  | string h =>
    subst hcs
    rw [quotedLength_cut hn]
    exact .string h
  | quotedName =>
    subst hcs
    rw [quotedLength_cut hn]
    exact .quotedName
  | number hc h =>
    subst hcs
    have hpoint : isDigit c = true ∨ (c = '.' ∧ u.head?.any isDigit = true) := by
      refine h.imp_right fun ⟨hc, hd⟩ => ⟨hc, ?_⟩
      subst hc
      rwa [List.head?_append_of_ne_nil _ (ne_nil_of_point hd hn)] at hd
    rw [(halts_numberLength c).cut u v hn]
    exact .number hc hpoint
  | raw h hr =>
    subst hcs
    refine .raw h ?_
    rw [hraw fun m hm => by rw [hr] at hm; cases hm; exact hn, hr]
  | name hc hd hp h hr =>
    subst hcs
    have hp' : ¬ (c = '.' ∧ u.head?.any isDigit = true) := by
      rintro ⟨hc, hd⟩
      refine hp ⟨hc, ?_⟩
      cases u with
      | nil => cases hd
      | cons d u => exact hd
    have hrun := runLength_cut hn
    rw [hrun] at hn ⊢
    rw [List.take_append_of_le_length hn]
    refine .name hc hd hp' h fun hc => ?_
    rw [hraw fun m hm => by rw [hr hc] at hm; exact nomatch hm]
    exact hr hc
  | single h => exact .single h
  | percent h =>
    subst hcs
    have hrun : runLength isPercentInner (u ++ v) = runLength isPercentInner u := runLength_cut (by omega)
    rw [hrun] at h hn ⊢
    rw [List.drop_append_of_le_length (by omega), List.head?_append_of_ne_nil] at h
    · exact .percent h
    · rw [ne_eq, List.drop_eq_nil_iff]
      omega
  | lonePercent h =>
    subst hcs
    refine .lonePercent fun hclosed => h ?_
    -- a `%` in the beginning would be one in the text
    have hlt : runLength isPercentInner u < u.length := by
      rw [← Nat.not_le]
      intro hle
      rw [List.drop_eq_nil_of_le hle] at hclosed
      cases hclosed
    rw [runLength_append_eq, if_neg (Nat.ne_of_lt hlt), List.drop_append_of_le_length (Nat.le_of_lt hlt),
      List.head?_append, hclosed]
    rfl
  | operator hc h =>
    subst hcs
    have hlength := operatorOf?_length h
    exact .operator hc (operatorOf?_cut (u := c :: u) (v := v) h (by rw [List.length_cons]; omega))
  | unknown hc h =>
    subst hcs
    exact .unknown hc (operatorOf?_none_cut (u := c :: u) h)

/-- A token that lies in the beginning of a longer text is still the first token when a delimiter comes behind
the beginning, unless it could take in more. -/
theorem Scans.delimited (h : Scans c (u ++ v) k n) (hn : n ≤ u.length) (hv : v ≠ []) (hw : IsApart w)
    (hk : k ≠ .unknown) (htrivia : k.isTrivia = true → n < u.length) : Scans c (u ++ w) k n := by
  have hquoted : ∀ q, quotedLength q (u ++ v) ≤ u.length → quotedLength q (u ++ w) = quotedLength q (u ++ v) := by
    obtain ⟨d, v, rfl⟩ := List.exists_cons_of_ne_nil hv
    exact fun q => quotedLength_congr w
  have hhead : u ≠ [] → (u ++ w).head? = (u ++ v).head? := by
    intro hu
    rw [List.head?_append_of_ne_nil _ hu, List.head?_append_of_ne_nil _ hu]
  generalize hcs : u ++ v = cs at h
  cases h with
  | newline => exact .newline
  | returnNewline =>
    cases u with
    | nil => exact absurd hn (by simp)
    | cons d u =>
      obtain ⟨rfl, -⟩ := List.cons.inj hcs
      exact .returnNewline
  | carriage h =>
    subst hcs
    have hlt := htrivia rfl
    rw [← runLength_replace hlt w]
    refine .carriage ?_
    rwa [hhead (List.ne_nil_of_length_pos (by omega))]
  | blank h =>
    subst hcs
    rw [← runLength_replace (htrivia rfl) w]
    exact .blank h
  | comment =>
    subst hcs
    rw [← runLength_replace (htrivia rfl) w]
    exact .comment
  | string h =>
    subst hcs
    rw [← hquoted c hn]
    exact .string h
  | quotedName =>
    subst hcs
    rw [← hquoted _ hn]
    exact .quotedName
  | number hc h =>
    subst hcs
    have hpoint : isDigit c = true ∨ (c = '.' ∧ (u ++ w).head?.any isDigit = true) := by
      refine h.imp_right fun ⟨hc, hd⟩ => ⟨hc, ?_⟩
      subst hc
      rwa [hhead (ne_nil_of_point hd hn)]
    rw [(halts_numberLength c).cut u v hn, ← (halts_numberLength c).halt u w hw]
    exact .number hc hpoint
  | raw h hr =>
    subst hcs
    refine .raw h ?_
    rw [rawLength?_replace hv hw fun m hm => by rw [hr] at hm; cases hm; exact hn, hr]
  | name hc hd hp h hr =>
    subst hcs
    have hp' : ¬ (c = '.' ∧ (u ++ w).head?.any isDigit = true) := by
      rintro ⟨hc, hd⟩
      rcases List.eq_nil_or_concat u with rfl | ⟨_, _, hu⟩
      · obtain ⟨d, hmem, hd⟩ := (Option.any_eq_true ..).1 hd
        rw [(inert_of_mem_delimiters (hw d hmem)).digit] at hd
        cases hd
      · exact hp ⟨hc, by rwa [← hhead (by simp [hu])]⟩
    have htake : ∀ x, (u ++ x).take (runLength isNameContinue u) = u.take (runLength isNameContinue u) :=
      fun x => List.take_append_of_le_length (halts_name.le u)
    have hscans := @Scans.name c (u ++ w) hc hd hp' h fun hc => by
      rw [rawLength?_replace hv hw fun m hm => by rw [hr hc] at hm; exact nomatch hm]
      exact hr hc
    rw [halts_name.halt u w hw, htake] at hscans
    rw [halts_name.cut u v hn, htake]
    exact hscans
  | single h => exact .single h
  | percent h =>
    subst hcs
    have hlt : runLength isPercentInner (u ++ v) < u.length := by omega
    have hrun := runLength_replace hlt w
    have hne : u.drop (runLength isPercentInner (u ++ v)) ≠ [] := by
      rw [ne_eq, List.drop_eq_nil_iff]
      omega
    rw [← hrun]
    refine .percent ?_
    rw [hrun, List.drop_append_of_le_length (Nat.le_of_lt hlt), List.head?_append_of_ne_nil _ hne]
    rwa [List.drop_append_of_le_length (Nat.le_of_lt hlt), List.head?_append_of_ne_nil _ hne] at h
  | lonePercent h => exact absurd rfl hk
  | operator hc h =>
    subst hcs
    have hlength := operatorOf?_length h
    have hcut := operatorOf?_cut (u := c :: u) (v := v) h (by rw [List.length_cons]; omega)
    refine .operator hc ?_
    rw [← List.cons_append, operatorOf?_append _ hw, hcut]
  | unknown hc h => exact absurd rfl hk

/-! ### Streams -/

theorem le_length_of_byteLength_take (h : byteLength ((u ++ v).take n) ≤ byteLength u)
    (hn : n ≤ (u ++ v).length) : n ≤ u.length := by
  by_contra hlt
  have hsplit : (u ++ v).take n = u ++ v.take (n - u.length) := by
    rw [List.take_append, List.take_of_length_le (by omega)]
  rw [hsplit, byteLength_append] at h
  have hnil := congrArg List.length
    (eq_nil_of_byteLength (show byteLength (v.take (n - u.length)) = 0 by omega))
  rw [List.length_append] at hn
  rw [List.length_take, List.length_nil] at hnil
  omega

/-- The tokens of a beginning that ends between two tokens are those of the beginning with any delimiter behind
it, if the last of them is not white space and all are known. -/
theorem tokensFrom_delimited (h : tokensFrom pos (u ++ v) = xs ++ ys)
    (hcovers : Covers pos xs (pos + byteLength u)) (hv : v ≠ []) (hw : IsApart w)
    (hknown : ∀ x ∈ xs, x.kind ≠ .unknown) (hlast : ∀ x ∈ xs.getLast?, x.kind.isTrivia = false) :
    tokensFrom pos (u ++ w) = xs ++ tokensFrom (pos + byteLength u) w := by
  induction xs generalizing pos u with
  | nil =>
    have hpos : pos = pos + byteLength u := hcovers
    obtain rfl : u = [] := eq_nil_of_byteLength (by omega)
    rfl
  | cons x xs ih =>
    cases u with
    | nil => cases Covers.eq_nil hcovers
    | cons c cs =>
      have hstop := Covers.stop_le hcovers x List.mem_cons_self
      obtain ⟨-, -, hrest⟩ := hcovers
      rw [List.cons_append, tokensFrom_cons, List.cons_append] at h
      obtain ⟨rfl, htail⟩ := List.cons.inj h
      have hscan := scans_scan c (cs ++ v)
      generalize hn : (scan c (cs ++ v)).2 = n at hscan htail
      have hfirst : (first pos c (cs ++ v)).stop = pos + (c.utf8Size + byteLength ((cs ++ v).take n)) := by
        rw [← hn]
        rfl
      have hall : byteLength (c :: cs) = c.utf8Size + byteLength cs := rfl
      have hle : n ≤ cs.length := le_length_of_byteLength_take (by omega) hscan.le
      rw [List.take_append_of_le_length hle] at hfirst
      have hlt : (scan c (cs ++ v)).1.isTrivia = true → n < cs.length := by
        intro htrivia
        refine Nat.lt_of_le_of_ne hle fun heq => ?_
        -- white space up to the end of the beginning would be the last token of it
        rw [heq, List.take_length, ← hall] at hfirst
        rw [hfirst] at hrest
        obtain rfl := hrest.eq_nil
        rw [show (scan c (cs ++ v)).1.isTrivia = false from hlast _ rfl] at htrivia
        cases htrivia
      have hscan' : scan c (cs ++ w) = scan c (cs ++ v) := by
        rw [(hscan.delimited hle hv hw (hknown _ List.mem_cons_self) hlt).scan_eq, ← hn]
      have hsame : first pos c (cs ++ w) = first pos c (cs ++ v) := by
        rw [first, first, hscan', hn, List.take_append_of_le_length hle, List.take_append_of_le_length hle]
      have hparts : (first pos c (cs ++ v)).stop + byteLength (cs.drop n) = pos + byteLength (c :: cs) := by
        have := byteLength_append (cs.take n) (cs.drop n)
        rw [List.take_append_drop] at this
        omega
      rw [List.drop_append_of_le_length hle] at htail
      rw [List.cons_append, tokensFrom_cons, hsame, hscan', hn, List.drop_append_of_le_length hle,
        ih htail (hparts ▸ hrest) (fun x hx => hknown x (List.mem_cons_of_mem _ hx)) ?_, hparts]
      · rfl
      · intro y hy
        refine hlast y ?_
        rw [List.getLast?_cons, Option.mem_def.1 hy]
        rfl

/-- The text of a token, read alone, is that token. -/
theorem tokenizeAll_text {source : Text} {t : Token} (ht : t ∈ tokenizeAll source)
    (hk : t.kind ≠ .endOfStream) :
    byteLength (t.text source) = t.length ∧
      tokenizeAll (t.text source) = [⟨t.kind, 0, t.length⟩, eos t.length] := by
  rw [tokenizeAll_eq, List.mem_append, List.mem_singleton] at ht
  rcases ht with ht | rfl
  · obtain ⟨xs, ys, hxs⟩ := List.append_of_mem ht
    obtain ⟨u, v, rfl, -, hv⟩ := tokensFrom_split hxs
    cases v with
    | nil => simp at hv
    | cons c cs =>
      rw [tokensFrom_cons, Nat.zero_add] at hv
      obtain ⟨rfl, -⟩ := List.cons.inj hv
      generalize hn : (scan c cs).2 = n
      have hle : n ≤ cs.length := hn ▸ (scans_scan c cs).le
      have htext : (first (byteLength u) c cs).text (u ++ c :: cs) = c :: cs.take n := by
        have hslice := slice?_append u (c :: cs.take n) (cs.drop n)
        rw [List.append_assoc, List.cons_append, List.take_append_drop] at hslice
        rw [Token.text, sliceD, Token.stop, first, hn, ← byteLength_append, hslice]
        rfl
      have hscan : Scans c (cs.take n ++ cs.drop n) (scan c cs).1 n := by
        rw [List.take_append_drop, ← hn]
        exact scans_scan c cs
      have hcut : scan c (cs.take (scan c cs).2 ++ []) = scan c cs := by
        rw [List.append_nil, hn, (hscan.cut (by rw [List.length_take]; omega)).scan_eq, ← hn]
      have halone : tokensFrom 0 (c :: cs.take (scan c cs).2 ++ []) = _ := tokensFrom_take_append hcut
      rw [List.append_nil, tokensFrom_nil, hn] at halone
      have hlength : (first (byteLength u) c cs).length = byteLength (c :: cs.take n) := by
        rw [← hn]
        rfl
      rw [htext, hlength, tokenizeAll_eq, halone, ← hlength]
      exact ⟨rfl, rfl⟩
  · exact absurd rfl hk

/-- The `1` before an exponent without digits, which is given up again. -/
theorem tokenizeAll_text_mantissa :
    (⟨.number, 1, 1⟩ : Token) ∈ tokenizeAll "-1e+x%".toList ∧
      (byteLength (Token.text ⟨.number, 1, 1⟩ "-1e+x%".toList) = 1 ∧
        tokenizeAll (Token.text ⟨.number, 1, 1⟩ "-1e+x%".toList) = [⟨.number, 0, 1⟩, eos 1]) := by
  have hmem : (⟨.number, 1, 1⟩ : Token) ∈ tokenizeAll "-1e+x%".toList := by decide +kernel
  exact ⟨hmem, tokenizeAll_text hmem (by decide)⟩

end RSource.Token
