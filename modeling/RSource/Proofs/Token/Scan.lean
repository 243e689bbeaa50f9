import RSource.Token.Scan

/-!
# The rules for the first token

`Scans c cs k n` lists the rules by which the first token of `c :: cs` gets its kind `k` and takes
`n` characters of `cs`, one rule for each class of first characters. `scan` follows exactly these
rules (`scans_scan`, `Scans.scan_eq`), so facts about the first token are proved rule by rule.
-/

namespace RSource.Token
open Text

/-! ### The rules -/

/-- The character starts no white space, comment or quoted text. -/
structure Bare (c : Char) : Prop where
  newline : c ≠ '\n'
  carriage : c ≠ '\r'
  blank : ¬ isInlineBlank c = true
  hash : c ≠ '#'
  quote : ¬ (c = '"' ∨ c = '\'')
  backtick : c ≠ '\x60'

/-- The characters that are tokens by themselves. -/
def singles : List (Char × Kind) :=
  [('(', .openParen), ('\x7b', .openBrace), ('[', .openBracket), (')', .closeParen),
    ('\x7d', .closeBrace), (']', .closeBracket), (',', .comma)]

/-- The character starts an operator from the table, or no token at all. -/
structure Symbolic (c : Char) : Prop extends Bare c where
  digit : ¬ isDigit c = true
  name : ¬ isNameStart c = true
  single : c ∉ singles.map Prod.fst
  percent : c ≠ '%'

def isPercentInner (d : Char) : Bool :=
  d != '%' && d != '\n'

def isCommentInner (d : Char) : Bool :=
  d != '\n' && d != '\r'

def operatorOf? (cs : Text) : Option String :=
  operators.find? fun op => op.toList.isPrefixOf cs

/-- The first token of `c :: cs` has kind `k` and takes `n` characters of `cs`. -/
inductive Scans : Char → Text → Kind → Nat → Prop
  | newline {cs : Text} : Scans '\n' cs .newline 0
  | returnNewline {cs : Text} : Scans '\r' ('\n' :: cs) .newline 1
  | carriage {cs : Text} (h : cs.head? ≠ some '\n') :
    Scans '\r' cs .whitespace (runLength isInlineBlank cs)
  | blank {c : Char} {cs : Text} (h : isInlineBlank c = true) :
    Scans c cs .whitespace (runLength isInlineBlank cs)
  | comment {cs : Text} : Scans '#' cs .comment (runLength isCommentInner cs)
  | string {c : Char} {cs : Text} (h : c = '"' ∨ c = '\'') : Scans c cs .string (quotedLength c cs)
  | quotedName {cs : Text} : Scans '\x60' cs .identifier (quotedLength '\x60' cs)
  | number {c : Char} {cs : Text} (hc : Bare c)
    (h : isDigit c = true ∨ (c = '.' ∧ cs.head?.any isDigit = true)) :
    Scans c cs .number (numberLength c cs)
  | raw {c : Char} {cs : Text} {n : Nat} (h : c = 'r' ∨ c = 'R') (hn : rawLength? cs = some n) :
    Scans c cs .string n
  | name {c : Char} {cs : Text} (hc : Bare c) (hd : ¬ isDigit c = true)
    (hp : ¬ (c = '.' ∧ cs.head?.any isDigit = true)) (h : isNameStart c = true)
    (hr : c = 'r' ∨ c = 'R' → rawLength? cs = none) :
    Scans c cs (nameKind (c :: cs.take (runLength isNameContinue cs))) (runLength isNameContinue cs)
  | single {c : Char} {cs : Text} {k : Kind} (h : (c, k) ∈ singles) : Scans c cs k 0
  | percent {cs : Text} (h : (cs.drop (runLength isPercentInner cs)).head? = some '%') :
    Scans '%' cs .operator (runLength isPercentInner cs + 1)
  | lonePercent {cs : Text} (h : (cs.drop (runLength isPercentInner cs)).head? ≠ some '%') :
    Scans '%' cs .unknown 0
  | operator {c : Char} {cs : Text} {op : String} (hc : Symbolic c)
    (h : operatorOf? (c :: cs) = some op) : Scans c cs .operator (op.length - 1)
  | unknown {c : Char} {cs : Text} (hc : Symbolic c) (h : operatorOf? (c :: cs) = none) :
    Scans c cs .unknown 0

variable {c : Char} {k : Kind} {n : Nat} {u v w cs : Text}

theorem scan_symbolic (hc : Symbolic c) (cs : Text) :
    scan c cs = match operatorOf? (c :: cs) with
      | some op => (.operator, op.length - 1)
      | none => (.unknown, 0) := by
  have hs := hc.single
  simp only [singles, List.map_cons, List.map_nil, List.mem_cons, List.not_mem_nil, or_false, not_or] at hs
  obtain ⟨h1, h2, h3, h4, h5, h6, h7⟩ := hs
  have hp : ¬ (c = '.' ∧ cs.head?.any isDigit = true) := by
    rintro ⟨rfl, -⟩
    exact hc.name (by decide +kernel)
  unfold scan
  rw [if_neg hc.newline, if_neg hc.carriage, if_neg hc.blank, if_neg hc.hash, if_neg hc.quote,
    if_neg hc.backtick, if_neg hc.digit, if_neg hp, if_neg hc.name, if_neg h1, if_neg h2, if_neg h3,
    if_neg h4, if_neg h5, if_neg h6, if_neg h7, if_neg hc.percent]
  rfl

theorem scan_percent (cs : Text) :
    scan '%' cs = match cs.drop (runLength isPercentInner cs) with
      | '%' :: _ => (.operator, runLength isPercentInner cs + 1)
      | _ => (.unknown, 0) := by
  rfl

theorem scan_carriage (cs : Text) :
    scan '\r' cs = match cs with
      | '\n' :: _ => (.newline, 1)
      | _ => (.whitespace, runLength isInlineBlank cs) := by
  rfl

theorem Scans.scan_eq (h : Scans c cs k n) : scan c cs = (k, n) := by
  cases h with
  | newline => rfl
  | returnNewline => rfl
  | carriage h =>
    rw [scan_carriage]
    split
    · exact absurd rfl h
    · rfl
  | blank h =>
    have h1 : c ≠ '\n' := fun e => by subst e; exact absurd h (by decide)
    have h2 : c ≠ '\r' := fun e => by subst e; exact absurd h (by decide)
    unfold scan
    rw [if_neg h1, if_neg h2, if_pos h]
  | comment => rfl
  | string h => rcases h with rfl | rfl <;> rfl
  | quotedName => rfl
  | number hc h =>
    unfold scan
    rw [if_neg hc.newline, if_neg hc.carriage, if_neg hc.blank, if_neg hc.hash, if_neg hc.quote,
      if_neg hc.backtick]
    by_cases hd : isDigit c = true
    · rw [if_pos hd]
    · rw [if_neg hd, if_pos (h.resolve_left hd)]
  | raw h hn =>
    have hsome : (if c = 'r' ∨ c = 'R' then rawLength? cs else none) = some n := by rw [if_pos h, hn]
    have hc : Bare c := by rcases h with rfl | rfl <;> constructor <;> decide
    unfold scan
    rw [if_neg hc.newline, if_neg hc.carriage, if_neg hc.blank, if_neg hc.hash, if_neg hc.quote,
      if_neg hc.backtick, hsome]
    rcases h with rfl | rfl <;> rfl
  | name hc hd hp h hr =>
    have hnone : (if c = 'r' ∨ c = 'R' then rawLength? cs else none) = none := by
      split
      · exact hr ‹_›
      · rfl
    unfold scan
    rw [if_neg hc.newline, if_neg hc.carriage, if_neg hc.blank, if_neg hc.hash, if_neg hc.quote,
      if_neg hc.backtick, if_neg hd, if_neg hp, if_pos h, hnone]
  | single h =>
    simp only [singles, List.mem_cons, List.not_mem_nil, or_false, Prod.mk.injEq] at h
    rcases h with ⟨rfl, rfl⟩ | ⟨rfl, rfl⟩ | ⟨rfl, rfl⟩ | ⟨rfl, rfl⟩ | ⟨rfl, rfl⟩ | ⟨rfl, rfl⟩ | ⟨rfl, rfl⟩ <;> rfl
  | percent h =>
    rw [scan_percent]
    split
    · rfl
    · rename_i hne
      obtain ⟨r, hr⟩ := List.head?_eq_some_iff.1 h
      exact absurd hr (hne r)
  | lonePercent h =>
    rw [scan_percent]
    split
    · rename_i hd
      rw [hd] at h
      exact absurd rfl h
    · rfl
  | operator hc h => rw [scan_symbolic hc, h]
  | unknown hc h => rw [scan_symbolic hc, h]

theorem exists_scans (c : Char) (cs : Text) : ∃ k n, Scans c cs k n := by
  by_cases h1 : c = '\n'
  · subst h1; exact ⟨_, _, .newline⟩
  by_cases h2 : c = '\r'
  · subst h2
    by_cases h : cs.head? = some '\n'
    · obtain ⟨r, rfl⟩ := List.head?_eq_some_iff.1 h
      exact ⟨_, _, .returnNewline⟩
    · exact ⟨_, _, .carriage h⟩
  by_cases h3 : isInlineBlank c = true
  · exact ⟨_, _, .blank h3⟩
  by_cases h4 : c = '#'
  · subst h4; exact ⟨_, _, .comment⟩
  by_cases h5 : c = '"' ∨ c = '\''
  · exact ⟨_, _, .string h5⟩
  by_cases h6 : c = '\x60'
  · subst h6; exact ⟨_, _, .quotedName⟩
  have hc : Bare c := ⟨h1, h2, h3, h4, h5, h6⟩
  by_cases hd : isDigit c = true
  · exact ⟨_, _, .number hc (.inl hd)⟩
  by_cases hp : c = '.' ∧ cs.head?.any isDigit = true
  · exact ⟨_, _, .number hc (.inr hp)⟩
  by_cases hn : isNameStart c = true
  · by_cases hr : c = 'r' ∨ c = 'R'
    · cases hl : rawLength? cs with
      | some n => exact ⟨_, _, .raw hr hl⟩
      | none => exact ⟨_, _, .name hc hd hp hn fun _ => hl⟩
    · exact ⟨_, _, .name hc hd hp hn fun h => absurd h hr⟩
  by_cases hs : c ∈ singles.map Prod.fst
  · obtain ⟨⟨_, k⟩, hk, rfl⟩ := List.mem_map.1 hs
    exact ⟨_, _, .single hk⟩
  by_cases hm : c = '%'
  · subst hm
    by_cases h : (cs.drop (runLength isPercentInner cs)).head? = some '%'
    · exact ⟨_, _, .percent h⟩
    · exact ⟨_, _, .lonePercent h⟩
  have hc : Symbolic c := ⟨hc, hd, hn, hs, hm⟩
  cases ho : operatorOf? (c :: cs) with
  | some op => exact ⟨_, _, .operator hc ho⟩
  | none => exact ⟨_, _, .unknown hc ho⟩

theorem scans_scan (c : Char) (cs : Text) : Scans c cs (scan c cs).1 (scan c cs).2 := by
  obtain ⟨k, n, h⟩ := exists_scans c cs
  rw [h.scan_eq]
  exact h

end RSource.Token
