import Mathlib.Data.List.TakeWhile
import RSource.Proofs.Token.Lookahead
import RSource.Proofs.Token.Stream

/-!
# Words that delimiters set apart

A plain name and an operator are recognised as they stand when a delimiter or the end of the text comes behind
them (`isWord_name`, `isWord_operator`): no rule of the lexer takes them for part of something longer. A plain
name is what the lexer takes for one name without quotes (`isPlainName_of_isUnquotedName`).
-/

namespace RSource.Token
open Text

variable {c : Char} {cs u v w : Text} {k : Kind} {pos : Nat}

/-- The text is a plain name: it starts with a letter, a dot or an underscore, goes on with letters, digits,
dots and underscores, is no reserved word and does not start a number as `.5` does. -/
def IsPlainName : Text → Prop
  | [] => False
  | c :: cs => isNameStart c = true ∧ (∀ d ∈ cs, isNameContinue d = true) ∧
      ¬ (c = '.' ∧ cs.head?.any isDigit = true) ∧ isKeyword (String.ofList (c :: cs)) = false

instance : DecidablePred IsPlainName
  | [] => inferInstanceAs (Decidable False)
  | _ :: cs =>
    -- over the characters of the text, not over all there are
    have : Decidable (∀ d ∈ cs, isNameContinue d = true) := List.decidableBAll _ cs
    inferInstanceAs (Decidable (_ ∧ _))

/-- The text is one name to the lexer, and no quoted one. -/
def IsUnquotedName (w : Text) : Prop :=
  (tokenizeAll w).map (·.kind) = [.identifier, .endOfStream] ∧ w.head? ≠ some '\x60'

instance : DecidablePred IsUnquotedName :=
  fun _ => inferInstanceAs (Decidable (_ ∧ _))

/-- The text is an operator: one of the fixed ones, or `%...%` with any characters in between but `%` and a
line break. -/
def IsOperator (w : Text) : Prop :=
  (∃ op ∈ operators, w = op.toList) ∨
    ∃ inner, w = '%' :: (inner ++ ['%']) ∧ ∀ d ∈ inner, isPercentInner d = true

/-- The text is one token of the kind `k` wherever the text ends or a delimiter comes behind it. -/
def IsWord (k : Kind) (w : Text) : Prop :=
  ∃ c cs, w = c :: cs ∧ isInlineBlank c = false ∧ ∀ v, IsApart v → scan c (cs ++ v) = (k, cs.length)

/-! ### Classes of characters -/

theorem isNameStart_of_mem_blanks (h : c ∈ blanks) : isNameStart c = false := by
  have hall : blanks.all fun d => isNameStart d = false := by decide +kernel
  exact of_decide_eq_true (List.all_eq_true.1 hall c h)

theorem isInlineBlank_of_isNameStart (h : isNameStart c = true) : isInlineBlank c = false := by
  rw [Bool.eq_false_iff]
  intro hblank
  simp only [isInlineBlank, Bool.and_eq_true] at hblank
  rw [isNameStart_of_mem_blanks (mem_blanks hblank.2)] at h
  cases h

theorem isNameStart_of_code : ∀ i < 10, Unicode.alphabetic.containsCode ('0'.toNat + i) = false := by
  decide +kernel

theorem isDigit_of_isNameStart (h : isNameStart c = true) : ¬ isDigit c = true := by
  intro hdigit
  simp only [isDigit, Bool.and_eq_true, decide_eq_true_eq, Char.le_def, UInt32.le_iff_toNat_le] at hdigit
  have hlo : '0'.toNat ≤ c.toNat := hdigit.1
  have hhi : c.toNat ≤ '9'.toNat := hdigit.2
  have hletter := isNameStart_of_code (c.toNat - '0'.toNat) (by
    have : '9'.toNat = '0'.toNat + 9 := rfl
    omega)
  rw [Nat.add_sub_cancel' hlo] at hletter
  have hdot : c ≠ '.' := by
    rintro rfl
    exact absurd hlo (by decide)
  have hunderscore : c ≠ '_' := by
    rintro rfl
    exact absurd hhi (by decide)
  have hletter : isAlphabetic c = false := hletter
  simp [isNameStart, hletter, hdot, hunderscore] at h

theorem bare_of_isNameStart (h : isNameStart c = true) : Bare c := by
  have hother : ['\n', '\r', '#', '"', '\'', '\x60'].all fun d => isNameStart d = false := by decide +kernel
  have hne : ∀ d ∈ ['\n', '\r', '#', '"', '\'', '\x60'], c ≠ d := by
    rintro d hd rfl
    rw [of_decide_eq_true (List.all_eq_true.1 hother c hd)] at h
    cases h
  refine ⟨hne _ (by decide), hne _ (by decide), by simp [isInlineBlank_of_isNameStart h], hne _ (by decide), ?_,
    hne _ (by decide)⟩
  rintro (hc | hc)
  · exact hne _ (by decide) hc
  · exact hne _ (by decide) hc

/-! ### Names -/

/-- A run of characters ends where a text goes on with another one. -/
theorem runLength_append {p : Char → Bool} (hu : ∀ d ∈ u, p d = true) (hv : ∀ d ∈ v.head?, p d = false) :
    runLength p (u ++ v) = u.length := by
  unfold runLength
  rw [List.takeWhile_append_of_pos hu]
  cases v with
  | nil => simp
  | cons d v => simp [hv d rfl]

/-- The characters behind which a name goes no further and starts nothing else. -/
def nameEnds : List Char :=
  '(' :: delimiters

theorem not_name_of_mem_nameEnds (h : c ∈ nameEnds) :
    isNameContinue c = false ∧ isDigit c = false ∧ ¬ (c = '"' ∨ c = '\'') := by
  have hall : nameEnds.all fun d => isNameContinue d = false ∧ isDigit d = false ∧ ¬ (d = '"' ∨ d = '\'') := by
    decide +kernel
  exact of_decide_eq_true (List.all_eq_true.1 hall c h)

/-- No raw string starts behind an `r` that is part of a name. -/
theorem rawLength?_of_name (hcs : ∀ d ∈ cs, isNameContinue d = true) (hv : ∀ d ∈ v.head?, d ∈ nameEnds) :
    rawLength? (cs ++ v) = none := by
  have hquote : ∀ d ∈ (cs ++ v).head?, ¬ (d = '"' ∨ d = '\'') := by
    rintro d hd hquote
    cases cs with
    | nil => exact (not_name_of_mem_nameEnds (hv d hd)).2.2 hquote
    | cons e cs =>
      obtain rfl : e = d := Option.some.inj hd
      have hname := hcs e List.mem_cons_self
      rcases hquote with rfl | rfl
      · exact absurd hname (by decide +kernel)
      · exact absurd hname (by decide +kernel)
  cases hall : cs ++ v with
  | nil => rfl
  | cons d ds =>
    rw [rawLength?, if_neg (hquote d (by rw [hall]; rfl))]

/-- A name, or a reserved word, is read as it stands. -/
theorem scan_name (hstart : isNameStart c = true) (hcs : ∀ d ∈ cs, isNameContinue d = true)
    (hnumber : ¬ (c = '.' ∧ cs.head?.any isDigit = true)) (hv : ∀ d ∈ v.head?, d ∈ nameEnds) :
    scan c (cs ++ v) = (nameKind (c :: cs), cs.length) := by
  have hlength : runLength isNameContinue (cs ++ v) = cs.length :=
    runLength_append hcs fun d hd => (not_name_of_mem_nameEnds (hv d hd)).1
  have hnumber' : ¬ (c = '.' ∧ (cs ++ v).head?.any isDigit = true) := by
    rintro ⟨hc, hany⟩
    obtain ⟨d, hd, hdigit⟩ := (Option.any_eq_true ..).1 hany
    cases cs with
    | nil =>
      rw [(not_name_of_mem_nameEnds (hv d hd)).2.1] at hdigit
      cases hdigit
    | cons e cs =>
      obtain rfl : e = d := Option.some.inj hd
      exact hnumber ⟨hc, by simpa using hdigit⟩
  have hscans := Scans.name (bare_of_isNameStart hstart) (isDigit_of_isNameStart hstart) hnumber' hstart
    fun _ => rawLength?_of_name hcs hv
  rw [hscans.scan_eq, hlength, List.take_left]

theorem scan_keyword {word : String} (hword : word ∈ keywords) (hc : word.toList = c :: cs)
    (hv : ∀ d ∈ v.head?, d ∈ nameEnds) : scan c (cs ++ v) = (.keyword, cs.length) := by
  have hletters : ∀ word ∈ keywords, word.toList.head?.all isNameStart = true ∧
      word.toList.all isNameContinue = true ∧ word.toList.head? ≠ some '.' := by
    decide +kernel
  obtain ⟨hstart, hall, hdot⟩ := hletters word hword
  rw [hc] at hstart hall hdot
  have hkind : nameKind (c :: cs) = .keyword := by
    rw [nameKind, ← hc, String.ofList_toList]
    exact if_pos (List.contains_iff_mem.2 hword)
  rw [← hkind]
  refine scan_name hstart (fun d hd => List.all_eq_true.1 hall d (List.mem_cons_of_mem _ hd)) ?_ hv
  rintro ⟨rfl, -⟩
  exact hdot rfl

theorem isWord_name (h : IsPlainName w) : IsWord .identifier w := by
  cases w with
  | nil => exact h.elim
  | cons c cs =>
    obtain ⟨hstart, hcs, hnumber, hkeyword⟩ := h
    refine ⟨c, cs, rfl, isInlineBlank_of_isNameStart hstart, fun v hv => ?_⟩
    rw [scan_name hstart hcs hnumber fun d hd => List.mem_cons_of_mem _ (hv d hd), nameKind, hkeyword]
    rfl

theorem scans_of_isUnquotedName (h : IsUnquotedName (c :: cs)) : Scans c cs .identifier cs.length := by
  have htokens := h.1
  rw [tokenizeAll_eq, tokensFrom_cons, List.cons_append, List.map_cons] at htokens
  obtain ⟨hkind, hrest⟩ := List.cons.inj htokens
  have hkind : (scan c cs).1 = .identifier := hkind
  have hlength : cs.length ≤ (scan c cs).2 := by
    rw [← List.drop_eq_nil_iff]
    cases hdrop : cs.drop (scan c cs).2 with
    | nil => rfl
    | cons d ds =>
      rw [hdrop, tokensFrom_cons] at hrest
      simp at hrest
  have hscans := scans_scan c cs
  rw [hkind, Nat.le_antisymm hscans.le hlength] at hscans
  exact hscans

/-- What the lexer takes for one name without quotes is a plain name. -/
theorem isPlainName_of_isUnquotedName (h : IsUnquotedName w) : IsPlainName w := by
  cases w with
  | nil =>
    have htokens := h.1
    rw [tokenizeAll_eq, tokensFrom_nil] at htokens
    cases htokens
  | cons c cs =>
    have hscans := scans_of_isUnquotedName h
    generalize hk : Kind.identifier = k at hscans
    generalize hn : cs.length = n at hscans
    cases hscans with
    | quotedName => exact absurd rfl h.2
    | name hc hd hp hstart hr =>
      have hcs : cs.takeWhile isNameContinue = cs := (List.takeWhile_sublist _).eq_of_length hn.symm
      rw [← hn, List.take_length, nameKind] at hk
      refine ⟨hstart, List.takeWhile_eq_self_iff.1 hcs, hp, ?_⟩
      by_contra hkeyword
      rw [if_pos (by simpa using hkeyword)] at hk
      cases hk
    | single hs =>
      have hother : ∀ p ∈ singles, p.2 ≠ .identifier := by decide
      exact absurd hk.symm (hother _ hs)
    | _ => cases hk

/-! ### Operators -/

/-- Every operator of the table comes before the operators that it starts with. -/
theorem operatorOf?_operator : ∀ op ∈ operators, operatorOf? op.toList = some op := by
  decide +kernel

/-- The first character of an operator of the table starts nothing else. -/
theorem symbolic_of_operator {op : String} (hop : op ∈ operators) (hc : c ∈ op.toList.head?) : Symbolic c := by
  have hbare : ∀ op ∈ operators, op.toList.head?.all fun c =>
      c ≠ '\n' ∧ c ≠ '\r' ∧ ¬ isInlineBlank c = true ∧ c ≠ '#' ∧ ¬ (c = '"' ∨ c = '\'') ∧ c ≠ '\x60' := by decide +kernel
  have hplain : ∀ op ∈ operators, op.toList.head?.all fun c =>
      ¬ isDigit c = true ∧ ¬ isNameStart c = true ∧ c ∉ singles.map Prod.fst ∧ c ≠ '%' := by decide +kernel
  obtain ⟨hnewline, hcarriage, hblank, hhash, hquote, hbacktick⟩ :=
    of_decide_eq_true ((Option.all_eq_true _ _).1 (hbare op hop) c hc)
  obtain ⟨hdigit, hname, hsingle, hpercent⟩ :=
    of_decide_eq_true ((Option.all_eq_true _ _).1 (hplain op hop) c hc)
  exact ⟨⟨hnewline, hcarriage, hblank, hhash, hquote, hbacktick⟩, hdigit, hname, hsingle, hpercent⟩

theorem isWord_operator (h : IsOperator w) : IsWord .operator w := by
  rcases h with ⟨op, hop, rfl⟩ | ⟨inner, rfl, hinner⟩
  · have hfirst : op.toList ≠ [] := fun hnil => absurd hop (by
      rw [show op = "" from String.toList_injective hnil]
      decide)
    obtain ⟨c, cs, hcs⟩ := List.exists_cons_of_ne_nil hfirst
    have hc : Symbolic c := symbolic_of_operator hop (by rw [hcs]; rfl)
    refine ⟨c, cs, hcs, by simpa using hc.blank, fun v hv => ?_⟩
    have hfound : operatorOf? (c :: (cs ++ v)) = some op := by
      rw [← List.cons_append, ← hcs, operatorOf?_append _ hv, operatorOf?_operator op hop]
    rw [(Scans.operator hc hfound).scan_eq, ← String.length_toList, hcs]
    rfl
  · refine ⟨'%', inner ++ ['%'], rfl, by decide, fun v hv => ?_⟩
    have hlength : runLength isPercentInner (inner ++ ['%'] ++ v) = inner.length := by
      rw [List.append_assoc]
      exact runLength_append hinner (by simp [isPercentInner])
    have hclosed : ((inner ++ ['%'] ++ v).drop (runLength isPercentInner (inner ++ ['%'] ++ v))).head? =
        some '%' := by
      rw [hlength, List.append_assoc, List.drop_left]
      rfl
    rw [(Scans.percent hclosed).scan_eq, hlength, List.length_append]
    rfl

end RSource.Token
