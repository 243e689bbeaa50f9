import Mathlib.Data.List.Find
import RSource.Proofs.Token.Scan

/-!
# How far a token looks

A line break ends what a token can look at: if the token lies before a line break, the text behind
the line break has no part in it (`Scans.behind_newline`). Runs of characters, numbers and operators
take a line break for the end of the text (`LineBound`), and numbers, names and operators any other
delimiter too (`Halts`); a quoted text or a raw string that lies before it has found its end.
-/

namespace RSource.Token
open Text

variable {c : Char} {k : Kind} {n : Nat} {u v w cs : Text}

/-! ### Runs of characters -/

@[simp] theorem runLength_nil (p : Char → Bool) : runLength p [] = 0 := rfl

theorem runLength_cons (p : Char → Bool) (c : Char) (u : Text) :
    runLength p (c :: u) = if p c then runLength p u + 1 else 0 := by
  unfold runLength
  rw [List.takeWhile_cons]
  split <;> simp

theorem runLength_le (p : Char → Bool) (u : Text) : runLength p u ≤ u.length :=
  (List.takeWhile_sublist p).length_le

theorem runLength_append_eq (p : Char → Bool) (u v : Text) :
    runLength p (u ++ v) = if runLength p u = u.length then u.length + runLength p v else runLength p u := by
  unfold runLength
  rw [List.takeWhile_append]
  split
  · exact List.length_append
  · rfl

def blanks : List Char :=
  Unicode.whiteSpace.ranges.flatMap fun r => (List.range' r.1 (r.2 + 1 - r.1)).map Char.ofNat

theorem mem_blanks (h : isBlank c = true) : c ∈ blanks := by
  obtain ⟨r, hr, hlo, hhi⟩ := Unicode.exists_mem_of_inRanges h
  refine List.mem_flatMap.2 ⟨r, hr, List.mem_map.2 ⟨c.toNat, ?_, Char.ofNat_toNat c⟩⟩
  rw [List.mem_range'_1]
  omega

/-- The characters that set words apart: none of them is part of a number, a name or an operator. -/
def delimiters : List Char :=
  blanks ++ [',', ')']

/-- The characters with a meaning of their own inside a number or at the start of a string. -/
def marks : List Char :=
  ['+', '-', '.', 'e', 'E', 'i', 'L', 'p', 'P', 'x', 'X', '"', '\'']

/-- The character has no part in a number, in a name or in the opening of a raw string. -/
structure Inert (d : Char) : Prop where
  digit : isDigit d = false
  hexDigit : isHexDigit d = false
  name : isNameContinue d = false
  opener : rawCloser? d = none
  mark : ∀ m ∈ marks, d ≠ m

theorem inert_of_mem_delimiters {d : Char} (hd : d ∈ delimiters) : Inert d := by
  have h : delimiters.all fun d => isDigit d = false ∧ isHexDigit d = false ∧ isNameContinue d = false ∧
      rawCloser? d = none ∧ d ∉ marks := by
    decide +kernel
  obtain ⟨hdigit, hhex, hname, hopener, hmark⟩ := of_decide_eq_true (List.all_eq_true.1 h d hd)
  exact ⟨hdigit, hhex, hname, hopener, fun m hm hd => hmark (hd ▸ hm)⟩

theorem mem_delimiters_of_isBlank {d : Char} (h : isBlank d = true) : d ∈ delimiters :=
  List.mem_append_left _ (mem_blanks h)

/-- The text ends or goes on with a delimiter. -/
def IsApart (v : Text) : Prop :=
  ∀ d ∈ v.head?, d ∈ delimiters

/-- `f` measures a beginning of the text. It takes each of the characters `stops` for the end of the text, and
a beginning that is long enough for what it measures is as good as the text. -/
structure Halts (stops : List Char) (f : Text → Nat) : Prop where
  le : ∀ u, f u ≤ u.length
  halt : ∀ u v, (∀ d ∈ v.head?, d ∈ stops) → f (u ++ v) = f u
  cut : ∀ u v, f (u ++ v) ≤ u.length → f (u ++ v) = f u

/-- `f` measures a beginning of the text and takes a line break for the end of the text. -/
abbrev LineBound (f : Text → Nat) : Prop :=
  Halts ['\n'] f

theorem Halts.newline {f : Text → Nat} (h : LineBound f) (u v : Text) : f (u ++ '\n' :: v) = f u :=
  h.halt u _ (by simp)

theorem Halts.lineBound {f : Text → Nat} (h : Halts delimiters f) : LineBound f := by
  refine ⟨h.le, fun u v hv => h.halt u v fun d hd => ?_, h.cut⟩
  rw [List.mem_singleton.1 (hv d hd)]
  exact mem_delimiters_of_isBlank rfl

theorem drop_append_newline (h : n ≤ u.length) :
    (u ++ '\n' :: v).drop n = u.drop n ++ '\n' :: v :=
  List.drop_append_of_le_length h

theorem Halts.seq {stops : List Char} {f g : Text → Nat} (hf : Halts stops f) (hg : Halts stops g) :
    Halts stops fun u => f u + g (u.drop (f u)) := by
  refine ⟨fun u => ?_, fun u v hv => ?_, fun u v h => ?_⟩
  · have h1 := hf.le u
    have h2 := hg.le (u.drop (f u))
    rw [List.length_drop] at h2
    show f u + g (u.drop (f u)) ≤ u.length
    omega
  · show f (u ++ v) + g ((u ++ v).drop (f (u ++ v))) = _
    rw [hf.halt u v hv, List.drop_append_of_le_length (hf.le u), hg.halt _ v hv]
  · have h : f (u ++ v) + g ((u ++ v).drop (f (u ++ v))) ≤ u.length := h
    have hfu := hf.cut u v (by omega)
    show f (u ++ v) + g ((u ++ v).drop (f (u ++ v))) = _
    rw [hfu, List.drop_append_of_le_length (hf.le u)] at h ⊢
    rw [hg.cut _ v (by rw [List.length_drop]; omega)]

theorem halts_runLength {stops : List Char} {p : Char → Bool} (hp : ∀ d ∈ stops, p d = false) :
    Halts stops (runLength p) := by
  refine ⟨runLength_le p, fun u v hv => ?_, fun u v h => ?_⟩
  · have hzero : runLength p v = 0 := by
      cases v with
      | nil => rfl
      | cons d v => rw [runLength_cons, if_neg (by simp [hp d (hv d rfl)])]
    rw [runLength_append_eq, hzero]
    split <;> omega
  · rw [runLength_append_eq] at h ⊢
    split at h
    · rw [if_pos ‹_›]
      omega
    · rw [if_neg ‹_›]

theorem runLength_le_append (p : Char → Bool) (u v : Text) : runLength p u ≤ runLength p (u ++ v) := by
  rw [runLength_append_eq]
  split <;> omega

theorem lineBound_runLength {p : Char → Bool} (hp : p '\n' = false) : LineBound (runLength p) :=
  halts_runLength (by simpa using hp)

theorem halts_digits : Halts delimiters (runLength isDigit) :=
  halts_runLength fun _ hd => (inert_of_mem_delimiters hd).digit

theorem halts_name : Halts delimiters (runLength isNameContinue) :=
  halts_runLength fun _ hd => (inert_of_mem_delimiters hd).name

/-! ### Numbers

The length of a number is the sum of the lengths of its parts. -/

/-- The length of digits with a sign before them. -/
def signedDigits : Text → Nat
  | s :: more =>
    if s = '+' ∨ s = '-' then 1 + runLength isDigit more else runLength isDigit (s :: more)
  | [] => 0

def binaryExponent : Text → Nat
  | p :: rest => if p = 'p' ∨ p = 'P' then 1 + signedDigits rest else 0
  | [] => 0

/-- The length of a fraction with its point. A number that starts with a point has no other. -/
def fraction (head : Char) : Text → Nat
  | p :: rest => if p = '.' ∧ head ≠ '.' then 1 + runLength isDigit rest else 0
  | [] => 0

def suffix : Text → Nat
  | s :: _ => if s = 'L' ∨ s = 'i' then 1 else 0
  | [] => 0

def isHex (head : Char) (cs : Text) : Bool :=
  head == '0' && (cs.head? == some 'x' || cs.head? == some 'X')

/-- The length of a number without its suffix. -/
def numberBody (head : Char) (cs : Text) : Nat :=
  if isHex head cs then hexLength cs else decimalLength head cs

theorem hexLength_cons (x : Char) (u : Text) :
    hexLength (x :: u) =
      1 + runLength isHexDigit u + binaryExponent (u.drop (runLength isHexDigit u)) := by
  have hd : (x :: u).drop (1 + runLength isHexDigit u) = u.drop (runLength isHexDigit u) := by
    rw [Nat.add_comm, List.drop_succ_cons]
  simp only [hexLength, List.drop_succ_cons, List.drop_zero, hd]
  rcases u.drop (runLength isHexDigit u) with _ | ⟨p, _ | ⟨s, more⟩⟩
  · rfl
  · grind [binaryExponent, signedDigits, runLength_nil]
  · grind [binaryExponent, signedDigits]

theorem decimalLength_eq (head : Char) (u : Text) :
    decimalLength head u =
      runLength isDigit u + fraction head (u.drop (runLength isDigit u)) +
        exponentLength
          (u.drop (runLength isDigit u + fraction head (u.drop (runLength isDigit u)))) := by
  unfold decimalLength
  dsimp only
  cases u.drop (runLength isDigit u) with
  | nil => rfl
  | cons p rest => grind [fraction]

theorem numberLength_eq (head : Char) (u : Text) :
    numberLength head u = numberBody head u + suffix (u.drop (numberBody head u)) := by
  unfold numberLength numberBody isHex
  dsimp only
  generalize (if head == '0' && (u.head? == some 'x' || u.head? == some 'X') then hexLength u
    else decimalLength head u) = body
  cases u.drop body with
  | nil => rfl
  | cons s rest => grind [suffix]

/-- A measure that is nothing unless the first character is one of a class, of which no delimiter is. -/
theorem halts_of_head {f g : Text → Nat} {q : Char → Bool} (hnil : f [] = 0)
    (hcons : ∀ c u, f (c :: u) = if q c then 1 + g u else 0) (hq : ∀ d ∈ delimiters, q d = false)
    (hg : Halts delimiters g) : Halts delimiters f := by
  refine ⟨fun u => ?_, fun u v hv => ?_, fun u v h => ?_⟩ <;> rcases u with _ | ⟨c, u⟩
  · simp [hnil]
  · have hle := hg.le u
    rw [hcons]
    split <;> simp only [List.length_cons] <;> omega
  · cases v with
    | nil => rfl
    | cons d v => rw [List.nil_append, hcons, hnil, if_neg (by simp [hq d (hv d rfl)])]
  · rw [List.cons_append, hcons, hcons, hg.halt u v hv]
  · rw [hnil]
    exact Nat.le_zero.1 h
  · rw [List.cons_append, hcons] at h ⊢
    rw [hcons]
    split at h
    · rw [hg.cut u v (by simp only [List.length_cons] at h; omega)]
    · simp_all

theorem halts_nothing : Halts delimiters fun _ => 0 :=
  ⟨fun _ => Nat.zero_le _, fun _ _ _ => rfl, fun _ _ _ => rfl⟩

def sign : Text → Nat
  | s :: _ => if s == '+' || s == '-' then 1 else 0
  | [] => 0

theorem signedDigits_eq (u : Text) : signedDigits u = sign u + runLength isDigit (u.drop (sign u)) := by
  rcases u with _ | ⟨s, u⟩
  · rfl
  · grind [signedDigits, sign]

theorem halts_sign : Halts delimiters sign := by
  refine halts_of_head rfl (fun _ _ => rfl) (fun d hd => ?_) halts_nothing
  have hmark := (inert_of_mem_delimiters hd).mark
  simp [hmark '+' (by decide), hmark '-' (by decide)]

theorem halts_signedDigits : Halts delimiters signedDigits := by
  rw [funext signedDigits_eq]
  exact halts_sign.seq halts_digits

theorem halts_binaryExponent : Halts delimiters binaryExponent := by
  refine halts_of_head (q := fun c => c = 'p' ∨ c = 'P') rfl (fun c u => ?_) (fun d hd => ?_) halts_signedDigits
  · simp [binaryExponent]
  · have hmark := (inert_of_mem_delimiters hd).mark
    simp [hmark 'p' (by decide), hmark 'P' (by decide)]

theorem halts_fraction (head : Char) : Halts delimiters (fraction head) := by
  refine halts_of_head (q := fun c => c = '.' ∧ head ≠ '.') rfl (fun c u => ?_) ?_ halts_digits
  · simp [fraction]
  · intro d hd
    simp [(inert_of_mem_delimiters hd).mark '.' (by decide)]

theorem halts_suffix : Halts delimiters suffix := by
  refine halts_of_head (q := fun c => c = 'L' ∨ c = 'i') rfl (fun c u => ?_) (fun d hd => ?_) halts_nothing
  · simp [suffix]
  · have hmark := (inert_of_mem_delimiters hd).mark
    simp [hmark 'L' (by decide), hmark 'i' (by decide)]

/-- An exponent has a digit behind its sign, or it is none. -/
theorem exponentLength_cons (e : Char) (u : Text) :
    exponentLength (e :: u) =
      if (e = 'e' ∨ e = 'E') ∧ runLength isDigit (u.drop (sign u)) ≠ 0 then 1 + signedDigits u else 0 := by
  rcases u with _ | ⟨s, u⟩
  · simp [exponentLength, sign]
  · rw [exponentLength, signedDigits_eq]
    grind [sign]

theorem halts_exponentLength : Halts delimiters exponentLength := by
  have hdigits : ∀ u, runLength isDigit (u.drop (sign u)) = signedDigits u - sign u := by
    intro u
    rw [signedDigits_eq]
    omega
  refine ⟨fun u => ?_, fun u v hv => ?_, fun u v h => ?_⟩ <;> rcases u with _ | ⟨e, u⟩
  · exact Nat.le_refl 0
  · have hle := halts_signedDigits.le u
    rw [exponentLength_cons]
    split <;> simp only [List.length_cons] <;> omega
  · cases v with
    | nil => rfl
    | cons d v =>
      have hmark := (inert_of_mem_delimiters (hv d rfl)).mark
      exact (exponentLength_cons d v).trans (if_neg (by simp [hmark 'e' (by decide), hmark 'E' (by decide)]))
  · rw [List.cons_append, exponentLength_cons, exponentLength_cons, hdigits, hdigits,
      halts_sign.halt u v hv, halts_signedDigits.halt u v hv]
  · exact Nat.le_zero.1 h
  · rw [List.cons_append, exponentLength_cons] at h ⊢
    rw [exponentLength_cons]
    split at h
    · have hsigned := halts_signedDigits.cut u v (by simp only [List.length_cons] at h; omega)
      have hsign := halts_sign.cut u v (by
        have := signedDigits_eq (u ++ v)
        simp only [List.length_cons] at h
        omega)
      rw [hdigits, hsigned, hsign, ← hdigits]
    · rename_i hnone
      -- a digit in the beginning would be one in the text
      rw [if_neg hnone, if_neg]
      rintro ⟨he, hdigit⟩
      refine hnone ⟨he, ?_⟩
      rcases u with _ | ⟨s, u⟩
      · exact absurd rfl hdigit
      · have hsign : sign (s :: u ++ v) = sign (s :: u) := rfl
        have hle : sign (s :: u) ≤ (s :: u).length := halts_sign.le _
        rw [hsign, List.drop_append_of_le_length hle]
        have := runLength_le_append isDigit ((s :: u).drop (sign (s :: u))) v
        omega

theorem halts_decimalLength (head : Char) : Halts delimiters (decimalLength head) := by
  have h := (halts_digits.seq (halts_fraction head)).seq halts_exponentLength
  rwa [show decimalLength head = _ from funext (decimalLength_eq head)]

theorem halts_numberBody (head : Char) : Halts delimiters (numberBody head) := by
  have hdigits : Halts delimiters (runLength isHexDigit) :=
    halts_runLength fun _ hd => (inert_of_mem_delimiters hd).hexDigit
  have hhex := hdigits.seq halts_binaryExponent
  have hdec := halts_decimalLength head
  have hnil : numberBody head [] = decimalLength head [] := by simp [numberBody, isHex]
  refine ⟨fun u => ?_, fun u v hv => ?_, fun u v h => ?_⟩ <;> rcases u with _ | ⟨x, u⟩
  · rw [hnil]
    exact hdec.le []
  · have h1 := hhex.le u
    have h2 := hdec.le (x :: u)
    rw [numberBody, hexLength_cons]
    simp only [List.length_cons] at h2 ⊢
    split <;> omega
  · have hx : isHex head v = false := by
      cases v with
      | nil => simp [isHex]
      | cons d v =>
        have hmark := (inert_of_mem_delimiters (hv d rfl)).mark
        simp [isHex, hmark 'x' (by decide), hmark 'X' (by decide)]
    rw [List.nil_append, numberBody, hx, hnil]
    exact hdec.halt [] v hv
  · have h1 := hhex.halt u v hv
    have h2 := hdec.halt (x :: u) v hv
    rw [List.cons_append] at h2 ⊢
    simp only [numberBody, isHex, List.head?_cons, hexLength_cons, h2]
    rw [Nat.add_assoc, h1, Nat.add_assoc]
  · rw [hnil]
    rw [List.nil_append] at h ⊢
    by_cases hx : isHex head v = true
    · cases v with
      | nil => simp [isHex] at hx
      | cons d v =>
        rw [numberBody, if_pos hx, hexLength_cons] at h
        simp at h
    · rw [numberBody, if_neg hx] at h ⊢
      exact hdec.cut [] v h
  · have h1 := hhex.cut u v
    have h2 := hdec.cut (x :: u) v
    rw [List.cons_append] at h h2 ⊢
    simp only [numberBody, isHex, List.head?_cons, hexLength_cons] at h ⊢
    split at h
    · rw [if_pos ‹_›, if_pos ‹_›, Nat.add_assoc, h1 (by simp only [List.length_cons] at h; omega), Nat.add_assoc]
    · rw [if_neg ‹_›, if_neg ‹_›, h2 h]

theorem halts_numberLength (head : Char) : Halts delimiters (numberLength head) := by
  have h := (halts_numberBody head).seq halts_suffix
  rwa [show numberLength head = _ from funext (numberLength_eq head)]

/-! ### Quoted text and raw strings -/

theorem quotedLength_escape (q d : Char) (u : Text) :
    quotedLength q ('\\' :: d :: u) = quotedLength q u + 2 := by
  rw [quotedLength]

theorem quotedLength_cons {q c : Char} (h : c ≠ '\\') (u : Text) :
    quotedLength q (c :: u) = if c = q then 1 else quotedLength q u + 1 := by
  rw [quotedLength]
  rintro _ _ rfl
  exact absurd rfl h

theorem quotedLength_le (q : Char) (u : Text) : quotedLength q u ≤ u.length := by
  fun_induction quotedLength q u with
  | case1 => exact Nat.le_refl 0
  | case2 => simp only [List.length_cons]; omega
  | case3 => simp
  | case4 => simp only [List.length_cons]; omega

theorem quotedLength_pos (q d : Char) (u : Text) : 0 < quotedLength q (d :: u) := by
  rw [quotedLength.eq_def]
  split
  · simp_all
  · omega
  · split <;> omega

/-- A quoted text that ends before a character is closed, so nothing behind counts. -/
theorem quotedLength_congr {q d : Char} (w : Text) {u : Text}
    (h : quotedLength q (u ++ d :: v) ≤ u.length) :
    quotedLength q (u ++ w) = quotedLength q (u ++ d :: v) := by
  match u with
  | [] => exact absurd (quotedLength_pos q d v) (Nat.not_lt.2 h)
  | c :: u =>
    by_cases hc : c = '\\'
    · subst hc
      cases u with
      | nil =>
        rw [List.cons_append, List.nil_append, quotedLength_escape] at h
        simp only [List.length_cons, List.length_nil] at h
        omega
      | cons x u =>
        simp only [List.cons_append, quotedLength_escape, List.length_cons] at h ⊢
        have hu : quotedLength q (u ++ d :: v) ≤ u.length := by omega
        rw [quotedLength_congr w hu]
    · simp only [List.cons_append, quotedLength_cons hc, List.length_cons] at h ⊢
      split
      · rfl
      · rw [if_neg ‹_›] at h
        have hu : quotedLength q (u ++ d :: v) ≤ u.length := by omega
        rw [quotedLength_congr w hu]
termination_by u.length

/-- The pattern lies in the text where it is found. -/
theorem find?_add_le {pat : Text} {i : Nat} (h : find? pat u = some i) :
    i + pat.length ≤ u.length := by
  induction u generalizing i with
  | nil =>
    rw [find?] at h
    split at h
    · rename_i hp
      rw [List.isEmpty_iff.1 hp, ← Option.some.inj h]
      exact Nat.le_refl 0
    · cases h
  | cons c u ih =>
    rw [find?] at h
    split at h
    · rename_i hp
      rw [← Option.some.inj h, Nat.zero_add]
      exact (List.isPrefixOf_iff_prefix.1 hp).length_le
    · obtain ⟨j, hj, rfl⟩ := Option.map_eq_some_iff.1 h
      have := ih hj
      rw [List.length_cons]; omega

theorem isPrefixOf_append_of_le {pat : Text} (h : pat.length ≤ u.length) (v w : Text) :
    pat.isPrefixOf (u ++ v) = pat.isPrefixOf (u ++ w) := by
  rw [Bool.eq_iff_iff, List.isPrefixOf_iff_prefix, List.isPrefixOf_iff_prefix]
  have key : ∀ x : Text, pat <+: u ++ x ↔ pat <+: u := fun x =>
    ⟨fun hp => List.prefix_of_prefix_length_le hp (List.prefix_append u x) h,
      fun hp => hp.trans (List.prefix_append u x)⟩
  rw [key, key]

/-- A pattern that is found in the beginning of a text is found there whatever follows. -/
theorem find?_congr {pat : Text} {i : Nat} (w : Text) (h : find? pat (u ++ v) = some i)
    (hi : i + pat.length ≤ u.length) : find? pat (u ++ w) = some i := by
  induction u generalizing i with
  | nil =>
    obtain rfl : i = 0 := by simp only [List.length_nil] at hi; omega
    obtain rfl : pat = [] := List.eq_nil_of_length_eq_zero (by simp only [List.length_nil] at hi; omega)
    cases w <;> rfl
  | cons c u ih =>
    rw [List.cons_append, find?, ← List.cons_append] at h ⊢
    rw [isPrefixOf_append_of_le (by omega) w v]
    split at h
    · rw [if_pos ‹_›]; exact h
    · obtain ⟨j, hj, rfl⟩ := Option.map_eq_some_iff.1 h
      rw [List.length_cons] at hi
      rw [if_neg ‹_›, ih hj (by omega)]
      rfl

def rawTerminator (closer : Char) (dashes : Nat) (quote : Char) : Text :=
  closer :: (List.replicate dashes '-' ++ [quote])

/-- The length of a text up to and including the terminator; all of it if there is none. -/
def rawRest (terminator body : Text) : Nat :=
  match find? terminator body with
  | some i => i + terminator.length
  | none => body.length

/-- The length of a raw string from its bracket on. -/
def rawBody (quote : Char) (dashes : Nat) : Text → Option Nat
  | [] => none
  | opener :: body =>
    (rawCloser? opener).map fun closer => 1 + rawRest (rawTerminator closer dashes quote) body

theorem rawLength?_cons (quote : Char) (cs : Text) :
    rawLength? (quote :: cs) =
      if quote = '"' ∨ quote = '\'' then
        (rawBody quote (runLength (· == '-') cs) (cs.drop (runLength (· == '-') cs))).map
          (1 + runLength (· == '-') cs + ·)
      else none := by
  rw [rawLength?]
  dsimp only
  split
  · cases cs.drop (runLength (· == '-') cs) with
    | nil => rfl
    | cons opener body =>
      rw [rawBody, Option.map_map]
      dsimp only
      congr 1
      funext closer
      rw [Function.comp_apply, rawRest, rawTerminator]
      cases find? (closer :: (List.replicate (runLength (· == '-') cs) '-' ++ [quote])) body <;>
        dsimp only <;> omega
  · rfl

theorem rawRest_le (terminator body : Text) : rawRest terminator body ≤ body.length := by
  unfold rawRest
  split
  · exact find?_add_le ‹_›
  · exact Nat.le_refl _

theorem rawRest_congr {terminator : Text} {d : Char} (w : Text)
    (h : rawRest terminator (u ++ d :: v) ≤ u.length) :
    rawRest terminator (u ++ w) = rawRest terminator (u ++ d :: v) := by
  unfold rawRest at h ⊢
  cases hf : find? terminator (u ++ d :: v) with
  | none =>
    simp only [hf, List.length_append, List.length_cons] at h
    omega
  | some i =>
    simp only [hf] at h
    rw [find?_congr w hf h]

theorem rawBody_le {quote : Char} {dashes : Nat} (h : rawBody quote dashes u = some n) :
    n ≤ u.length := by
  cases u with
  | nil => cases h
  | cons opener body =>
    obtain ⟨closer, -, rfl⟩ := Option.map_eq_some_iff.1 h
    have := rawRest_le (rawTerminator closer dashes quote) body
    rw [List.length_cons]; omega

theorem rawBody_pos {quote : Char} {dashes : Nat} (h : rawBody quote dashes u = some n) : 0 < n := by
  cases u with
  | nil => cases h
  | cons opener body =>
    obtain ⟨closer, -, rfl⟩ := Option.map_eq_some_iff.1 h
    omega

theorem rawBody_of_isApart {quote : Char} {dashes : Nat} (hw : IsApart w) : rawBody quote dashes w = none := by
  cases w with
  | nil => rfl
  | cons d w =>
    rw [rawBody, (inert_of_mem_delimiters (hw d rfl)).opener, Option.map_none]

/-- A raw string that lies in the beginning of a longer text is closed, and a beginning that starts no raw
string starts none where a delimiter comes behind it. -/
theorem rawBody_replace {quote : Char} {dashes : Nat} (hv : v ≠ []) (hw : IsApart w)
    (h : ∀ n, rawBody quote dashes (u ++ v) = some n → n ≤ u.length) :
    rawBody quote dashes (u ++ w) = rawBody quote dashes (u ++ v) := by
  cases u with
  | nil =>
    rw [List.nil_append, rawBody_of_isApart hw]
    refine (Option.eq_none_iff_forall_ne_some.2 fun n hn => ?_).symm
    have hle := h n hn
    have hpos := rawBody_pos hn
    exact absurd hpos (Nat.not_lt.2 hle)
  | cons opener body =>
    obtain ⟨d, v, rfl⟩ := List.exists_cons_of_ne_nil hv
    rw [List.cons_append, rawBody] at h
    rw [List.cons_append, List.cons_append, rawBody, rawBody]
    cases hc : rawCloser? opener with
    | none => rfl
    | some closer =>
      rw [hc] at h
      have hn : 1 + rawRest (rawTerminator closer dashes quote) (body ++ d :: v) ≤ body.length + 1 :=
        h _ rfl
      have hrest : rawRest (rawTerminator closer dashes quote) (body ++ w) = _ :=
        rawRest_congr (d := d) (v := v) w (by omega)
      rw [Option.map_some, Option.map_some, hrest]

theorem halts_dashes : Halts delimiters (runLength (· == '-')) :=
  halts_runLength fun _ hd => by simp [(inert_of_mem_delimiters hd).mark '-' (by decide)]

theorem rawLength?_le (h : rawLength? u = some n) : n ≤ u.length := by
  cases u with
  | nil => cases h
  | cons quote cs =>
    rw [rawLength?_cons] at h
    split at h
    · obtain ⟨m, hm, rfl⟩ := Option.map_eq_some_iff.1 h
      have h1 := rawBody_le hm
      have h2 := halts_dashes.le cs
      rw [List.length_drop] at h1
      rw [List.length_cons]; omega
    · cases h

theorem rawLength?_of_isApart (hw : IsApart w) : rawLength? w = none := by
  cases w with
  | nil => rfl
  | cons d w =>
    have hmark := (inert_of_mem_delimiters (hw d rfl)).mark
    rw [rawLength?_cons, if_neg (by simp [hmark '"' (by decide), hmark '\'' (by decide)])]

/-- As `rawBody_replace`, for a whole raw string. -/
theorem rawLength?_replace (hv : v ≠ []) (hw : IsApart w)
    (h : ∀ n, rawLength? (u ++ v) = some n → n ≤ u.length) : rawLength? (u ++ w) = rawLength? (u ++ v) := by
  cases u with
  | nil =>
    obtain ⟨d, v, rfl⟩ := List.exists_cons_of_ne_nil hv
    rw [List.nil_append, rawLength?_of_isApart hw]
    refine (Option.eq_none_iff_forall_ne_some.2 fun n hn => ?_).symm
    have hle : n ≤ 0 := h n hn
    rw [List.nil_append, rawLength?_cons] at hn
    split at hn
    · obtain ⟨m, -, rfl⟩ := Option.map_eq_some_iff.1 hn
      omega
    · cases hn
  | cons quote cs =>
    rw [List.cons_append, rawLength?_cons] at h
    rw [List.cons_append, List.cons_append, rawLength?_cons, rawLength?_cons, halts_dashes.halt cs w hw]
    split
    · rw [if_pos ‹_›] at h
      by_cases hall : runLength (· == '-') cs = cs.length
      · -- the beginning ends with its dashes, so the raw string would end behind it
        have hnone : rawBody quote (runLength (· == '-') (cs ++ v))
            ((cs ++ v).drop (runLength (· == '-') (cs ++ v))) = none := by
          refine Option.eq_none_iff_forall_ne_some.2 fun m hm => ?_
          have hle := h _ (by rw [hm]; rfl)
          have hpos := rawBody_pos hm
          have hlong := runLength_le_append (· == '-') cs v
          simp only [List.length_cons] at hle
          omega
        rw [hnone, hall, List.drop_left, rawBody_of_isApart hw]
        rfl
      · have hrun : runLength (· == '-') (cs ++ v) = runLength (· == '-') cs := by
          rw [runLength_append_eq, if_neg hall]
        have hle := halts_dashes.le cs
        rw [hrun] at h ⊢
        rw [List.drop_append_of_le_length hle] at h ⊢
        rw [List.drop_append_of_le_length hle, rawBody_replace hv hw]
        intro n hn
        have : 1 + runLength (· == '-') cs + n ≤ cs.length + 1 := h _ (by rw [hn]; rfl)
        rw [List.length_drop]
        omega
    · rfl

/-! ### Operators -/

theorem isPrefixOf_append {pat : Text} (h : ∀ d ∈ v.head?, d ∉ pat) (u : Text) :
    pat.isPrefixOf (u ++ v) = pat.isPrefixOf u := by
  induction u generalizing pat with
  | nil =>
    cases pat with
    | nil => cases v <;> rfl
    | cons p pat =>
      cases v with
      | nil => rfl
      | cons d v =>
        have hp : (p == d) = false := by
          rw [beq_eq_false_iff_ne]
          rintro rfl
          exact h _ rfl List.mem_cons_self
        rw [List.nil_append, List.isPrefixOf_cons_cons, hp]
        rfl
  | cons c u ih =>
    cases pat with
    | nil => rfl
    | cons p pat =>
      rw [List.cons_append, List.isPrefixOf_cons_cons, List.isPrefixOf_cons_cons,
        ih fun d hd hp => h d hd (List.mem_cons_of_mem _ hp)]

theorem delimiter_not_mem_operators {op : String} (hop : op ∈ operators) {d : Char} (hd : d ∈ delimiters) :
    d ∉ op.toList := by
  have h : ∀ op ∈ operators, delimiters.all fun d => d ∉ op.toList := by decide +kernel
  exact of_decide_eq_true (List.all_eq_true.1 (h op hop) d hd)

theorem operatorOf?_append (u : Text) (hv : IsApart v) : operatorOf? (u ++ v) = operatorOf? u :=
  List.find?_congr fun _ hop =>
    isPrefixOf_append (fun d hd => delimiter_not_mem_operators hop (hv d hd)) u

theorem isApart_cons {d : Char} (hd : d ∈ delimiters) (v : Text) : IsApart (d :: v) := by
  intro e he
  obtain rfl : d = e := Option.some.inj he
  exact hd

theorem isApart_newline (v : Text) : IsApart ('\n' :: v) :=
  isApart_cons (mem_delimiters_of_isBlank rfl) v

theorem isApart_space (v : Text) : IsApart (' ' :: v) :=
  isApart_cons (mem_delimiters_of_isBlank rfl) v

theorem isApart_comma (v : Text) : IsApart (',' :: v) :=
  isApart_cons (List.mem_append_right _ (by decide)) v

theorem isApart_closeParen (v : Text) : IsApart (')' :: v) :=
  isApart_cons (List.mem_append_right _ (by decide)) v

theorem operatorOf?_length {op : String} (h : operatorOf? u = some op) : op.length ≤ u.length := by
  unfold operatorOf? at h
  have hp := List.find?_some h
  rw [← String.length_toList]
  exact (List.isPrefixOf_iff_prefix.1 hp).length_le

/-! ### The first token before a line break -/

theorem Scans.le (h : Scans c cs k n) : n ≤ cs.length := by
  cases h with
  | newline | single | lonePercent | unknown => exact Nat.zero_le _
  | returnNewline => simp
  | carriage | blank | comment => exact runLength_le _ cs
  | string | quotedName => exact quotedLength_le ..
  | number => exact (halts_numberLength c).le cs
  | raw _ hn => exact rawLength?_le hn
  | name => exact runLength_le _ cs
  | percent h =>
    obtain ⟨r, hr⟩ := List.head?_eq_some_iff.1 h
    have := congrArg List.length hr
    rw [List.length_drop, List.length_cons] at this
    omega
  | operator hc h =>
    have := operatorOf?_length h
    rw [List.length_cons] at this
    omega

theorem head?_append_newline (u v w : Text) : (u ++ '\n' :: v).head? = (u ++ '\n' :: w).head? := by
  cases u <;> rfl

/-- What stands behind a line break has no part in a token that lies before it. -/
theorem Scans.behind_newline (h : Scans c (u ++ '\n' :: v) k n) (hn : n ≤ u.length) (w : Text) :
    Scans c (u ++ '\n' :: w) k n := by
  have hblank : LineBound (runLength isInlineBlank) := lineBound_runLength (by decide)
  generalize hcs : u ++ '\n' :: v = cs at h
  cases h with
  | newline => exact .newline
  | returnNewline =>
    cases u with
    | nil => exact absurd hn (by simp)
    | cons d u =>
      obtain ⟨rfl, -⟩ := List.cons.inj hcs
      exact .returnNewline
  | carriage h =>
    subst hcs
    rw [hblank.newline, ← hblank.newline u w]
    exact .carriage (head?_append_newline u w v ▸ h)
  | blank h =>
    subst hcs
    rw [hblank.newline, ← hblank.newline u w]
    exact .blank h
  | comment =>
    have hl : LineBound (runLength isCommentInner) := lineBound_runLength (by decide)
    subst hcs
    rw [hl.newline, ← hl.newline u w]
    exact .comment
  | string h =>
    subst hcs
    rw [← quotedLength_congr ('\n' :: w) hn]
    exact .string h
  | quotedName =>
    subst hcs
    rw [← quotedLength_congr ('\n' :: w) hn]
    exact .quotedName
  | number hc h =>
    have hl := (halts_numberLength c).lineBound
    subst hcs
    rw [hl.newline, ← hl.newline u w]
    exact .number hc (head?_append_newline u w v ▸ h)
  | raw h hr =>
    subst hcs
    refine .raw h ?_
    rw [rawLength?_replace (List.cons_ne_nil _ v) (isApart_newline w) fun m hm => by
      rw [hr] at hm; cases hm; exact hn, hr]
  | name hc hd hp h hr =>
    have hl := halts_name.lineBound
    have ht : ∀ x, (u ++ '\n' :: x).take (runLength isNameContinue u) = u.take (runLength isNameContinue u) :=
      fun x => List.take_append_of_le_length (hl.le u)
    subst hcs
    have hw := @Scans.name c (u ++ '\n' :: w) hc hd (head?_append_newline u w v ▸ hp) h fun hc => by
      rw [rawLength?_replace (List.cons_ne_nil _ v) (isApart_newline w) fun m hm => by
        rw [hr hc] at hm; exact nomatch hm]
      exact hr hc
    rw [hl.newline, ht] at hw ⊢
    exact hw
  | single h => exact .single h
  | percent h =>
    have hl : LineBound (runLength isPercentInner) := lineBound_runLength (by decide)
    subst hcs
    rw [hl.newline, drop_append_newline (hl.le u), head?_append_newline _ v w] at h
    have hw := @Scans.percent (u ++ '\n' :: w)
      (by rw [hl.newline, drop_append_newline (hl.le u)]; exact h)
    rw [hl.newline] at hw ⊢
    exact hw
  | lonePercent h =>
    have hl : LineBound (runLength isPercentInner) := lineBound_runLength (by decide)
    subst hcs
    rw [hl.newline, drop_append_newline (hl.le u), head?_append_newline _ v w] at h
    exact .lonePercent (by rw [hl.newline, drop_append_newline (hl.le u)]; exact h)
  | operator hc h =>
    subst hcs
    rw [← List.cons_append, operatorOf?_append _ (isApart_newline v), ← operatorOf?_append _ (isApart_newline w)] at h
    exact .operator hc h
  | unknown hc h =>
    subst hcs
    rw [← List.cons_append, operatorOf?_append _ (isApart_newline v), ← operatorOf?_append _ (isApart_newline w)] at h
    exact .unknown hc h

end RSource.Token
