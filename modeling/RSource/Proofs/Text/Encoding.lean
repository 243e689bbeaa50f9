import RSource.Text.Bytes

/-!
# The bytes of a text and its boundaries

`bytes t` is the UTF-8 form of the text `t`. No character's bytes begin those of another one, so the
form can be read back from its front: a text whose bytes begin with those of `s` begins with `s`
(`exists_append_of_bytes`), and texts with equal bytes are equal (`bytes_inj`). With that, texts that
agree byte for byte on a stretch agree there as texts, wherever the stretch is cut.

A boundary of a text is an offset between two of its characters. `floorBoundary t n` is the greatest
boundary at or below `n`; `takeBytes` and `dropBytes` cut there.
-/

namespace RSource.Text

variable {s t u v : Text} {m n : Nat}

def bytes (t : Text) : List UInt8 :=
  t.flatMap String.utf8EncodeChar

@[simp] theorem bytes_nil : bytes [] = [] := rfl

@[simp] theorem bytes_cons (c : Char) (t : Text) :
    bytes (c :: t) = String.utf8EncodeChar c ++ bytes t := rfl

@[simp] theorem bytes_append (s t : Text) : bytes (s ++ t) = bytes s ++ bytes t := by
  simp [bytes]

@[simp] theorem byteLength_nil : byteLength [] = 0 := rfl

@[simp] theorem length_bytes (t : Text) : (bytes t).length = byteLength t := by
  induction t with
  | nil => rfl
  | cons c t ih => rw [bytes_cons, List.length_append, String.length_utf8EncodeChar, ih, byteLength]

theorem byteLength_pos (c : Char) (t : Text) : 0 < byteLength (c :: t) :=
  Nat.lt_of_lt_of_le c.utf8Size_pos (Nat.le_add_right ..)

theorem eq_nil_of_byteLength (h : byteLength t = 0) : t = [] := by
  cases t with
  | nil => rfl
  | cons c t => have := byteLength_pos c t; omega

/-- No character's bytes begin those of another one. -/
theorem eq_of_utf8EncodeChar_append {c d : Char} {x y : List UInt8}
    (h : String.utf8EncodeChar c ++ x = String.utf8EncodeChar d ++ y) : c = d := by
  have hdec : ∀ (a : Char) (z : List UInt8),
      (String.utf8EncodeChar a ++ z).toByteArray.utf8DecodeChar? 0 = some a := by
    intro a z
    rw [List.toByteArray_append]
    exact ByteArray.utf8DecodeChar?_utf8EncodeChar_append
  have hc := hdec c x
  rw [h, hdec d y] at hc
  exact (Option.some.inj hc).symm

/-- A text whose bytes begin with those of `s` begins with `s`. -/
theorem exists_append_of_bytes {x : List UInt8} (h : bytes t = bytes s ++ x) :
    ∃ v, t = s ++ v ∧ x = bytes v := by
  induction s generalizing t with
  | nil => exact ⟨t, rfl, h.symm⟩
  | cons c s ih =>
    cases t with
    | nil =>
      have hlen := congrArg List.length h
      rw [bytes_nil, List.length_append, length_bytes] at hlen
      have := byteLength_pos c s
      simp only [List.length_nil] at hlen
      omega
    | cons d t =>
      rw [bytes_cons, bytes_cons, List.append_assoc] at h
      obtain rfl := eq_of_utf8EncodeChar_append h
      obtain ⟨v, rfl, hv⟩ := ih (List.append_cancel_left h)
      exact ⟨v, rfl, hv⟩

theorem bytes_inj (h : bytes s = bytes t) : s = t := by
  obtain ⟨v, rfl, hv⟩ : ∃ v, t = s ++ v ∧ [] = bytes v :=
    exists_append_of_bytes (by rw [List.append_nil, h])
  have hlen := congrArg List.length hv
  rw [length_bytes] at hlen
  rw [eq_nil_of_byteLength hlen.symm, List.append_nil]

/-! ### Boundaries -/

/-- A character of the text ends, or the text starts, at the offset `n`. -/
def IsBoundary (t : Text) (n : Nat) : Prop :=
  ∃ u v, t = u ++ v ∧ byteLength u = n

theorem takeBytes_append (u v : Text) : takeBytes (byteLength u) (u ++ v) = u := by
  induction u with
  | nil =>
    cases v with
    | nil => rfl
    | cons c v =>
      have := c.utf8Size_pos
      rw [List.nil_append, takeBytes, if_neg (by simp only [byteLength_nil]; omega)]
  | cons c u ih =>
    rw [List.cons_append, takeBytes, byteLength, if_pos (Nat.le_add_right ..), Nat.add_sub_cancel_left,
      ih]

theorem dropBytes_append (u v : Text) : dropBytes (byteLength u) (u ++ v) = v := by
  have h := takeBytes_append_dropBytes (byteLength u) (u ++ v)
  rw [takeBytes_append] at h
  exact List.append_cancel_left h

theorem floorBoundary_append (u v : Text) : floorBoundary (u ++ v) (byteLength u) = byteLength u := by
  rw [floorBoundary, takeBytes_append]

theorem isBoundary_floorBoundary (t : Text) (n : Nat) : t.IsBoundary (t.floorBoundary n) :=
  ⟨_, _, (takeBytes_append_dropBytes n t).symm, rfl⟩

theorem floorBoundary_le (t : Text) (n : Nat) : t.floorBoundary n ≤ n :=
  byteLength_takeBytes_le n t

theorem floorBoundary_le_byteLength (t : Text) (n : Nat) : t.floorBoundary n ≤ t.byteLength :=
  byteLength_takeBytes_le_byteLength n t

theorem takeBytes_append_of_le (h : byteLength u ≤ n) :
    takeBytes n (u ++ v) = u ++ takeBytes (n - byteLength u) v := by
  induction u generalizing n with
  | nil => rw [byteLength_nil, List.nil_append, List.nil_append, Nat.sub_zero]
  | cons c u ih =>
    rw [byteLength] at h
    rw [List.cons_append, takeBytes, if_pos (by omega), ih (by omega), byteLength, Nat.sub_sub,
      List.cons_append]

/-- No boundary lies between `floorBoundary t n` and `n`. -/
theorem IsBoundary.le_floorBoundary (h : t.IsBoundary m) (hm : m ≤ n) : m ≤ t.floorBoundary n := by
  obtain ⟨u, v, rfl, rfl⟩ := h
  rw [floorBoundary, takeBytes_append_of_le hm, byteLength_append]
  exact Nat.le_add_right ..

theorem floorBoundary_mono (h : m ≤ n) : t.floorBoundary m ≤ t.floorBoundary n :=
  (isBoundary_floorBoundary t m).le_floorBoundary (Nat.le_trans (floorBoundary_le t m) h)

/-- An offset behind the text counts as its end. -/
theorem floorBoundary_min (t : Text) (n : Nat) :
    t.floorBoundary (min n t.byteLength) = t.floorBoundary n := by
  refine Nat.le_antisymm (floorBoundary_mono (Nat.min_le_left ..)) ?_
  exact (isBoundary_floorBoundary t n).le_floorBoundary
    (Nat.le_min.2 ⟨floorBoundary_le t n, floorBoundary_le_byteLength t n⟩)

/-- Two boundaries in order cut the text in three. -/
theorem IsBoundary.exists_three (hm : t.IsBoundary m) (hn : t.IsBoundary n) (h : m ≤ n) :
    ∃ u y v, t = u ++ y ++ v ∧ byteLength u = m ∧ byteLength (u ++ y) = n := by
  obtain ⟨a, v, rfl, rfl⟩ := hn
  obtain ⟨u, b, hab, rfl⟩ := hm
  rcases List.append_eq_append_iff.1 hab with ⟨w, rfl, rfl⟩ | ⟨w, rfl, rfl⟩
  · rw [byteLength_append] at h
    obtain rfl := eq_nil_of_byteLength (t := w) (by omega)
    exact ⟨a, [], b, by simp, by simp, by simp⟩
  · exact ⟨u, w, v, rfl, rfl, rfl⟩

end RSource.Text
