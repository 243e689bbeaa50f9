import RSource.Proofs.Text.Encoding

/-!
# Slices of a text

What `slice?` gives depends on the stretch alone: a slice that ends inside the first of two texts is one
of that text (`slice?_append_of_le`), and one that starts inside the second text is one of the second
text (`slice?_append_add`).
-/

namespace RSource.Text

variable {u v w : Text} {a b n : Nat}

@[simp] theorem takeExact?_zero (t : Text) : takeExact? 0 t = some [] := by
  cases t <;> simp [takeExact?]

@[simp] theorem dropExact?_zero (t : Text) : dropExact? 0 t = some t := by
  cases t <;> simp [dropExact?]

theorem takeExact?_cons_add (c : Char) (t : Text) (n : Nat) :
    takeExact? (c.utf8Size + n) (c :: t) = (takeExact? n t).map (c :: ·) := by
  have := c.utf8Size_pos
  rw [takeExact?, if_neg (by omega), if_pos (by omega), Nat.add_sub_cancel_left]

theorem dropExact?_cons_add (c : Char) (t : Text) (n : Nat) :
    dropExact? (c.utf8Size + n) (c :: t) = dropExact? n t := by
  have := c.utf8Size_pos
  rw [dropExact?, if_neg (by omega), if_pos (by omega), Nat.add_sub_cancel_left]

theorem takeExact?_append (u v : Text) : takeExact? (byteLength u) (u ++ v) = some u := by
  induction u with
  | nil => simp
  | cons c u ih => rw [byteLength, List.cons_append, takeExact?_cons_add, ih, Option.map_some]

theorem dropExact?_append_add (u v : Text) (n : Nat) :
    dropExact? (byteLength u + n) (u ++ v) = dropExact? n v := by
  induction u with
  | nil => simp
  | cons c u ih => rw [byteLength, List.cons_append, Nat.add_assoc, dropExact?_cons_add, ih]

theorem takeExact?_append_of_le (h : n ≤ byteLength u) (v : Text) :
    takeExact? n (u ++ v) = takeExact? n u := by
  induction u generalizing n with
  | nil =>
    obtain rfl : n = 0 := Nat.le_zero.1 h
    simp
  | cons c u ih =>
    rw [byteLength] at h
    rw [List.cons_append, takeExact?, takeExact?]
    split
    · rfl
    · rw [ih (by omega)]

theorem dropExact?_append_of_le (h : n ≤ byteLength u) (v : Text) :
    dropExact? n (u ++ v) = (dropExact? n u).map (· ++ v) := by
  induction u generalizing n with
  | nil =>
    obtain rfl : n = 0 := Nat.le_zero.1 h
    simp
  | cons c u ih =>
    rw [byteLength] at h
    rw [List.cons_append, dropExact?, dropExact?]
    split
    · rfl
    · split
      · exact ih (by omega)
      · rfl

theorem byteLength_of_dropExact? (h : dropExact? n u = some w) : n + byteLength w = byteLength u := by
  induction u generalizing n with
  | nil =>
    rw [dropExact?] at h
    split at h
    · cases h
      simpa
    · cases h
  | cons c u ih =>
    rw [dropExact?] at h
    split at h
    · cases h
      omega
    · split at h
      · have := ih h
        rw [byteLength]
        omega
      · cases h

/-- The stretch between two beginnings of a text. -/
theorem slice?_append (u w v : Text) :
    slice? (u ++ w ++ v) (byteLength u) (byteLength (u ++ w)) = some w := by
  have hdrop := dropExact?_append_add u (w ++ v) 0
  rw [Nat.add_zero, dropExact?_zero] at hdrop
  rw [slice?, byteLength_append, if_pos (by omega), List.append_assoc, hdrop, Option.bind_some,
    Nat.add_sub_cancel_left, takeExact?_append]

theorem slice?_append_add (u v : Text) (a b : Nat) :
    slice? (u ++ v) (byteLength u + a) (byteLength u + b) = slice? v a b := by
  unfold slice?
  rw [dropExact?_append_add, Nat.add_sub_add_left]
  simp only [Nat.add_le_add_iff_left]

theorem slice?_append_of_le (h : b ≤ byteLength u) (v : Text) (a : Nat) :
    slice? (u ++ v) a b = slice? u a b := by
  unfold slice?
  split
  · rw [dropExact?_append_of_le (by omega)]
    cases hd : dropExact? a u with
    | none => rfl
    | some w =>
      have := byteLength_of_dropExact? hd
      exact takeExact?_append_of_le (by omega) v
  · rfl

theorem sliceD_append_add (u v : Text) (a b : Nat) :
    sliceD (u ++ v) (byteLength u + a) (byteLength u + b) = sliceD v a b := by
  rw [sliceD, slice?_append_add, sliceD]

theorem sliceD_append_of_le (h : b ≤ byteLength u) (v : Text) (a : Nat) :
    sliceD (u ++ v) a b = sliceD u a b := by
  rw [sliceD, slice?_append_of_le h, sliceD]

end RSource.Text
