import RSource.Proofs.Text.Encoding
import RSource.Token.Change

/-!
# Truthful changes

A change is truthful for two texts when they agree, byte for byte, before it and behind it. A single
edit is truthful for the texts before and after it (`truthful_ofEdit`), and folding a further edit
into a truthful change keeps it truthful (`Truthful.merge`). All this is said of bytes, since the
ends of a change need not be boundaries of either text.
-/

namespace RSource.Change
open Text

variable {d : Change} {base cur x y z : List UInt8}

/-- The texts agree before the change and behind it. -/
structure Truthful (d : Change) (before after : List UInt8) : Prop where
  start_le_oldStop : d.start ≤ d.oldStop
  oldStop_le : d.oldStop ≤ before.length
  start_le_newStop : d.start ≤ d.newStop
  newStop_le : d.newStop ≤ after.length
  /-- The bytes before the change are the same. -/
  front : before.take d.start = after.take d.start
  /-- The bytes behind the change are the same. -/
  back : before.drop d.oldStop = after.drop d.newStop

theorem Truthful.length_eq (h : d.Truthful base cur) :
    base.length + d.newStop = cur.length + d.oldStop := by
  have hlen := congrArg List.length h.back
  rw [List.length_drop, List.length_drop] at hlen
  have := h.oldStop_le
  have := h.newStop_le
  omega

/-! ### Texts around a truthful change -/

/-- A beginning of the old text that lies before the change is one of the new text. -/
theorem Truthful.exists_append {u v after : Text} (h : d.Truthful (u ++ v).bytes after.bytes)
    (hu : u.byteLength ≤ d.start) : ∃ w, after = u ++ w := by
  have hfront := congrArg (List.take u.byteLength) h.front
  rw [List.take_take, List.take_take, Nat.min_eq_left hu, bytes_append,
    List.take_left' (length_bytes u)] at hfront
  obtain ⟨w, hw, -⟩ := exists_append_of_bytes (s := u) (t := after)
    (x := after.bytes.drop u.byteLength) (by rw [hfront, List.take_append_drop])
  exact ⟨w, hw⟩

/-- Texts that follow the change, as far behind it in the old text as in the new one, are equal. -/
theorem Truthful.eq_of_behind {a u b v : Text} (h : d.Truthful (a ++ u).bytes (b ++ v).bytes)
    (hb : d.newStop ≤ b.byteLength) (hab : a.byteLength + d.newStop = b.byteLength + d.oldStop) :
    u = v := by
  have hback := congrArg (List.drop (b.byteLength - d.newStop)) h.back
  rw [List.drop_drop, List.drop_drop, bytes_append, bytes_append,
    List.drop_left' (by rw [length_bytes]; omega), List.drop_left' (by rw [length_bytes]; omega)] at hback
  exact bytes_inj hback

/-! ### Edits -/

theorem truthful_ofEdit (x y z new : List UInt8) :
    (ofEdit x.length y.length new.length).Truthful (x ++ y ++ z) (x ++ new ++ z) := by
  refine ⟨Nat.le_add_right .., ?_, Nat.le_add_right .., ?_, ?_, ?_⟩ <;> dsimp only [ofEdit]
  · simp only [List.length_append]; omega
  · simp only [List.length_append]; omega
  · rw [List.append_assoc, List.append_assoc, List.take_left, List.take_left]
  · rw [List.drop_left' List.length_append, List.drop_left' List.length_append]

/-- An edit that reaches behind the change: both ends move to the end of the edit. -/
theorem merge_of_lt {s old : Nat} (h : d.newStop < s + old) (new : Nat) :
    d.merge s old new = ⟨min d.start s, s + old - d.newStop + d.oldStop, s + new⟩ := by
  rw [merge, if_pos h]
  congr 1
  split
  · omega
  · rw [if_neg (by omega), Nat.max_self]

/-- An edit that ends inside the change or before it: the change grows as the edit does. -/
theorem merge_of_le {s old : Nat} (h : s + old ≤ d.newStop) (new : Nat) :
    d.merge s old new = ⟨min d.start s, d.oldStop, d.newStop - old + new⟩ := by
  rw [merge, if_neg (Nat.not_lt.2 h)]
  congr 1
  split <;> omega

/-- A truthful change stays truthful when a further edit of the new text is folded in. -/
theorem Truthful.merge (h : d.Truthful base (x ++ y ++ z)) (new : List UInt8) :
    (d.merge x.length y.length new.length).Truthful base (x ++ new ++ z) := by
  have hlen := h.length_eq
  have hnew := h.newStop_le
  have hstart := h.start_le_oldStop
  have hstart' := h.start_le_newStop
  simp only [List.length_append] at hlen hnew
  have hfront : base.take (min d.start x.length) = (x ++ new ++ z).take (min d.start x.length) := by
    have hx := congrArg (List.take (min d.start x.length)) h.front
    rw [List.take_take, List.take_take, Nat.min_eq_left (Nat.min_le_left ..)] at hx
    rw [hx, List.append_assoc, List.append_assoc, List.take_append_of_le_length (Nat.min_le_right ..),
      List.take_append_of_le_length (Nat.min_le_right ..)]
  rcases Nat.lt_or_ge d.newStop (x.length + y.length) with hlt | hge
  · rw [merge_of_lt hlt]
    refine ⟨?_, ?_, ?_, ?_, hfront, ?_⟩ <;> dsimp only
    · omega
    · omega
    · omega
    · simp only [List.length_append]; omega
    · -- behind the edit the base text goes on as the text before the edit does
      rw [Nat.add_comm, ← List.drop_drop, h.back, List.drop_drop, Nat.add_sub_cancel' (Nat.le_of_lt hlt),
        List.drop_left' List.length_append, List.drop_left' List.length_append]
  · rw [merge_of_le hge]
    refine ⟨?_, h.oldStop_le, ?_, ?_, hfront, ?_⟩ <;> dsimp only
    · omega
    · omega
    · simp only [List.length_append]; omega
    · obtain ⟨k, hk⟩ := Nat.exists_eq_add_of_le hge
      rw [h.back, show d.newStop = (x ++ y).length + k by rw [List.length_append, hk],
        show (x ++ y).length + k - y.length + new.length = (x ++ new).length + k by
          simp only [List.length_append]; omega, List.drop_length_add_append,
        List.drop_length_add_append]

end RSource.Change
