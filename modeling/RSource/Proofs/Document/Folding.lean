import RSource.Document.Live
import RSource.Proofs.Token.Change

/-!
# Folding a sequence of edits

Edits that follow one another, each inside the bytes that the ones before it have left, fold into one
change that is truthful for the first bytes and the last (`fold?_truthful`). Positions are natural
numbers, so a difference that falls below zero would be cut off without notice: `merge?` and `fold?` fail
there instead, and the statement says that they do not.

Nothing is said about characters: an edit may start or end inside one.
-/

namespace RSource

/-- The difference of two numbers, if it is not below zero. -/
def sub? (m n : Nat) : Option Nat :=
  if n ≤ m then some (m - n) else none

theorem sub?_of_le {m n : Nat} (h : n ≤ m) : sub? m n = some (m - n) :=
  if_pos h

namespace Change

def merge? (d : Change) (start oldLength newLength : Nat) : Option Change :=
  let editOldStop := start + oldLength
  let editNewStop := start + newLength
  let oldStop? :=
    if d.newStop < editOldStop then (sub? editOldStop d.newStop).map (· + d.oldStop)
    else some d.oldStop
  let moved? :=
    if d.newStop ≤ start then some d.newStop
    else if editOldStop ≤ d.newStop then (sub? d.newStop oldLength).map (· + newLength)
    else some editNewStop
  oldStop?.bind fun oldStop =>
    moved?.map fun moved => ⟨min d.start start, oldStop, max moved editNewStop⟩

/-- Every difference is taken where it is not below zero. -/
theorem merge?_eq (d : Change) (start oldLength newLength : Nat) :
    d.merge? start oldLength newLength = some (d.merge start oldLength newLength) := by
  have hold : (if d.newStop < start + oldLength then
        (sub? (start + oldLength) d.newStop).map (· + d.oldStop) else some d.oldStop) =
      some (if d.newStop < start + oldLength then start + oldLength - d.newStop + d.oldStop
        else d.oldStop) := by
    split
    · rw [sub?_of_le (by omega), Option.map_some]
    · rfl
  have hmoved : (if d.newStop ≤ start then some d.newStop
        else if start + oldLength ≤ d.newStop then (sub? d.newStop oldLength).map (· + newLength)
        else some (start + newLength)) =
      some (if d.newStop ≤ start then d.newStop
        else if start + oldLength ≤ d.newStop then d.newStop - oldLength + newLength
        else start + newLength) := by
    split
    · rfl
    · split
      · rw [sub?_of_le (by omega), Option.map_some]
      · rfl
  unfold merge?
  dsimp only
  rw [hold, hmoved]
  rfl

/-- The change `d` followed by the change `e` of the text after it, with checked differences. -/
def andThen? (d e : Change) : Option Change := do
  let oldLength ← sub? e.oldStop e.start
  let newLength ← sub? e.newStop e.start
  d.merge? e.start oldLength newLength

/-- One change that covers all of the given ones, each of them in the text that the ones before it have
left, with checked differences. -/
def fold? : List Change → Option Change
  | [] => none
  | first :: rest => rest.foldlM andThen? first

end Change

namespace Document

/-- A replacement of `oldLength` bytes at `start` by other bytes. -/
structure Replacement where
  start : Nat
  oldLength : Nat
  insert : List UInt8

namespace Replacement

def apply (r : Replacement) (t : List UInt8) : List UInt8 :=
  t.take r.start ++ r.insert ++ t.drop (r.start + r.oldLength)

def change (r : Replacement) : Change :=
  .ofEdit r.start r.oldLength r.insert.length

variable {r : Replacement} {t base : List UInt8} {d : Change}

theorem exists_parts (h : r.start + r.oldLength ≤ t.length) :
    ∃ x y z, t = x ++ y ++ z ∧ r.apply t = x ++ r.insert ++ z ∧
      r.change = .ofEdit x.length y.length r.insert.length := by
  refine ⟨t.take r.start, (t.drop r.start).take r.oldLength, t.drop (r.start + r.oldLength), ?_, rfl, ?_⟩
  · rw [← List.drop_drop, List.append_assoc, List.take_append_drop, List.take_append_drop]
  · rw [List.length_take_of_le (by omega), List.length_take_of_le (by rw [List.length_drop]; omega),
      change]

theorem truthful_change (h : r.start + r.oldLength ≤ t.length) : r.change.Truthful t (r.apply t) := by
  obtain ⟨x, y, z, rfl, ha, hc⟩ := exists_parts h
  rw [ha, hc]
  exact Change.truthful_ofEdit x y z r.insert

theorem truthful_merge (hd : d.Truthful base t) (h : r.start + r.oldLength ≤ t.length) :
    (d.merge r.start r.oldLength r.insert.length).Truthful base (r.apply t) := by
  obtain ⟨x, y, z, rfl, ha, hc⟩ := exists_parts h
  obtain ⟨hx, hy⟩ : r.start = x.length ∧ r.oldLength = y.length := by
    simp only [change, Change.ofEdit, Change.mk.injEq] at hc
    omega
  rw [ha, hx, hy]
  exact hd.merge r.insert

end Replacement

variable {base t : List UInt8} {d : Change} {rs : List Replacement}

def bytesAfter (t : List UInt8) (rs : List Replacement) : List UInt8 :=
  rs.foldl (fun t r => r.apply t) t

/-- Every replacement lies in the bytes that those before it have left. -/
def InBounds : List UInt8 → List Replacement → Prop
  | _, [] => True
  | t, r :: rs => r.start + r.oldLength ≤ t.length ∧ InBounds (r.apply t) rs

/-- The replacements folded into a change without checks. -/
def folded (d : Change) (rs : List Replacement) : Change :=
  rs.foldl (fun d r => d.merge r.start r.oldLength r.insert.length) d

theorem truthful_folded (hd : d.Truthful base t) (h : InBounds t rs) :
    (folded d rs).Truthful base (bytesAfter t rs) := by
  induction rs generalizing d t with
  | nil => exact hd
  | cons r rs ih => exact ih (r.truthful_merge hd h.1) h.2

theorem andThen?_change (d : Change) (r : Replacement) :
    d.andThen? r.change = some (d.merge r.start r.oldLength r.insert.length) := by
  have hold := sub?_of_le (Nat.le_add_right r.start r.oldLength)
  have hnew := sub?_of_le (Nat.le_add_right r.start r.insert.length)
  rw [Nat.add_sub_cancel_left] at hold hnew
  simp only [Change.andThen?, Replacement.change, Change.ofEdit, hold, hnew, Change.merge?_eq,
    Option.bind_eq_bind, Option.bind_some]

theorem fold?_map_change (r : Replacement) (rs : List Replacement) :
    Change.fold? ((r :: rs).map Replacement.change) = some (folded r.change rs) := by
  -- the change so far is general, since every step hands on another one
  suffices ∀ d : Change, (rs.map Replacement.change).foldlM Change.andThen? d = some (folded d rs) from
    this r.change
  induction rs with
  | nil => exact fun d => rfl
  | cons r rs ih =>
    intro d
    rw [List.map_cons, List.foldlM_cons, andThen?_change]
    exact ih _

/-- What the owner of a document folds, whatever the versions of the edits. -/
theorem foldEdits_eq {recorded : List (Nat × Change)} {r : Replacement}
    (h : recorded.map Prod.snd = (r :: rs).map Replacement.change) :
    Live.foldEdits recorded = some (folded r.change rs) := by
  cases recorded with
  | nil => cases h
  | cons first recorded =>
    rw [List.map_cons, List.map_cons, List.cons.injEq] at h
    -- the fold goes over the changes alone, and these are those of `rs`
    have hmap : recorded.foldl (fun d x => d.merge x.2.start (x.2.oldStop - x.2.start)
        (x.2.newStop - x.2.start)) r.change =
        (recorded.map Prod.snd).foldl (fun d e => d.merge e.start (e.oldStop - e.start)
          (e.newStop - e.start)) r.change := by
      rw [List.foldl_map]
    show some (recorded.foldl _ first.2) = _
    rw [h.1, hmap, h.2, List.foldl_map]
    simp only [Replacement.change, Change.ofEdit, Nat.add_sub_cancel_left]
    rfl

/-- Edits in bounds fold, without a difference below zero, into a change that is truthful for the bytes
before the first edit and behind the last. It is the change that the owner of a document folds. -/
theorem fold?_truthful (base : List UInt8) (r : Replacement) (rs : List Replacement)
    (h : InBounds base (r :: rs)) :
    ∃ d, Change.fold? ((r :: rs).map Replacement.change) = some d ∧
      (∀ recorded : List (Nat × Change), recorded.map Prod.snd = (r :: rs).map Replacement.change →
        Live.foldEdits recorded = some d) ∧
      d.Truthful base (bytesAfter base (r :: rs)) ∧
      d.delta = (bytesAfter base (r :: rs)).length - base.length := by
  have htrue : (folded r.change rs).Truthful base (bytesAfter base (r :: rs)) :=
    truthful_folded (r.truthful_change h.1) h.2
  have hlen := htrue.length_eq
  refine ⟨_, fold?_map_change r rs, fun recorded hrecorded => foldEdits_eq hrecorded, htrue, ?_⟩
  rw [Change.delta]
  omega

/-- Bytes are deleted before and behind an insertion, the second time beyond what the insertion brought,
and then two bytes come in at the very end. -/
theorem fold?_truthful_straddling :
    let base : List UInt8 := [97, 98, 99, 100, 101, 102]
    let rs : List Replacement := [⟨2, 1, [120, 121]⟩, ⟨1, 2, []⟩, ⟨1, 3, [122]⟩, ⟨3, 0, [33, 33]⟩]
    InBounds base rs ∧ bytesAfter base rs = [97, 122, 102, 33, 33] ∧
      ∃ d : Change, d = ⟨1, 6, 5⟩ ∧ Change.fold? (rs.map Replacement.change) = some d ∧
        d.Truthful base (bytesAfter base rs) ∧ d.delta = -1 := by
  intro base rs
  have hbounds : InBounds base rs := ⟨by decide, by decide, by decide, by decide, trivial⟩
  obtain ⟨d, hfold, -, htrue, hdelta⟩ := fold?_truthful base _ _ hbounds
  have hd : d = ⟨1, 6, 5⟩ := Option.some.inj (hfold.symm.trans (by decide))
  exact ⟨hbounds, by decide, d, hd, hfold, htrue, hdelta⟩

end Document

end RSource
