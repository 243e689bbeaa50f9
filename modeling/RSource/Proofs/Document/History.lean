import RSource.Document.Live
import RSource.Proofs.Token.Relex

/-!
# The history of a live document

The text of a version is the first text with the edits up to that version applied in order
(`textAfter`). The owner keeps the end of the log of these edits, and the part of it behind the
published version folds into one change that is truthful for the published text and the owner's
(`truthful_foldEdits_log`). So a request for the newest version, run at whatever time, gives the
snapshot of that version (`Consistent.sound_request`).
-/

namespace RSource.Document
open Text

/-! ### Edits -/

/-- A replacement of `oldLength` bytes at `start` by `insert`, with any offsets. -/
structure Edit where
  start : Nat
  oldLength : Nat
  insert : Text

variable {t : Text} {es : List Edit} {n v : Nat}

namespace Edit

/-- Where the edit starts in the text: its start, at most the text's length, and down to a boundary. -/
def lower (e : Edit) (t : Text) : Nat :=
  t.floorBoundary (min e.start t.byteLength)

/-- Where the edit ends in the text, clamped in the same way. A sum of start and length that is capped
anywhere behind the text comes to the same. -/
def upper (e : Edit) (t : Text) : Nat :=
  t.floorBoundary (min (e.start + e.oldLength) t.byteLength)

def apply (e : Edit) (t : Text) : Text :=
  t.takeBytes (e.lower t) ++ e.insert ++ t.dropBytes (e.upper t)

def change (e : Edit) (t : Text) : Change :=
  .ofEdit (e.lower t) (e.upper t - e.lower t) e.insert.byteLength

/-- The edit replaces the middle of three parts of the text. -/
theorem exists_parts (e : Edit) (t : Text) :
    ∃ x y z, t = x ++ y ++ z ∧ e.apply t = x ++ e.insert ++ z ∧
      e.change t = .ofEdit x.byteLength y.byteLength e.insert.byteLength := by
  have hle : e.lower t ≤ e.upper t :=
    floorBoundary_mono (by have := Nat.le_add_right e.start e.oldLength; omega)
  obtain ⟨x, y, z, rfl, hx, hy⟩ :=
    (isBoundary_floorBoundary t _).exists_three (isBoundary_floorBoundary t _) hle
  refine ⟨x, y, z, rfl, ?_, ?_⟩
  · rw [apply, show e.lower _ = _ from hx.symm, show e.upper _ = _ from hy.symm, dropBytes_append,
      List.append_assoc x y z, takeBytes_append]
  · rw [change, show e.lower _ = _ from hx.symm, show e.upper _ = _ from hy.symm, byteLength_append,
      Nat.add_sub_cancel_left]

theorem truthful_change (e : Edit) (t : Text) : (e.change t).Truthful t.bytes (e.apply t).bytes := by
  obtain ⟨x, y, z, rfl, ha, hc⟩ := e.exists_parts t
  rw [ha, hc, bytes_append, bytes_append, bytes_append, bytes_append]
  simpa only [length_bytes] using Change.truthful_ofEdit x.bytes y.bytes z.bytes e.insert.bytes

theorem truthful_merge {d : Change} {base : List UInt8} (h : d.Truthful base t.bytes) (e : Edit) :
    (d.merge (e.change t).start ((e.change t).oldStop - (e.change t).start)
      ((e.change t).newStop - (e.change t).start)).Truthful base (e.apply t).bytes := by
  obtain ⟨x, y, z, rfl, ha, hc⟩ := e.exists_parts t
  rw [bytes_append, bytes_append] at h
  have hm := h.merge e.insert.bytes
  simp only [length_bytes] at hm
  simpa only [ha, hc, Change.ofEdit, Nat.add_sub_cancel_left, bytes_append] using hm

end Edit

/-- The text after a list of edits, one after the other. -/
def textAfter (t : Text) (es : List Edit) : Text :=
  es.foldl (fun t e => e.apply t) t

@[simp] theorem textAfter_cons (t : Text) (e : Edit) (es : List Edit) :
    textAfter t (e :: es) = textAfter (e.apply t) es := rfl

@[simp] theorem textAfter_append (t : Text) (es fs : List Edit) :
    textAfter t (es ++ fs) = textAfter (textAfter t es) fs :=
  List.foldl_append

/-! ### The log -/

/-- The changes that the edits make, each with the version it makes. The text `t` is of version
`n`. -/
def log (t : Text) (n : Nat) : List Edit → List (Nat × Change)
  | [] => []
  | e :: es => (n + 1, e.change t) :: log (e.apply t) (n + 1) es

@[simp] theorem length_log : (log t n es).length = es.length := by
  induction es generalizing t n with
  | nil => rfl
  | cons e es ih => rw [log, List.length_cons, ih, List.length_cons]

theorem log_append (t : Text) (n : Nat) (es fs : List Edit) :
    log t n (es ++ fs) = log t n es ++ log (textAfter t es) (n + es.length) fs := by
  induction es generalizing t n with
  | nil => rfl
  | cons e es ih =>
    rw [List.cons_append, log, log, ih, List.cons_append, textAfter_cons, List.length_cons,
      Nat.add_right_comm, Nat.add_assoc]

theorem drop_log (h : v ≤ es.length) :
    (log t n es).drop v = log (textAfter t (es.take v)) (n + v) (es.drop v) := by
  conv_lhs => rw [← List.take_append_drop v es, log_append]
  rw [List.drop_left' (by rw [length_log, List.length_take_of_le h]), List.length_take_of_le h]

theorem lt_of_mem_log {x : Nat × Change} (h : x ∈ log t n es) : n < x.1 := by
  induction es generalizing t n with
  | nil => cases h
  | cons e es ih =>
    rcases List.mem_cons.1 h with rfl | h
    · exact Nat.lt_succ_self n
    · exact Nat.lt_of_succ_lt (ih h)

/-- Dropping the entries up to a version is dropping that many entries. -/
theorem filter_log : (log t n es).filter (fun x => n + v < x.1) = (log t n es).drop v := by
  induction es generalizing t n v with
  | nil => simp [log]
  | cons e es ih =>
    cases v with
    | zero =>
      rw [List.drop_zero, List.filter_eq_self]
      intro x hx
      exact decide_eq_true (lt_of_mem_log hx)
    | succ v =>
      rw [log, List.filter_cons_of_neg (by simp), List.drop_succ_cons, ← ih, Nat.add_right_comm,
        Nat.add_assoc]

/-- The log of one edit or more folds into a truthful change. -/
theorem truthful_foldEdits_log (t : Text) (n : Nat) (e : Edit) (es : List Edit) :
    ∃ d, Live.foldEdits (log t n (e :: es)) = some d ∧
      d.Truthful t.bytes (textAfter t (e :: es)).bytes := by
  refine ⟨_, rfl, ?_⟩
  rw [textAfter_cons]
  -- the fold is generalized over the change folded so far and the text it leads to
  have fold : ∀ (es : List Edit) (u : Text) (n : Nat) (d : Change), d.Truthful t.bytes u.bytes →
      ((log u n es).foldl (fun d x => d.merge x.2.start (x.2.oldStop - x.2.start)
        (x.2.newStop - x.2.start)) d).Truthful t.bytes (textAfter u es).bytes := by
    intro es
    induction es with
    | nil => intro u n d h; exact h
    | cons e es ih =>
      intro u n d h
      exact ih (e.apply u) (n + 1) _ (e.truthful_merge h)
  exact fold es (e.apply t) (n + 1) _ (e.truthful_change t)

/-! ### The owner's part of an edit, and publishing -/

namespace Live

variable {d : Live} {s : Snapshot}

/-- The owner's part of an edit: the text, the version and the log. -/
def record (d : Live) (e : Edit) : Live :=
  let from' := d.text.floorBoundary e.start
  let upto := d.text.floorBoundary (e.start + e.oldLength)
  { d with
    text := d.text.splice from' upto e.insert
    version := d.version + 1
    edits := d.edits ++
      [(d.version + 1, Change.ofEdit from' (upto - from') e.insert.byteLength)] }

theorem edit_eq (d : Live) (e : Edit) :
    d.edit e.start e.oldLength e.insert =
      if d.settings.rebuildOnEdit then (d.record e).schedule else d.record e := rfl

theorem record_text (d : Live) (e : Edit) : (d.record e).text = e.apply d.text := by
  rw [Edit.apply, Edit.lower, Edit.upper, floorBoundary_min, floorBoundary_min]
  rfl

theorem record_edits (d : Live) (e : Edit) :
    (d.record e).edits = d.edits ++ [(d.version + 1, e.change d.text)] := by
  rw [Edit.change, Edit.lower, Edit.upper, floorBoundary_min, floorBoundary_min]
  rfl

/-- A snapshot that is not of the newest version or not newer than the published one is dropped. -/
theorem publish_of_stale (h : s.version ≠ d.version ∨ s.version ≤ d.published.version) :
    d.publish s = d := by
  rw [publish, if_neg (by omega)]

theorem publish_cases (d : Live) (s : Snapshot) :
    d.publish s = d ∨
      (s.version = d.version ∧ d.published.version < s.version ∧
        d.publish s = { d with published := s }) := by
  by_cases h : s.version = d.version ∧ d.published.version < s.version
  · exact .inr ⟨h.1, h.2, if_pos h⟩
  · exact .inl (if_neg h)

@[simp] theorem publish_version (d : Live) (s : Snapshot) : (d.publish s).version = d.version := by
  rcases d.publish_cases s with h | ⟨-, -, h⟩ <;> rw [h]

@[simp] theorem publish_queued (d : Live) (s : Snapshot) : (d.publish s).queued = d.queued := by
  rcases d.publish_cases s with h | ⟨-, -, h⟩ <;> rw [h]

@[simp] theorem publish_running (d : Live) (s : Snapshot) : (d.publish s).running = d.running := by
  rcases d.publish_cases s with h | ⟨-, -, h⟩ <;> rw [h]

end Live

/-! ### Consistent documents -/

def snapshotAt (t : Text) (es : List Edit) (v : Nat) : Snapshot :=
  .parse v (textAfter t (es.take v))

theorem snapshotAt_append (h : v ≤ es.length) (fs : List Edit) :
    snapshotAt t (es ++ fs) v = snapshotAt t es v := by
  rw [snapshotAt, snapshotAt, List.take_append_of_le_length h]

theorem snapshotAt_length (t : Text) (es : List Edit) :
    snapshotAt t es es.length = .parse es.length (textAfter t es) := by
  rw [snapshotAt, List.take_length]

/-- With a truthful change, a snapshot built on an older one is the snapshot of the text. -/
theorem Snapshot.reparse_parse {before after : Text} {change : Change}
    (h : change.Truthful before.bytes after.bytes) (v w : Nat) :
    (parse v before).reparse w after change = parse w after := by
  have htokens := Token.relex_of_truthful (Token.withoutEos_tokenizeAll before) h
  simp only [reparse, parse, htokens]

/-- The request is for one of the versions and gives its snapshot. -/
structure Request.Sound (t : Text) (es : List Edit) (r : Request) : Prop where
  version_le : r.version ≤ es.length
  run_eq : r.run = snapshotAt t es r.version

theorem Request.Sound.append {r : Request} (h : r.Sound t es) (fs : List Edit) :
    r.Sound t (es ++ fs) := by
  refine ⟨?_, ?_⟩
  · rw [List.length_append]
    exact Nat.le_trans h.version_le (Nat.le_add_right ..)
  · rw [snapshotAt_append h.version_le, h.run_eq]

/-- The owner's side of the document is where the edits have led from the text `t`, and the published
snapshot is that of a version reached on the way. -/
structure Consistent (t : Text) (es : List Edit) (d : Live) : Prop where
  version_eq : d.version = es.length
  text_eq : d.text = textAfter t es
  /-- Only edits that the published snapshot has are left out. -/
  edits_eq : ∃ k ≤ d.published.version, d.edits = (log t 0 es).drop k
  published_le : d.published.version ≤ es.length
  published_eq : d.published = snapshotAt t es d.published.version

namespace Consistent

variable {d : Live}

theorem new (t : Text) (settings : Settings.Tree) : Consistent t [] (.new t settings) :=
  ⟨rfl, rfl, ⟨0, Nat.le_refl 0, rfl⟩, Nat.le_refl 0, rfl⟩

theorem pending_eq (h : Consistent t es d) : d.pending = (log t 0 es).drop d.published.version := by
  obtain ⟨k, hk, he⟩ := h.edits_eq
  have hdrop := drop_log (t := t) (n := 0) (Nat.le_trans hk h.published_le)
  have hf := @filter_log (textAfter t (es.take k)) (es.drop k) k (d.published.version - k)
  rw [Nat.add_sub_cancel' hk] at hf
  rw [Nat.zero_add] at hdrop
  rw [Live.pending, he, hdrop, hf, ← hdrop, List.drop_drop, Nat.add_sub_cancel' hk]

/-- A request for the newest version gives its snapshot, built on the published one or not. -/
theorem sound_request (h : Consistent t es d) : d.request.Sound t es := by
  refine ⟨Nat.le_of_eq h.version_eq, ?_⟩
  rw [show d.request.version = es.length from h.version_eq, snapshotAt_length]
  have hfold : d.request.change? = Live.foldEdits _ := congrArg Live.foldEdits h.pending_eq
  rw [drop_log h.published_le] at hfold
  unfold Request.run
  cases hes : es.drop d.published.version with
  | nil =>
    rw [hes, log, Live.foldEdits] at hfold
    rw [hfold]
    show Snapshot.parse d.version d.text = _
    rw [h.version_eq, h.text_eq]
  | cons e rest =>
    obtain ⟨c, hc, htrue⟩ := truthful_foldEdits_log (textAfter t (es.take d.published.version))
      (0 + d.published.version) e rest
    rw [← hes, ← textAfter_append, List.take_append_drop, ← h.text_eq] at htrue
    rw [hes, hc] at hfold
    rw [hfold]
    show (if d.settings.incrementalRelex then Snapshot.reparse d.published d.version d.text c
      else Snapshot.parse d.version d.text) = _
    rw [← h.text_eq, ← h.version_eq, h.published_eq, snapshotAt, Snapshot.reparse_parse htrue, ite_self]

theorem publish {s : Snapshot} (h : Consistent t es d) (hs : s = snapshotAt t es s.version) :
    Consistent t es (d.publish s) := by
  rcases d.publish_cases s with heq | ⟨hv, hlt, heq⟩
  · rwa [heq]
  · rw [heq]
    obtain ⟨k, hk, he⟩ := h.edits_eq
    exact ⟨h.version_eq, h.text_eq, ⟨k, Nat.le_trans hk (Nat.le_of_lt hlt), he⟩,
      Nat.le_of_eq (hv.trans h.version_eq), hs⟩

/-- Once a request for the newest version is done, that version is published, by it or before it. -/
theorem published_publish {r : Request} (h : Consistent t es d) (hr : r.Sound t es)
    (hv : r.version = d.version) : (d.publish r.run).published.version = d.version := by
  have hrun : r.run.version = d.version := by rw [hr.run_eq, ← hv]; rfl
  have hle : d.published.version ≤ d.version := h.version_eq ▸ h.published_le
  rcases Nat.lt_or_ge d.published.version d.version with hlt | hge
  · rw [Live.publish, if_pos ⟨hrun, hrun ▸ hlt⟩]
    exact hrun
  · rw [Live.publish_of_stale (.inr (hrun ▸ hge))]
    exact Nat.le_antisymm hle hge

theorem record (h : Consistent t es d) (e : Edit) : Consistent t (es ++ [e]) (d.record e) := by
  obtain ⟨k, hk, he⟩ := h.edits_eq
  refine ⟨?_, ?_, ⟨k, hk, ?_⟩, ?_, ?_⟩
  · rw [List.length_append, ← h.version_eq]; rfl
  · rw [Live.record_text, h.text_eq, textAfter_append]; rfl
  · rw [Live.record_edits, he, log_append, Nat.zero_add, ← h.text_eq, ← h.version_eq,
      List.drop_append_of_le_length (by rw [length_log]; exact Nat.le_trans hk h.published_le)]
    rfl
  · rw [List.length_append]
    exact Nat.le_trans h.published_le (Nat.le_add_right ..)
  · exact h.published_eq.trans (snapshotAt_append h.published_le [e]).symm

theorem retain (h : Consistent t es d) : Consistent t es { d with edits := d.pending } :=
  { h with edits_eq := ⟨d.published.version, Nat.le_refl _, h.pending_eq⟩ }

end Consistent

end RSource.Document
