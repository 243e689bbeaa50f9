import RSource.Proofs.Document.History

/-!
# Every order of the owner's and the worker's steps

The owner and the loops of the worker take turns at the document, in any order. A step is what one of
them does between two moments at which another one may come in: a look at the published snapshot, a
look into the worker's slot, a publication. A loop is started when a request is put into the slot of a
worker that does not run, and ends when it finds the slot empty.

The invariant is `Machine.Sound`: the document is consistent with the edits made so far, every request
that somebody holds gives the snapshot of its version, and there is exactly one loop if the worker is
said to run and none otherwise. One step keeps it (`Sound.step`), so every run does (`Sound.steps`).
-/

namespace RSource.Document

inductive Owner where
  | idle
  /-- Asked for a rebuild: see whether there is something to build. -/
  | scheduling
  /-- Make the request for the worker. -/
  | requesting
  /-- Put the request into the worker's slot. -/
  | enqueuing (r : Request)
  /-- Asked for the newest snapshot: see whether it is published. -/
  | checking
  /-- Take back what waits in the slot. -/
  | reclaiming
  /-- Wait for the worker to publish the newest version. -/
  | waiting
  /-- Make a request to run here. -/
  | rebuilding
  /-- Run the request and publish. -/
  | building (r : Request)
  /-- Return the published snapshot. -/
  | reading

inductive Loop where
  /-- Look into the slot. -/
  | looking
  /-- See whether the request is out of date. -/
  | holding (r : Request)
  /-- Run the request and publish. -/
  | building (r : Request)

inductive Event where
  | edited (e : Edit)
  | returned (s : Snapshot)
  | silent

/-- The document, what its owner does next, and the loops that are active. -/
structure Machine where
  doc : Live
  owner : Owner
  loops : List Loop

/-- A step of the owner, with the loops that it starts. -/
inductive Owner.Step : Live → Owner → Event → Live → Owner → List Loop → Prop
  | edit {d : Live} (e : Edit) :
    Step d .idle (.edited e) (d.record e)
      (if d.settings.rebuildOnEdit then .scheduling else .idle) []
  | askRebuild {d : Live} : Step d .idle .silent d .scheduling []
  | nothingToBuild {d : Live} (h : d.isReady ∨ d.dispatched = d.version) :
    Step d .scheduling .silent d .idle []
  | somethingToBuild {d : Live} (h : ¬(d.isReady ∨ d.dispatched = d.version)) :
    Step d .scheduling .silent d .requesting []
  | request {d : Live} :
    Step d .requesting .silent { d with edits := d.pending } (.enqueuing d.request) []
  | enqueue {d : Live} {r : Request} :
    Step d (.enqueuing r) .silent
      { d with dispatched := d.version, queued := some r, running := true } .idle
      (if d.running then [] else [.looking])
  | askReady {d : Live} : Step d .idle .silent d .checking []
  | current {d : Live} (h : d.isReady) : Step d .checking (.returned d.published) d .idle []
  | outdated {d : Live} (h : ¬d.isReady) : Step d .checking .silent d .reclaiming []
  | reclaim {d : Live} :
    Step d .reclaiming .silent d.reclaim
      (if d.queued.isNone && d.dispatched == d.version then .waiting else .rebuilding) []
  | arrived {d : Live} (h : d.version ≤ d.published.version) : Step d .waiting .silent d .reading []
  | timeout {d : Live} (h : d.published.version < d.version) :
    Step d .waiting .silent d .rebuilding []
  | rebuild {d : Live} :
    Step d .rebuilding .silent { d with edits := d.pending } (.building d.request) []
  | publish {d : Live} {r : Request} :
    Step d (.building r) .silent ({ d with dispatched := d.version }.publish r.run) .reading []
  | read {d : Live} : Step d .reading (.returned d.published) d .idle []

/-- A step of a loop, with what is left of the loop. -/
inductive Loop.Step : Live → Loop → Live → List Loop → Prop
  | stop {d : Live} (h : d.queued = none) : Step d .looking { d with running := false } []
  | take {d : Live} {r : Request} (h : d.queued = some r) :
    Step d .looking { d with queued := none } [.holding r]
  | skip {d : Live} {r : Request} (h : r.version < d.version) : Step d (.holding r) d [.looking]
  | keep {d : Live} {r : Request} (h : ¬r.version < d.version) : Step d (.holding r) d [.building r]
  | publish {d : Live} {r : Request} : Step d (.building r) (d.publish r.run) [.looking]

namespace Machine

/-- A step of the owner or of any one of the loops. -/
inductive Step : Machine → Event → Machine → Prop
  | owner {d d' : Live} {o o' : Owner} {ev : Event} {ls : List Loop}
      (h : Owner.Step d o ev d' o' ls) (loops : List Loop) :
    Step ⟨d, o, loops⟩ ev ⟨d', o', loops ++ ls⟩
  | worker {d d' : Live} {l : Loop} {ls : List Loop} (h : Loop.Step d l d' ls) (o : Owner)
      (front back : List Loop) :
    Step ⟨d, o, front ++ l :: back⟩ .silent ⟨d', o, front ++ ls ++ back⟩

inductive Steps (m : Machine) : List Event → Machine → Prop
  | refl : Steps m [] m
  | tail {evs : List Event} {ev : Event} {m' m'' : Machine} (h : Steps m evs m') (hs : Step m' ev m'') :
    Steps m (evs ++ [ev]) m''

def new (t : Text) (settings : Settings.Tree) : Machine :=
  ⟨.new t settings, .idle, []⟩

end Machine

def Event.edits : Event → List Edit
  | .edited e => [e]
  | .returned _ | .silent => []

def editsOf (evs : List Event) : List Edit :=
  evs.flatMap Event.edits

@[simp] theorem editsOf_append (evs evs' : List Event) :
    editsOf (evs ++ evs') = editsOf evs ++ editsOf evs' :=
  List.flatMap_append

@[simp] theorem editsOf_singleton (ev : Event) : editsOf [ev] = ev.edits :=
  List.flatMap_singleton ..

variable {t : Text} {es : List Edit} {settings : Settings.Tree} {d d' : Live} {o o' : Owner} {l : Loop}
  {ls : List Loop} {m m' m'' : Machine} {s : Snapshot} {ev : Event} {evs evs' : List Event} {r : Request}

/-! ### The invariant -/

/-- What holds of the document while the owner is about to do this. -/
def Owner.Sound (t : Text) (es : List Edit) (d : Live) : Owner → Prop
  | .enqueuing r => r.Sound t es
  | .building r => r.Sound t es ∧ r.version = d.version
  | .reading => d.published.version = d.version
  | _ => True

theorem Owner.Sound.publish (h : o.Sound t es d) (s : Snapshot) : o.Sound t es (d.publish s) := by
  rcases d.publish_cases s with heq | ⟨hv, -, heq⟩
  · rwa [heq]
  · rw [heq]
    cases o with
    | reading => exact hv
    | _ => exact h

def Loop.Sound (t : Text) (es : List Edit) : Loop → Prop
  | .looking => True
  | .holding r | .building r => r.Sound t es

theorem Loop.Sound.append (h : l.Sound t es) (fs : List Edit) : l.Sound t (es ++ fs) := by
  cases l with
  | looking => trivial
  | holding r | building r => exact Request.Sound.append h fs

namespace Machine

/-- The machine is where the edits have led it. -/
structure Sound (t : Text) (es : List Edit) (m : Machine) : Prop where
  doc : Consistent t es m.doc
  queued : ∀ r, m.doc.queued = some r → r.Sound t es
  owner : m.owner.Sound t es m.doc
  loops : ∀ l ∈ m.loops, l.Sound t es
  /-- The worker is said to run exactly if there is a loop, and there is never more than one. -/
  length_loops : m.loops.length = m.doc.running.toNat
  running : m.doc.queued.isSome → m.doc.running = true

theorem Sound.new (t : Text) (settings : Settings.Tree) : Sound t [] (new t settings) :=
  ⟨.new t settings, nofun, trivial, nofun, rfl, nofun⟩

theorem Sound.publish {r : Request} (h : Sound t es m) (hr : r.Sound t es) :
    Sound t es { m with doc := m.doc.publish r.run } := by
  have hv : r.run.version = r.version := by rw [hr.run_eq]; rfl
  refine ⟨h.doc.publish (by rw [hv]; exact hr.run_eq), ?_, h.owner.publish _, h.loops, ?_, ?_⟩
  · simpa using h.queued
  · simpa using h.length_loops
  · simpa using h.running

theorem Sound.owner_step {loops : List Loop} (h : Sound t es ⟨d, o, loops⟩)
    (hs : Owner.Step d o ev d' o' ls) : Sound t (es ++ ev.edits) ⟨d', o', loops ++ ls⟩ := by
  cases hs with
  | edit e =>
    refine ⟨h.doc.record e, fun r hr => (h.queued r hr).append [e], ?_, fun l hl => ?_, ?_, h.running⟩
    · dsimp only
      split <;> trivial
    · rw [List.append_nil] at hl
      exact (h.loops l hl).append [e]
    · rw [List.append_nil]
      exact h.length_loops
  | enqueue =>
    have hr : Request.Sound t es _ := h.owner
    have hlen := h.length_loops
    rw [Event.edits, List.append_nil]
    refine ⟨{ h.doc with }, ?_, trivial, fun l hl => ?_, ?_, fun _ => rfl⟩
    · rintro r' ⟨⟩
      exact hr
    · rcases List.mem_append.1 hl with hl | hl
      · exact h.loops l hl
      · split at hl <;> simp only [List.not_mem_nil, List.mem_singleton] at hl
        rw [hl]
        trivial
    · -- a loop is started exactly if there was none
      cases hrun : d.running <;> simp [hrun] at hlen ⊢ <;> simp [hlen]
  | nothingToBuild | somethingToBuild | askRebuild | askReady | current | outdated | timeout | read =>
    rw [Event.edits, List.append_nil, List.append_nil]
    exact { h with owner := trivial }
  | request =>
    rw [Event.edits, List.append_nil, List.append_nil]
    exact { h with doc := h.doc.retain, owner := h.doc.sound_request }
  | rebuild =>
    rw [Event.edits, List.append_nil, List.append_nil]
    exact { h with doc := h.doc.retain, owner := ⟨h.doc.sound_request, rfl⟩ }
  | reclaim =>
    rw [Event.edits, List.append_nil, List.append_nil]
    refine ⟨{ h.doc with }, nofun, ?_, h.loops, h.length_loops, nofun⟩
    dsimp only
    split <;> trivial
  | arrived hle =>
    rw [Event.edits, List.append_nil, List.append_nil]
    have hpub : d.published.version ≤ d.version := h.doc.version_eq ▸ h.doc.published_le
    exact { h with owner := Nat.le_antisymm hpub hle }
  | publish =>
    rw [Event.edits, List.append_nil, List.append_nil]
    obtain ⟨hr, hv⟩ := h.owner
    have hdispatched : Sound t es ⟨{ d with dispatched := d.version }, .idle, loops⟩ :=
      { h with doc := { h.doc with }, owner := trivial }
    refine { hdispatched.publish hr with owner := ?_ }
    show (Live.publish _ _).published.version = (Live.publish _ _).version
    rw [Live.publish_version]
    exact hdispatched.doc.published_publish hr hv

theorem Sound.worker_step {front back : List Loop} (h : Sound t es ⟨d, o, front ++ l :: back⟩)
    (hs : Loop.Step d l d' ls) : Sound t es ⟨d', o, front ++ ls ++ back⟩ := by
  have hlen := h.length_loops
  have hl : l.Sound t es := h.loops l (by simp)
  have hloops : (∀ x ∈ ls, x.Sound t es) → ∀ x ∈ front ++ ls ++ back, x.Sound t es := by
    intro hls x hx
    simp only [List.mem_append] at hx
    rcases hx with (hx | hx) | hx
    · exact h.loops x (by simp [hx])
    · exact hls x hx
    · exact h.loops x (by simp [hx])
  simp only [List.length_append, List.length_cons] at hlen
  cases hs with
  | stop hq =>
    refine ⟨{ h.doc with }, h.queued, h.owner, hloops nofun, ?_, by simp [hq]⟩
    -- it was the only loop
    have := Bool.toNat_le d.running
    simp only [List.append_nil, List.length_append, Bool.toNat_false]
    omega
  | take hq =>
    refine ⟨{ h.doc with }, nofun, h.owner, hloops ?_, ?_, nofun⟩
    · exact List.forall_mem_singleton.2 (h.queued _ hq)
    · simpa [Nat.add_right_comm] using hlen
  | skip =>
    refine { h with loops := hloops (List.forall_mem_singleton.2 trivial), length_loops := ?_ }
    simpa using hlen
  | keep =>
    refine { h with loops := hloops (List.forall_mem_singleton.2 hl), length_loops := ?_ }
    simpa using hlen
  | publish =>
    refine { h.publish hl with loops := hloops (List.forall_mem_singleton.2 trivial), length_loops := ?_ }
    simpa using hlen

theorem Sound.step (h : Sound t es m) (hs : Step m ev m') : Sound t (es ++ ev.edits) m' := by
  cases hs with
  | owner hs loops => exact h.owner_step hs
  | worker hs o front back =>
    rw [Event.edits, List.append_nil]
    exact h.worker_step hs

theorem Sound.steps (h : Sound t es m) (hs : Steps m evs m') : Sound t (es ++ editsOf evs) m' := by
  induction hs with
  | refl => simpa [editsOf] using h
  | tail _ hs ih =>
    rw [editsOf_append, editsOf_singleton, ← List.append_assoc]
    exact ih.step hs

/-! ### What is published and what is returned -/

/-- A step publishes nothing, or a newer snapshot of the newest version. -/
theorem Step.published (hs : Step m ev m') :
    m'.doc.published = m.doc.published ∨
      (m'.doc.published.version = m.doc.version ∧
        m.doc.published.version < m'.doc.published.version) := by
  have hpublish : ∀ (d : Live) (s : Snapshot), (d.publish s).published = d.published ∨
      ((d.publish s).published.version = d.version ∧
        d.published.version < (d.publish s).published.version) := by
    intro d s
    rcases d.publish_cases s with heq | ⟨hv, hlt, heq⟩
    · exact .inl (by rw [heq])
    · rw [heq]
      exact .inr ⟨hv, hlt⟩
  cases hs with
  | owner hs loops =>
    cases hs with
    | publish => exact hpublish _ _
    | _ => exact .inl rfl
  | worker hs o front back =>
    cases hs with
    | publish => exact hpublish _ _
    | _ => exact .inl rfl

/-- What the owner returns is the snapshot of the newest version. -/
theorem Sound.returned (h : Sound t es m) (hs : Step m (.returned s) m') :
    s = snapshotAt t es es.length ∧ s.version = m.doc.version := by
  have hs' : s = m.doc.published ∧ m.doc.published.version = m.doc.version := by
    cases hs with
    | owner hs loops =>
      cases hs with
      | current hr => exact ⟨rfl, by simpa [Live.isReady] using hr⟩
      | read => exact ⟨rfl, h.owner⟩
  obtain ⟨rfl, hv⟩ := hs'
  refine ⟨?_, hv⟩
  have hp := h.doc.published_eq
  rwa [hv, h.doc.version_eq] at hp

/-! ### The owner is never held up -/

theorem Steps.trans (h : Steps m evs m') (h' : Steps m' evs' m'') : Steps m (evs ++ evs') m'' := by
  induction h' with
  | refl => rwa [List.append_nil]
  | tail _ hs ih =>
    rw [← List.append_assoc]
    exact .tail ih hs

theorem Steps.head (hs : Step m ev m') (h : Steps m' evs m'') : Steps m (ev :: evs) m'' :=
  (Steps.tail .refl hs).trans h

/-- Without a step of the worker, the owner comes to return a snapshot. -/
def Returns (m : Machine) : Prop :=
  ∃ n s m', Steps m (List.replicate n .silent ++ [.returned s]) m' ∧ m'.loops = m.loops

theorem Returns.of_owner_step {loops : List Loop} (hs : Owner.Step d o .silent d' o' [])
    (h : Returns ⟨d', o', loops⟩) : Returns ⟨d, o, loops⟩ := by
  obtain ⟨n, s, m', hsteps, hloops⟩ := h
  have hstep := Step.owner hs loops
  rw [List.append_nil] at hstep
  exact ⟨n + 1, s, m', .head hstep hsteps, hloops⟩

end Machine

/-- The owner has been asked for the newest snapshot. -/
def Owner.isAsked : Owner → Bool
  | .idle | .scheduling | .requesting | .enqueuing _ => false
  | .checking | .reclaiming | .waiting | .rebuilding | .building _ | .reading => true

namespace Machine

/-- However the worker stands, an owner who has been asked for the newest snapshot comes to return
one: the wait can end in a timeout. -/
theorem returns_of_isAsked (h : m.owner.isAsked) : Returns m := by
  obtain ⟨d, o, loops⟩ := m
  have hreading : ∀ d, Returns ⟨d, .reading, loops⟩ := fun d =>
    ⟨0, d.published, ⟨d, .idle, loops ++ []⟩, .tail .refl (.owner .read loops), List.append_nil _⟩
  have hrebuilding : ∀ d, Returns ⟨d, .rebuilding, loops⟩ := fun d =>
    .of_owner_step .rebuild (.of_owner_step .publish (hreading _))
  have hwaiting : ∀ d, Returns ⟨d, .waiting, loops⟩ := by
    intro d
    rcases Nat.lt_or_ge d.published.version d.version with hlt | hge
    · exact .of_owner_step (.timeout hlt) (hrebuilding d)
    · exact .of_owner_step (.arrived hge) (hreading d)
  have hreclaiming : ∀ d, Returns ⟨d, .reclaiming, loops⟩ := by
    intro d
    refine .of_owner_step .reclaim ?_
    split
    · exact hwaiting _
    · exact hrebuilding _
  cases o with
  | checking =>
    by_cases hr : d.isReady
    · exact ⟨0, d.published, ⟨d, .idle, loops ++ []⟩, .tail .refl (.owner (.current hr) loops),
        List.append_nil _⟩
    · exact .of_owner_step (.outdated hr) (hreclaiming d)
  | reclaiming => exact hreclaiming d
  | waiting => exact hwaiting d
  | rebuilding => exact hrebuilding d
  | building r => exact .of_owner_step .publish (hreading _)
  | reading => exact hreading d
  | idle | scheduling | requesting | enqueuing r => cases h

/-- In every state that any order of steps leads to: the published snapshot is that of the text after
as many edits as its version says; it is not ahead of the owner, and a step replaces it only by a
newer one of the newest version; a request that waits has a loop to take it; and an owner asked for
the newest snapshot comes to return it, and never returns another one. -/
theorem steps_new_safe (t : Text) (settings : Settings.Tree) (evs : List Event) (m : Machine)
    (h : Steps (new t settings) evs m) :
    m.doc.version = (editsOf evs).length ∧
      m.doc.published = .parse m.doc.published.version
        (textAfter t ((editsOf evs).take m.doc.published.version)) ∧
      m.doc.published.version ≤ m.doc.version ∧
      (∀ ev m', Step m ev m' → m.doc.published.version ≤ m'.doc.published.version ∧
        (m'.doc.published = m.doc.published ∨
          m'.doc.published.version = m.doc.version ∧
            m.doc.published.version < m'.doc.published.version)) ∧
      (∀ s : Snapshot, s.version ≠ m.doc.version ∨ s.version ≤ m.doc.published.version →
        m.doc.publish s = m.doc) ∧
      (m.doc.queued.isSome → m.loops ≠ []) ∧
      (m.owner.isAsked → Returns m) ∧
      ∀ s m', Step m (.returned s) m' →
        s.version = m.doc.version ∧ s = .parse m.doc.version (textAfter t (editsOf evs)) := by
  have hm : Sound t (editsOf evs) m := (Sound.new t settings).steps h
  refine ⟨hm.doc.version_eq, hm.doc.published_eq, hm.doc.version_eq ▸ hm.doc.published_le, ?_,
    fun s => Live.publish_of_stale, ?_, returns_of_isAsked, ?_⟩
  · intro ev m' hs
    rcases hs.published with heq | ⟨hv, hlt⟩
    · exact ⟨Nat.le_of_eq (by rw [heq]), .inl heq⟩
    · exact ⟨Nat.le_of_lt hlt, .inr ⟨hv, hlt⟩⟩
  · intro hq hnil
    have hlen := hm.length_loops
    rw [hnil, hm.running hq] at hlen
    cases hlen
  · intro s m' hs
    obtain ⟨heq, hv⟩ := hm.returned hs
    refine ⟨hv, ?_⟩
    rw [heq, snapshotAt_length, hm.doc.version_eq]

/-- The worker takes up the request for an edit, the owner does not wait for it to the end and
publishes the version itself, and then the worker's late snapshot is dropped. -/
theorem steps_new_safe_late_worker :
    ∃ evs m, Steps (new "x".toList {}) evs m ∧ editsOf evs = [⟨1, 0, "y".toList⟩] ∧
      m.owner = .reading ∧ m.doc.published = .parse 1 (textAfter "x".toList [⟨1, 0, "y".toList⟩]) := by
  have hrun : ∃ m, Steps (new "x".toList {})
      (.edited ⟨1, 0, "y".toList⟩ :: List.replicate 12 .silent) m ∧
      m.owner = .reading ∧ m.doc.published.version = 1 := by
    exact ⟨_,
      .head (.owner (.edit _) []) <|
      .head (.owner (.somethingToBuild (by decide)) []) <|
      .head (.owner .request []) <|
      .head (.owner .enqueue []) <|
      .head (.worker (.take rfl) _ [] []) <|
      .head (.worker (.keep (by decide)) _ [] []) <|
      .head (.owner .askReady _) <|
      .head (.owner (.outdated (by decide)) _) <|
      .head (.owner .reclaim _) <|
      .head (.owner (.timeout (by decide)) _) <|
      .head (.owner .rebuild _) <|
      .head (.owner .publish _) <|
      .head (.worker .publish _ [] []) .refl, rfl, rfl⟩
  obtain ⟨m, hsteps, howner, hv⟩ := hrun
  have hp := (steps_new_safe _ _ _ _ hsteps).2.1
  rw [hv] at hp
  exact ⟨_, m, hsteps, rfl, howner, hp⟩

end Machine

end RSource.Document
