import RSource.Proofs.Document.Interleaving

/-!
# A live document turn by turn

When nobody comes in between, the owner's operations and the worker's turns are runs of the machine
(`exists_steps_turn`, `exists_returned_ensureReady`): the functions of `Live` are orders of its
steps. So what holds in every order holds after every sequence of turns, and the snapshot that
`ensureReady` gives is that of all the edits so far (`ensureReady_turns`).
-/

namespace RSource.Document

variable {t : Text} {es : List Edit} {settings : Settings.Tree} {d : Live} {m m' m'' : Machine}
  {xs : List Loop} {evs : List Event} {s : Snapshot}

inductive Turn where
  | edit (e : Edit)
  | schedule
  | ensureReady
  /-- The worker does the next thing that it has to do. -/
  | worker

def Turn.edits : Turn → List Edit
  | .edit e => [e]
  | .schedule | .ensureReady | .worker => []

namespace Live

def turn (d : Live) : Turn → Live
  | .edit e => d.edit e.start e.oldLength e.insert
  | .schedule => d.schedule
  | .ensureReady => d.ensureReady.2
  | .worker => if d.building.isSome then d.deliver else d.takeUp

def turns (d : Live) (ts : List Turn) : Live :=
  ts.foldl turn d

def bare (d : Live) : Live :=
  { d with building := none }

def loops (d : Live) : List Loop :=
  match d.building with
  | some r => [.building r]
  | none => if d.running then [.looking] else []

theorem bare_publish (d : Live) (s : Snapshot) : (d.publish s).bare = d.bare.publish s := by
  unfold publish
  split
  · rw [if_pos (by assumption)]; rfl
  · rw [if_neg (by assumption)]

theorem loops_buildHere (d : Live) : d.buildHere.loops = d.loops := by
  unfold buildHere
  rcases publish_cases { d with edits := d.pending, dispatched := d.version } d.request.run with
    h | ⟨-, -, h⟩
  · rw [h]; rfl
  · rw [h]; rfl

theorem ensureReady_fst (d : Live) : d.ensureReady.1 = d.ensureReady.2.published := by
  unfold ensureReady
  split <;> rfl

theorem ensureReady_snd (h : ¬d.isReady) :
    let waited :=
      if d.queued.isNone && d.dispatched == d.version then d.reclaim.deliver else d.reclaim
    d.ensureReady.2 = if waited.isReady then waited else waited.buildHere := by
  rw [ensureReady, if_neg h]

theorem loops_of_building {r : Request} (h : d.building = some r) : d.loops = [.building r] := by
  rw [loops, h]

theorem loops_of_running (hb : d.building = none) (hr : d.running = true) :
    d.loops = [.looking] := by
  rw [loops, hb, hr]; rfl

end Live

namespace Machine

def ofLive (d : Live) : Machine :=
  ⟨d.bare, .idle, d.loops⟩

def Leads (m m' : Machine) : Prop :=
  ∃ evs, Steps m evs m' ∧ editsOf evs = []

theorem Leads.refl (m : Machine) : Leads m m :=
  ⟨[], .refl, rfl⟩

theorem Leads.head {ev : Event} (hs : Step m ev m') (hev : ev.edits = []) (h : Leads m' m'') :
    Leads m m'' := by
  obtain ⟨evs, hsteps, hevs⟩ := h
  exact ⟨ev :: evs, .head hs hsteps, by rw [editsOf, List.flatMap_cons, hev]; exact hevs⟩

theorem Leads.trans (h : Leads m m') (h' : Leads m' m'') : Leads m m'' := by
  obtain ⟨evs, hsteps, hevs⟩ := h
  obtain ⟨evs', hsteps', hevs'⟩ := h'
  exact ⟨evs ++ evs', hsteps.trans hsteps', by rw [editsOf_append, hevs, hevs']; rfl⟩

theorem Leads.sound (hm : Sound t es m) (h : Leads m m') : Sound t es m' := by
  obtain ⟨evs, hsteps, hevs⟩ := h
  have hm' := hm.steps hsteps
  rwa [hevs, List.append_nil] at hm'

theorem Leads.owner {o o' : Owner} {d' : Live} (hs : Owner.Step d o .silent d' o' [])
    (h : Leads ⟨d', o', xs⟩ m) : Leads ⟨d, o, xs⟩ m := by
  refine .head (.owner hs xs) rfl ?_
  rwa [List.append_nil]

theorem Leads.worker {o : Owner} {l : Loop} {ls : List Loop} {d' : Live} (hs : Loop.Step d l d' ls)
    (h : Leads ⟨d', o, ls⟩ m) : Leads ⟨d, o, [l]⟩ m := by
  refine .head (.worker hs o [] []) rfl ?_
  rwa [List.append_nil]

/-! ### The owner's turns -/

/-- The worker is said to run while it builds. -/
theorem Sound.running_of_building (h : Sound t es (ofLive d)) (hb : d.building.isSome) :
    d.running = true := by
  have hlen := h.length_loops
  obtain ⟨r, hr⟩ := Option.isSome_iff_exists.1 hb
  cases hrun : d.running with
  | true => rfl
  | false => simp [ofLive, Live.loops, hr, Live.bare, hrun] at hlen

theorem leads_schedule (hb : d.building.isSome → d.running = true) :
    Leads ⟨d.bare, .scheduling, d.loops⟩ (ofLive d.schedule) := by
  by_cases h : d.isReady ∨ d.dispatched = d.version
  · rw [Live.schedule, if_pos h]
    exact .owner (.nothingToBuild h) (.refl _)
  · rw [Live.schedule, if_neg h]
    refine .owner (.somethingToBuild h) (.owner .request (.head (.owner .enqueue _) rfl ?_))
    have hloops : d.loops ++ (if d.running then [] else [.looking]) =
        Live.loops { d with running := true } := by
      unfold Live.loops
      cases hbuild : d.building with
      | none => cases d.running <;> rfl
      | some r => simp [hb (by simp [hbuild])]
    exact hloops ▸ .refl _

theorem exists_steps_edit (e : Edit) (hb : d.building.isSome → d.running = true) :
    ∃ evs, Steps (ofLive d) evs (ofLive (d.edit e.start e.oldLength e.insert)) ∧ editsOf evs = [e] := by
  have hstep : Step (ofLive d) (.edited e)
      ⟨(d.record e).bare, if d.settings.rebuildOnEdit then .scheduling else .idle, d.loops⟩ := by
    have hs := Step.owner (Owner.Step.edit (d := d.bare) e) d.loops
    rwa [List.append_nil] at hs
  have hrest : Leads ⟨(d.record e).bare, if d.settings.rebuildOnEdit then .scheduling else .idle,
      (d.record e).loops⟩ (ofLive (d.edit e.start e.oldLength e.insert)) := by
    rw [Live.edit_eq]
    split
    · exact leads_schedule hb
    · exact .refl _
  obtain ⟨evs, hsteps, hevs⟩ := hrest
  exact ⟨.edited e :: evs, .head hstep hsteps, congrArg (e :: ·) hevs⟩

/-- The owner builds the newest version and is about to return it. -/
theorem leads_buildHere :
    Leads ⟨d.bare, .rebuilding, xs⟩ ⟨d.buildHere.bare, .reading, xs⟩ := by
  refine .owner .rebuild (.owner .publish ?_)
  rw [Live.buildHere, Live.bare_publish]
  exact .refl _

/-! ### The worker's turns -/

theorem leads_deliver {o : Owner} (hb : d.building.isSome → d.running = true) :
    Leads ⟨d.bare, o, d.loops⟩ ⟨d.deliver.bare, o, d.deliver.loops⟩ := by
  cases hbuild : d.building with
  | none =>
    rw [show d.deliver = d by rw [Live.deliver, hbuild]]
    exact .refl _
  | some r =>
    have hdeliver : d.deliver = { d.publish r.run with building := none } := by
      rw [Live.deliver, hbuild]
    have hrun : d.deliver.running = true := by
      rw [hdeliver, ← hb (by simp [hbuild])]
      exact Live.publish_running d r.run
    rw [Live.loops_of_building hbuild, Live.loops_of_running (by rw [hdeliver]) hrun]
    refine .worker .publish ?_
    rw [← Live.bare_publish, hdeliver]
    exact .refl _

theorem leads_takeUp (hbuild : d.building = none) (hq : d.queued.isSome → d.running = true) :
    Leads (ofLive d) (ofLive d.takeUp) := by
  obtain ⟨text, version, edits, dispatched, published, queued, building, running, settings⟩ := d
  obtain rfl : building = none := hbuild
  cases queued with
  | none =>
    cases running with
    | true => exact .worker (.stop rfl) (.refl _)
    | false => exact .refl _
  | some r =>
    obtain rfl : running = true := hq rfl
    dsimp only [Live.takeUp]
    by_cases hlt : r.version < version
    · rw [if_pos hlt]
      exact .worker (.take rfl) (.worker (.skip hlt) (.refl _))
    · rw [if_neg hlt]
      exact .worker (.take rfl) (.worker (.keep hlt) (.refl _))

/-! ### Asking for the newest snapshot -/

/-- The owner who waits for the worker, or builds the newest version, comes to return a snapshot. -/
theorem leads_ensureReady (h : Sound t es (ofLive d)) (hr : ¬d.isReady) :
    Leads (ofLive d) ⟨d.ensureReady.2.bare, .reading, d.ensureReady.2.loops⟩ := by
  have hstart : Leads (ofLive d) ⟨d.reclaim.bare,
      if d.queued.isNone && d.dispatched == d.version then .waiting else .rebuilding,
      d.reclaim.loops⟩ :=
    .owner .askReady (.owner (.outdated hr) (.owner .reclaim (.refl _)))
  have hbuild : ∀ d : Live, Leads ⟨d.bare, .rebuilding, d.loops⟩
      ⟨d.buildHere.bare, .reading, d.buildHere.loops⟩ := by
    intro d
    rw [Live.loops_buildHere]
    exact leads_buildHere
  rw [Live.ensureReady_snd hr]
  cases hw : d.queued.isNone && d.dispatched == d.version with
  | false =>
    rw [hw] at hstart
    rw [if_neg Bool.false_ne_true, if_neg (show ¬d.reclaim.isReady from hr)]
    exact hstart.trans (hbuild _)
  | true =>
    rw [hw] at hstart
    rw [if_pos rfl]
    have hwait := hstart.trans (leads_deliver h.running_of_building)
    have hm := hwait.sound h
    by_cases hr' : d.reclaim.deliver.isReady
    · rw [if_pos hr']
      have hv : d.reclaim.deliver.published.version = d.reclaim.deliver.version := by
        simpa [Live.isReady] using hr'
      exact hwait.trans (.owner (.arrived (Nat.le_of_eq hv.symm)) (.refl _))
    · -- the worker was not building the newest version, and the wait ends in a timeout
      rw [if_neg hr']
      have hv : d.reclaim.deliver.published.version ≠ d.reclaim.deliver.version := by
        simpa [Live.isReady] using hr'
      have hle := hm.doc.published_le
      rw [← hm.doc.version_eq] at hle
      exact hwait.trans (.owner (.timeout (Nat.lt_of_le_of_ne hle hv)) (hbuild _))

/-- The owner who is asked for the newest snapshot comes to return what `ensureReady` gives. -/
theorem exists_returned_ensureReady (h : Sound t es (ofLive d)) :
    ∃ m, Leads (ofLive d) m ∧ Step m (.returned d.ensureReady.1) (ofLive d.ensureReady.2) := by
  by_cases hr : d.isReady
  · rw [Live.ensureReady, if_pos hr]
    refine ⟨⟨d.bare, .checking, d.loops⟩, .owner .askReady (.refl _), ?_⟩
    have hs := Step.owner (Owner.Step.current (d := d.bare) hr) d.loops
    rwa [List.append_nil] at hs
  · refine ⟨_, leads_ensureReady h hr, ?_⟩
    rw [Live.ensureReady_fst]
    have hs := Step.owner (Owner.Step.read (d := d.ensureReady.2.bare)) d.ensureReady.2.loops
    rwa [List.append_nil] at hs

/-! ### Sequences of turns -/

theorem exists_steps_turn (h : Sound t es (ofLive d)) (a : Turn) :
    ∃ evs, Steps (ofLive d) evs (ofLive (d.turn a)) ∧ editsOf evs = a.edits := by
  cases a with
  | edit e => exact exists_steps_edit e h.running_of_building
  | schedule => exact Leads.owner .askRebuild (leads_schedule h.running_of_building)
  | ensureReady =>
    obtain ⟨m, hm, hs⟩ := exists_returned_ensureReady h
    exact hm.trans (.head hs rfl (.refl _))
  | worker =>
    rw [Live.turn]
    by_cases hb : d.building.isSome
    · rw [if_pos hb]
      exact leads_deliver h.running_of_building
    · rw [if_neg hb]
      exact leads_takeUp (by simpa using hb) h.running

theorem sound_turns (t : Text) (settings : Settings.Tree) (ts : List Turn) :
    Sound t (ts.flatMap Turn.edits) (ofLive ((Live.new t settings).turns ts)) := by
  suffices ∀ (ts : List Turn) (es : List Edit) (d : Live), Sound t es (ofLive d) →
      Sound t (es ++ ts.flatMap Turn.edits) (ofLive (d.turns ts)) from
    this ts [] _ (.new t settings)
  intro ts
  induction ts with
  | nil => intro es d h; rwa [List.flatMap_nil, List.append_nil]
  | cons a ts ih =>
    intro es d h
    obtain ⟨evs, hsteps, hevs⟩ := exists_steps_turn h a
    rw [List.flatMap_cons, ← List.append_assoc, ← hevs]
    exact ih _ _ (h.steps hsteps)

end Machine

/-- After every sequence of turns, `ensureReady` gives the snapshot of the text with all the edits. -/
theorem ensureReady_turns (t : Text) (settings : Settings.Tree) (ts : List Turn) :
    let s := ((Live.new t settings).turns ts).ensureReady.1
    let es := ts.flatMap Turn.edits
    s.version = es.length ∧
      s.text = textAfter t es ∧
      s.tokens = Token.tokenizeAll s.text ∧
      s.tree = Grammar.build s.text (Token.tokenizeAll s.text) := by
  have h := Machine.sound_turns t settings ts
  obtain ⟨m, hm, hs⟩ := Machine.exists_returned_ensureReady h
  have hsnapshot := ((hm.sound h).returned hs).1
  dsimp only
  rw [hsnapshot, snapshotAt_length]
  exact ⟨rfl, rfl, rfl, rfl⟩

end RSource.Document
