import RSource.Document.Snapshot
import RSource.Settings

/-! # Live documents

A live document has an owner, who edits the text, and a worker, who builds snapshots on request.
Readers see the published snapshot, which may be older than the text. A request that the worker has
not taken up is replaced by the next one, and a snapshot is published only if it is of the newest
version and newer than the one before. The steps of the owner and of the worker are separate
functions, so that they can follow one another in any order. -/

namespace RSource.Document

/-- A live document: the owner's text and version, the edits not known to be in the published
snapshot, each with the version it made, the newest version handed to the worker, the published
snapshot, and the worker's state: the request that waits, the one being built, and whether the
worker is running. -/
structure Live where
  text : Text
  version : Nat
  edits : List (Nat × Change)
  dispatched : Nat
  published : Snapshot
  queued : Option Request
  building : Option Request
  running : Bool
  settings : Settings.Tree

namespace Live

def new (text : Text) (settings : Settings.Tree) : Live :=
  { text, version := 0, edits := [], dispatched := 0, published := Snapshot.parse 0 text
    queued := none, building := none, running := false, settings }

def isReady (d : Live) : Bool :=
  d.published.version == d.version

/-- Publishes a snapshot if it is of the newest version and newer than the published one. -/
def publish (d : Live) (s : Snapshot) : Live :=
  if s.version = d.version ∧ d.published.version < s.version then { d with published := s } else d

/-! ## The owner -/

def pending (d : Live) : List (Nat × Change) :=
  d.edits.filter fun e => d.published.version < e.1

def foldEdits : List (Nat × Change) → Option Change
  | [] => none
  | (_, first) :: rest =>
    let fold (d : Change) (e : Change) : Change :=
      d.merge e.start (e.oldStop - e.start) (e.newStop - e.start)
    some (rest.foldl (fun d (_, e) => fold d e) first)

def request (d : Live) : Request :=
  ⟨d.version, d.text, d.published, foldEdits d.pending, d.settings.incrementalRelex⟩

/-- Hands a request for the newest version to the worker, unless there is nothing to build or the
version was handed over before. -/
def schedule (d : Live) : Live :=
  if d.isReady ∨ d.dispatched = d.version then d
  else
    { d with
      edits := d.pending
      dispatched := d.version
      queued := some d.request
      running := true }

/-- Replaces `oldLength` bytes at `start` by `insert`. Offsets outside the text or inside a
character are moved down to a boundary of the text. -/
def edit (d : Live) (start oldLength : Nat) (insert : Text) : Live :=
  let from' := d.text.floorBoundary start
  let upto := d.text.floorBoundary (start + oldLength)
  let version := d.version + 1
  let edited :=
    { d with
      text := d.text.splice from' upto insert
      version
      edits := d.edits ++ [(version, Change.ofEdit from' (upto - from') insert.byteLength)] }
  if d.settings.rebuildOnEdit then edited.schedule else edited

def reclaim (d : Live) : Live :=
  { d with queued := none }

def buildHere (d : Live) : Live :=
  let asked := { d with edits := d.pending, dispatched := d.version }
  asked.publish d.request.run

/-! ## The worker -/

/-- The worker takes up the request that waits, drops it if it is out of date, and stops if there is
none. -/
def takeUp (d : Live) : Live :=
  match d.queued with
  | none => { d with running := false }
  | some r =>
    if r.version < d.version then { d with queued := none }
    else { d with queued := none, building := some r }

def deliver (d : Live) : Live :=
  match d.building with
  | none => d
  | some r => { d.publish r.run with building := none }

def settle (d : Live) : Live :=
  d.deliver.takeUp.deliver.takeUp

/-! ## Readers -/

/-- The snapshot of the newest version, and the document that has it published. A request that waits
is taken back; for one that the worker is building the owner waits; else the owner builds. -/
def ensureReady (d : Live) : Snapshot × Live :=
  if d.isReady then (d.published, d)
  else
    let waits := d.queued.isNone && d.dispatched == d.version
    let d := d.reclaim
    let d := if waits then d.deliver else d
    let d := if d.isReady then d else d.buildHere
    (d.published, d)

def describe (d : Live) : String :=
  s!"EditorTree \x7b version: {d.version}, published: {d.published.version}, "
    ++ s!"pending_edits: {d.edits.length} \x7d"

end Live

end RSource.Document
