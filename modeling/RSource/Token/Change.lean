/-! # Changed regions

A change says that the bytes from `start` to `oldStop` of an older text were replaced by the bytes
from `start` to `newStop` of the current one. Further edits fold into one change that covers them
all. -/

namespace RSource

/-- A region in which an older text and the current one may differ. -/
structure Change where
  start : Nat
  oldStop : Nat
  newStop : Nat
  deriving DecidableEq, Repr, Inhabited

namespace Change

def ofEdit (start oldLength newLength : Nat) : Change :=
  ⟨start, start + oldLength, start + newLength⟩

def delta (d : Change) : Int :=
  d.newStop - d.oldStop

/-- The change `d` followed by the edit that replaces `oldLength` bytes at `start`, counted in the
text after `d`, by `newLength` bytes. -/
def merge (d : Change) (start oldLength newLength : Nat) : Change :=
  let editOldStop := start + oldLength
  let editNewStop := start + newLength
  let moved :=
    if d.newStop ≤ start then d.newStop
    else if editOldStop ≤ d.newStop then d.newStop - oldLength + newLength
    else editNewStop
  { start := min d.start start
    oldStop :=
      if d.newStop < editOldStop then editOldStop - d.newStop + d.oldStop else d.oldStop
    newStop := max moved editNewStop }

end Change

end RSource
