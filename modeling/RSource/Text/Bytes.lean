/-! # Text and its byte offsets

A text is a list of characters. Positions in it are counted in the bytes of its UTF-8 form, so an
offset may fall inside a character. `takeBytes` and `dropBytes` round such an offset down to the
character's start; `slice?` refuses it. -/

namespace RSource

abbrev Text := List Char

namespace Text

def byteLength : Text → Nat
  | [] => 0
  | c :: cs => c.utf8Size + byteLength cs

def takeBytes (n : Nat) : Text → Text
  | [] => []
  | c :: cs => if c.utf8Size ≤ n then c :: takeBytes (n - c.utf8Size) cs else []

def dropBytes (n : Nat) : Text → Text
  | [] => []
  | c :: cs => if c.utf8Size ≤ n then dropBytes (n - c.utf8Size) cs else c :: cs

/-- The greatest character boundary of the text at or below `n`. -/
def floorBoundary (t : Text) (n : Nat) : Nat :=
  byteLength (takeBytes n t)

/-- The beginning of exactly `n` bytes, if a character ends there. -/
def takeExact? (n : Nat) : Text → Option Text
  | [] => if n = 0 then some [] else none
  | c :: cs =>
    if n = 0 then some []
    else if c.utf8Size ≤ n then (takeExact? (n - c.utf8Size) cs).map (c :: ·)
    else none

def dropExact? (n : Nat) : Text → Option Text
  | [] => if n = 0 then some [] else none
  | c :: cs =>
    if n = 0 then some (c :: cs)
    else if c.utf8Size ≤ n then dropExact? (n - c.utf8Size) cs
    else none

/-- The part of the text from byte `start` to byte `stop`, if both lie in it between characters. -/
def slice? (t : Text) (start stop : Nat) : Option Text :=
  if start ≤ stop then (dropExact? start t).bind (takeExact? (stop - start)) else none

/-- The part of the text from byte `start` to byte `stop`, empty if one of them is no boundary. -/
def sliceD (t : Text) (start stop : Nat) : Text :=
  (slice? t start stop).getD []

def splice (t : Text) (start stop : Nat) (insert : Text) : Text :=
  takeBytes start t ++ insert ++ dropBytes stop t

theorem byteLength_append (s t : Text) : byteLength (s ++ t) = byteLength s + byteLength t := by
  induction s with
  | nil => simp [byteLength]
  | cons c s ih => simp [byteLength, ih, Nat.add_assoc]

theorem takeBytes_append_dropBytes (n : Nat) (t : Text) : takeBytes n t ++ dropBytes n t = t := by
  induction t generalizing n with
  | nil => rfl
  | cons c t ih =>
    rw [takeBytes, dropBytes]
    split
    · simp [ih]
    · rfl

theorem byteLength_takeBytes_le (n : Nat) (t : Text) : byteLength (takeBytes n t) ≤ n := by
  induction t generalizing n with
  | nil => simp [takeBytes, byteLength]
  | cons c t ih =>
    rw [takeBytes]
    split
    · have := ih (n - c.utf8Size)
      simp only [byteLength]
      omega
    · simp [byteLength]

theorem byteLength_takeBytes_le_byteLength (n : Nat) (t : Text) :
    byteLength (takeBytes n t) ≤ byteLength t := by
  have h := congrArg byteLength (takeBytes_append_dropBytes n t)
  rw [byteLength_append] at h
  omega

end Text

end RSource
