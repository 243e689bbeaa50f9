import RSource.Pattern
import RSource.Pattern.Utf8

/-! # The size of patterns

A pattern that is too large is refused. Its size is that of the machine that would match it byte by
byte, once forwards and once backwards: every state takes `stateSize`, a step to another state on a
range of bytes `stepSize`, and a free choice of another state `branchSize`. Repetition is written
out, so the size of a counted repetition grows with its count. -/

namespace RSource.Pattern

def stateSize : Nat := 32

def stepSize : Nat := 8

def branchSize : Nat := 4

def maxSize : Nat := 10 * 1024 * 1024

inductive Direction where
  | forwards | backwards
  deriving DecidableEq

namespace CharSet

/-- The size of a machine for a set of ASCII characters: one state with a step for each range, and
one to go on from. -/
def asciiSize (a : CharSet) : Nat :=
  2 * stateSize + stepSize * a.ranges.length

def forwardSize (a : CharSet) : Nat :=
  (Utf8.distinctStages a).foldl
    (fun n stage => n + stateSize + stepSize * (Utf8.byFirst stage).length) stateSize

/-- The size of a machine that reads the bytes of a character backwards: a free choice of the last
byte range of each sequence, with a shared way from there to the first. -/
def backwardSize (a : CharSet) : Nat :=
  let seqs := Utf8.sequences a
  2 * stateSize + branchSize * seqs.length + stateSize * Utf8.sharedRanges 4 seqs

def size (d : Direction) (a : CharSet) : Nat :=
  match a.single? with
  | some c => stateSize * c.utf8Size
  | none =>
    if a.isAscii then a.asciiSize
    else
      match d with
      | .forwards => a.forwardSize
      | .backwards => a.backwardSize

end CharSet

/-! ## Words in a choice -/

def literal? : Pattern → Option (List Nat)
  | one set => set.single?.map fun c => Utf8.encode c.toNat
  | seq a b =>
    match a.literal?, b.literal? with
    | some s, some t => some (s ++ t)
    | _, _ => none
  | _ => none

/-- The stretches of words that are not at their end, in the order of the words; a word that is at
its end closes a stretch. -/
def stretches (words : List (List Nat)) : List (List (List Nat)) :=
  words.foldr (fun w ss =>
    match w, ss with
    | [], ss => [] :: ss
    | w, s :: ss => (w :: s) :: ss
    | w, [] => [[w]]) [[]]

def byFirstByte (words : List (List Nat)) : List (List (List Nat)) :=
  (words.filterMap List.head?).eraseDups.map fun b =>
    words.filterMap fun w => if w.head? = some b then some w.tail else none

/-- The size of the state for words that begin alike: a free choice of the stretches of words and of
the ends between them, with one state for the first bytes of each stretch. -/
def wordsSize : Nat → List (List Nat) → Nat
  | 0, _ => 0
  | depth + 1, words =>
    if words.all List.isEmpty then 0
    else
      let ss := stretches words
      let ends := branchSize * (ss.length - 1)
      (ss.filter (!·.isEmpty)).foldl (fun n stretch =>
        let groups := byFirstByte stretch
        let steps := if groups.length = 1 then 0 else stepSize * groups.length
        groups.foldl (fun n g => n + wordsSize depth g) (n + branchSize + stateSize + steps))
        (stateSize + ends)

def choiceOfWordsSize (d : Direction) (words : List (List Nat)) : Nat :=
  let words := if d = .backwards then words.map List.reverse else words
  stateSize + wordsSize (words.foldl (fun n w => max n w.length) 0) words

/-! ## The whole -/

def takesSome : Pattern → Bool
  | empty | look _ => false
  | one set => !set.ranges.isEmpty
  | seq a b => a.takesSome || b.takesSome
  | alt a b => a.takesSome && b.takesSome
  | loop body atLeast _ => atLeast != 0 && body.takesSome
  | group body => body.takesSome

def loopSize (n atLeast : Nat) (atMost : Option Nat) (takesSome : Bool) : Nat :=
  let choiceSize := stateSize + 2 * branchSize
  match atMost with
  | some most =>
    if atLeast = most then atLeast * n
    else if atLeast = 0 ∧ most = 1 then choiceSize + n + stateSize
    else max (atLeast * n) stateSize + stateSize + (most - atLeast) * (choiceSize + n)
  | none =>
    if 0 < atLeast then atLeast * n + choiceSize
    else if takesSome then choiceSize + n
    else n + 2 * choiceSize + stateSize

/-- The size of the machine for a part of a pattern, and the size of its branches one after the
other. A group whose text is kept has a state at each end, but only forwards. -/
def partSizes (d : Direction) : Pattern → Nat × Nat
  | empty | look _ => (stateSize, stateSize)
  | one set => (set.size d, set.size d)
  | seq a b =>
    let n := (a.partSizes d).1 + (b.partSizes d).1
    (n, n)
  | alt a b =>
    let inOrder := (a.partSizes d).2 + (b.partSizes d).2
    let bs := (alt a b).branches
    let words := bs.filterMap literal?
    if words.length = bs.length then (choiceOfWordsSize d words, inOrder)
    else (inOrder + 2 * stateSize + branchSize * bs.length, inOrder)
  | loop body atLeast atMost =>
    let n := loopSize (body.partSizes d).1 atLeast atMost body.takesSome
    (n, n)
  | group body =>
    let n := (body.partSizes d).1 + if d = .forwards then 2 * stateSize else 0
    (n, n)

def isAtStart : Pattern → Bool
  | look condition => condition = .textStart
  | seq a b => a.isAtStart || (a.isZeroWidth && b.isAtStart)
  | alt a b => a.isAtStart && b.isAtStart
  | loop body atLeast _ => atLeast != 0 && body.isAtStart
  | group body => body.isAtStart
  | _ => false

def isAtStop : Pattern → Bool
  | look condition => condition = .textStop
  | seq a b => b.isAtStop || (b.isZeroWidth && a.isAtStop)
  | alt a b => a.isAtStop && b.isAtStop
  | loop body atLeast _ => atLeast != 0 && body.isAtStop
  | group body => body.isAtStop
  | _ => false

/-- The size of the machine for a pattern: a way to any place of the text, the pattern itself, and a
last state. Forwards, the whole is a group too. -/
def size (d : Direction) (p : Pattern) : Nat :=
  let isFixed :=
    match d with
    | .forwards => p.isAtStart
    | .backwards => p.isAtStop
  let search := if isFixed then stateSize else 3 * stateSize + stepSize + 2 * branchSize
  search + (p.group.partSizes d).1 + stateSize

def isSmall (p : Pattern) : Bool :=
  p.size .forwards ≤ maxSize && p.size .backwards ≤ maxSize

end RSource.Pattern
