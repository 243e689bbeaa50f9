import RSource.Pattern.Property.Derived

/-! # Patterns

A regular expression as it is used to select names. Matching asks only whether some part of a text
fits the pattern, so repetition is plain closure and greed does not matter. A place in a text lies
between two of its characters. Marks say which places of a text are meant, and matching a pattern
carries marks to the places that can be reached from them, all at once. -/

namespace RSource

/-- Where a place lies between the characters of words: at a boundary or not, where a word starts or
stops, and, for the halves, where none goes on to the left or to the right. -/
inductive Pattern.Edge where
  | boundary | inside | start | stop | startHalf | stopHalf
  deriving DecidableEq

/-- A condition on a place. Lines end with a line feed and, if `crlf` is set, also with a carriage
return or both; words are made of ASCII characters only if `ascii` is set. -/
inductive Pattern.Look where
  | textStart
  | textStop
  | lineStart (crlf : Bool)
  | lineStop (crlf : Bool)
  | word (edge : Pattern.Edge) (ascii : Bool)
  deriving DecidableEq

/-- A regular expression. `atLeast` and `atMost` bound the number of repetitions, and `group` marks
a part whose text is kept. -/
inductive Pattern where
  | empty
  | one (set : Pattern.CharSet)
  | look (condition : Pattern.Look)
  | seq (first second : Pattern)
  | alt (first second : Pattern)
  | loop (body : Pattern) (atLeast : Nat) (atMost : Option Nat)
  | group (body : Pattern)

namespace Pattern

structure Place where
  before : Option Char
  after : Option Char

def isAsciiWordChar (c : Char) : Bool :=
  c.isAlphanum || c == '_'

def isWordChar (ascii : Bool) (c : Char) : Bool :=
  if ascii then isAsciiWordChar c else Property.word.contains c

def Edge.holds : Edge → Bool → Bool → Bool
  | boundary, left, right => left != right
  | inside, left, right => left == right
  | start, left, right => !left && right
  | stop, left, right => left && !right
  | startHalf, left, _ => !left
  | stopHalf, _, right => !right

def Look.holds (p : Place) : Look → Bool
  | textStart => p.before.isNone
  | textStop => p.after.isNone
  | lineStart false => p.before.isNone || p.before == some '\n'
  | lineStop false => p.after.isNone || p.after == some '\n'
  | lineStart true =>
    p.before.isNone || p.before == some '\n'
      || (p.before == some '\r' && p.after != some '\n')
  | lineStop true =>
    p.after.isNone || p.after == some '\r'
      || (p.after == some '\n' && p.before != some '\r')
  | word edge ascii => edge.holds (p.before.any (isWordChar ascii)) (p.after.any (isWordChar ascii))

/-! ## Marks -/

abbrev Marks := List Bool

namespace Marks

def isSome (m : Marks) : Bool :=
  m.any id

def join (m n : Marks) : Marks :=
  List.zipWith (· || ·) m n

def without (m n : Marks) : Marks :=
  List.zipWith (fun a b => a && !b) m n

def keep (places : List Place) (cond : Place → Bool) (m : Marks) : Marks :=
  List.zipWith (fun p a => a && cond p) places m

def shift (m : Marks) : Marks :=
  (false :: m).dropLast

/-- The places reached from the marked ones by exactly `n` steps; once a step changes nothing, no
later one does. -/
def steps (step : Marks → Marks) : Nat → Marks → Marks
  | 0, m => m
  | n + 1, m =>
    let next := step m
    if next = m then m else steps step n next

/-- The places reached from `fresh` by at most `n` steps, with those `seen` before. Only what is new
after a step is carried on. -/
def closure (step : Marks → Marks) : Nat → Marks → Marks → Marks
  | 0, seen, _ => seen
  | n + 1, seen, fresh =>
    let next := (step fresh).without seen
    if next.isSome then closure step n (seen.join next) next else seen

end Marks

/-! ## Matching -/

/-- The places that can be reached by matching the pattern at the marked places. A run of as many
rounds as there are places stands still in one of them, and standing still once more leads nowhere
else, so the rounds are counted up to that number only. -/
def reach (places : List Place) : Pattern → Marks → Marks
  | empty, m => m
  | one set, m => (m.keep places fun p => p.after.any set.contains).shift
  | look condition, m => m.keep places condition.holds
  | seq a b, m => b.reach places (a.reach places m)
  | alt a b, m => (a.reach places m).join (b.reach places m)
  | loop body atLeast atMost, m =>
    let first := Marks.steps (body.reach places) (min atLeast places.length) m
    let rounds :=
      match atMost with
      | some n => min (n - atLeast) places.length
      | none => places.length
    Marks.closure (body.reach places) rounds first first
  | group body, m => body.reach places m

def placesFrom (before : Option Char) : List Char → List Place
  | [] => [⟨before, none⟩]
  | c :: cs => ⟨before, some c⟩ :: placesFrom (some c) cs

def isMatch (p : Pattern) (text : List Char) : Bool :=
  let places := placesFrom none text
  Marks.isSome (p.reach places (places.map fun _ => true))

/-! ## Putting patterns together -/

def append : Pattern → Pattern → Pattern
  | empty, q => q
  | seq a b, q => seq a (b.append q)
  | p, empty => p
  | p, q => seq p q

def branches : Pattern → List Pattern
  | alt a b => a.branches ++ b.branches
  | p => [p]

def oneSet? : Pattern → Option (CharSet × Bool)
  | one set => some (set, set.single?.isSome)
  | _ => none

/-- The choice between some patterns. A choice between single characters only, or between larger
sets only, is one set. -/
def choice (ps : List Pattern) : Pattern :=
  let bs := ps.flatMap branches
  let sets := bs.filterMap oneSet?
  if sets.length = bs.length && (sets.all (·.2) || sets.all (!·.2)) then
    one (.unions (sets.map (·.1)))
  else
    match bs.reverse with
    | [] => empty
    | last :: others => others.foldl (fun p b => alt b p) last

def isZeroWidth : Pattern → Bool
  | empty | look _ => true
  | one _ => false
  | seq a b | alt a b => a.isZeroWidth && b.isZeroWidth
  | loop body _ _ | group body => body.isZeroWidth

/-- The repetition of a pattern. Repeating what takes no character comes to doing it once. -/
def repeated (body : Pattern) (atLeast : Nat) (atMost : Option Nat) : Pattern :=
  let still := body.isZeroWidth
  let atLeast := if still then min atLeast 1 else atLeast
  let atMost := if still then some (min (atMost.getD 1) 1) else atMost
  if atMost = some 0 then empty
  else if atLeast = 1 ∧ atMost = some 1 then body
  else loop body atLeast atMost

end Pattern

end RSource
