/-! # Spans

A span is a half-open range of byte offsets. -/

namespace RSource

/-- The byte offsets from `start` up to, but not including, `stop`. -/
structure Span where
  start : Nat
  stop : Nat
  deriving DecidableEq, Repr, Inhabited

namespace Span

def length (a : Span) : Nat :=
  a.stop - a.start

def isEmpty (a : Span) : Bool :=
  a.start == a.stop

def contains (a b : Span) : Bool :=
  a.start ≤ b.start && b.stop ≤ a.stop

def cover (a b : Span) : Span :=
  ⟨min a.start b.start, max a.stop b.stop⟩

def touches (a : Span) (offset : Nat) : Bool :=
  a.start ≤ offset && offset ≤ a.stop

def render (a : Span) : String :=
  s!"{a.start}..{a.stop}"

end Span

end RSource
