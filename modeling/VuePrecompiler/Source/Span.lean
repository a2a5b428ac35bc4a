/-!
# Spans

A span is a half-open range of byte positions in a source text.
-/

namespace VuePrecompiler.Source

/-- The bytes from `start` up to, and without, `stop`. -/
structure Span where
  start : Nat
  stop : Nat
deriving DecidableEq, Repr, Inhabited

namespace Span

/-- The span without bytes at a position. -/
def empty (position : Nat) : Span := ⟨position, position⟩

/-- The number of bytes covered. -/
def size (span : Span) : Nat := span.stop - span.start

/-- Whether no byte is covered. -/
def isEmpty (span : Span) : Bool := span.start == span.stop

/-- Whether each of two spans starts before the other ends. -/
def overlaps (left right : Span) : Bool :=
  left.start < right.stop && right.start < left.stop

/-- The smallest span that covers both. -/
def merge (left right : Span) : Span :=
  ⟨min left.start right.start, max left.stop right.stop⟩

/-- The written form, `start..stop`. -/
def text (span : Span) : String := s!"{span.start}..{span.stop}"

end Span

end VuePrecompiler.Source
