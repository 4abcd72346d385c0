/-!
# Spans of code points

Sets of characters that a standard lists are kept as spans: code points at equal
distances between two bounds.  A distance of two occurs where capital and small letters
take turns.
-/

namespace CommandTree.Text

/-- The code points `first`, `first + step`, … up to `last`. -/
structure Span where
  first : Nat
  last : Nat
  /-- The distance of neighbours. -/
  step : Nat := 1
deriving DecidableEq, Repr

namespace Span

/-- Whether a code point belongs to the span. -/
def contains (span : Span) (code : Nat) : Bool :=
  span.first ≤ code && code ≤ span.last && (code - span.first) % span.step == 0

end Span

/-- Whether a character belongs to one of the spans. -/
def inSpans (spans : List Span) (c : Char) : Bool :=
  spans.any fun span => span.contains c.toNat

end CommandTree.Text
