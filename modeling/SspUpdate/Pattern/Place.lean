/-!
# Places in a pattern

Where a character stands, and the span of characters that a part of a pattern
takes. Lines and columns are counted from one.
-/

namespace SspUpdate.Pattern

structure Place where
  offset : Nat := 0
  line : Nat := 1
  column : Nat := 1
  deriving DecidableEq, Repr

/-- The place after a character. -/
def Place.after (p : Place) (c : Char) : Place :=
  if c = '\n' then ⟨p.offset + 1, p.line + 1, 1⟩ else ⟨p.offset + 1, p.line, p.column + 1⟩

structure Span where
  start : Place
  stop : Place
  deriving DecidableEq, Repr

namespace Span

/-- Takes no characters. -/
def before (p : Place) : Span := ⟨p, p⟩

/-- Takes one character. -/
def char (p : Place) (c : Char) : Span := ⟨p, p.after c⟩

def isOnOneLine (s : Span) : Bool := s.start.line = s.stop.line

/-- Comes first, or is as early and not longer. -/
def le (s t : Span) : Bool :=
  s.start.offset < t.start.offset ||
    (s.start.offset = t.start.offset && s.stop.offset ≤ t.stop.offset)

end Span

end SspUpdate.Pattern
