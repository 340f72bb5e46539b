/-!
# Styled text

Text on a terminal may have a colour and attributes. They are written as
control sequences around the text, and only where colours are on.
-/

namespace SspUpdate.Text

inductive Color where
  | red
  | green
  | yellow
  | blue
  | cyan
  deriving DecidableEq, Repr

def Color.code : Color → Nat
  | red => 31
  | green => 32
  | yellow => 33
  | blue => 34
  | cyan => 36

inductive Attribute where
  | bold
  | dim
  | underlined
  deriving DecidableEq, Repr

def Attribute.code : Attribute → Nat
  | bold => 1
  | dim => 2
  | underlined => 4

structure Style where
  color : Option Color := none
  attributes : List Attribute := []
  deriving DecidableEq, Repr

namespace Style

/-- The codes of a style, the colour first. -/
def codes (s : Style) : List Nat :=
  (s.color.map Color.code).toList ++ s.attributes.map Attribute.code

def sequence (code : Nat) : String := s!"\x1b[{code}m"

/-- A text in the style, where colours are on. -/
def paint (colors : Bool) (s : Style) (text : String) : String :=
  if colors && !s.codes.isEmpty then
    String.join (s.codes.map sequence) ++ text ++ sequence 0
  else text

def plain (color : Color) : Style := { color := some color }

def bold (color : Color) : Style := { color := some color, attributes := [.bold] }

end Style

end SspUpdate.Text
