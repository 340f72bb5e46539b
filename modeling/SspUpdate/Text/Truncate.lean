import SspUpdate.Text.Sequence
import SspUpdate.Text.Width

/-!
# Truncated text

A text that needs all the columns there are, or more, is cut so that an
ellipsis fits behind it. Control sequences take no columns, and they stay where
they are behind the cut.
-/

namespace SspUpdate.Text

/-- As many characters as fit into some columns; it stops where they are full. -/
def fitting : Nat → List Char → List Char
  | _, [] => []
  | room, c :: rest =>
    if columns c < room then c :: fitting (room - columns c) rest
    else if columns c = room then [c]
    else []

def Piece.width : Piece → Nat
  | .plain text => Text.width text
  | .sequence _ => 0

/-- Keeps the pieces that fit into some columns and cuts the first that does
not; of what follows only the control sequences stay. -/
def cut (tail : List Char) : Nat → List Piece → List Char
  | _, [] => []
  | room, p :: rest =>
    if p.width ≤ room then p.text ++ cut tail (room - p.width) rest
    else fitting room p.text ++ tail ++ rest.flatMap Piece.control

/-- A text in at most some columns, with an ellipsis if it was cut; one that
leaves no column free for the ellipsis is cut too. -/
def truncate (columns : Nat) (text : String) : String :=
  String.ofList (cut ['…'] (columns - 1) (pieces text.toList))

end SspUpdate.Text
