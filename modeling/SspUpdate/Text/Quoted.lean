import SspUpdate.Text.Hex
import SspUpdate.Text.Printable

/-!
# Quoted text

Text shown between double quotes, so that every character of it can be told:
the quote and the backslash are escaped, common controls by a letter, and any
other character that would not show by its code point.
-/

namespace SspUpdate.Text

/-- A code point in braces after a backslash and `u`. -/
def codePoint (c : Char) : List Char :=
  '\\' :: 'u' :: '\x7b' :: (Nat.toDigits 16 c.toNat ++ ['\x7d'])

def escape (c : Char) : List Char :=
  match c with
  | '\x00' => ['\\', '0']
  | '\t' => ['\\', 't']
  | '\r' => ['\\', 'r']
  | '\n' => ['\\', 'n']
  | '"' => ['\\', '"']
  | '\\' => ['\\', '\\']
  | c => if isExtender c || !isPrintable c then codePoint c else [c]

def quoted (text : List Char) : String :=
  String.ofList ('"' :: (text.flatMap escape ++ ['"']))

end SspUpdate.Text
