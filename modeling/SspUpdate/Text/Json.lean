import SspUpdate.Text.Hex

/-!
# JSON text

Reports of the program as JSON, one field or item on a line, two blanks of
indentation for each level.
-/

namespace SspUpdate.Text

inductive Json where
  | null
  | boolean (b : Bool)
  | number (n : Nat)
  | string (text : String)
  | array (items : List Json)
  | object (fields : List (String × Json))

namespace Json

/-- A character inside a string. -/
def escape (c : Char) : List Char :=
  match c with
  | '"' => ['\\', '"']
  | '\\' => ['\\', '\\']
  | '\n' => ['\\', 'n']
  | '\r' => ['\\', 'r']
  | '\t' => ['\\', 't']
  | '\x08' => ['\\', 'b']
  | '\x0c' => ['\\', 'f']
  | c => if c.toNat < 0x20 then '\\' :: 'u' :: lowerHexDigits 4 c.toNat else [c]

def quote (text : String) : List Char := '"' :: text.toList.flatMap escape ++ ['"']

/-- A new line, indented. -/
def newLine (depth : Nat) : List Char := '\n' :: List.replicate (2 * depth) ' '

mutual

/-- The value as it is written inside `depth` brackets. -/
def write (depth : Nat) : Json → List Char
  | null => "null".toList
  | boolean b => (if b then "true" else "false").toList
  | number n => Nat.toDigits 10 n
  | string text => quote text
  | array [] => ['[', ']']
  | array (item :: rest) =>
    '[' :: newLine (depth + 1) ++ write (depth + 1) item ++ writeItems (depth + 1) rest ++
      newLine depth ++ [']']
  | object [] => ['\x7b', '\x7d']
  | object ((name, value) :: rest) =>
    '\x7b' :: newLine (depth + 1) ++ quote name ++ ": ".toList ++ write (depth + 1) value ++
      writeFields (depth + 1) rest ++ newLine depth ++ ['\x7d']

def writeItems (depth : Nat) : List Json → List Char
  | [] => []
  | item :: rest => ',' :: newLine depth ++ write depth item ++ writeItems depth rest

def writeFields (depth : Nat) : List (String × Json) → List Char
  | [] => []
  | (name, value) :: rest =>
    ',' :: newLine depth ++ quote name ++ ": ".toList ++ write depth value ++
      writeFields depth rest

end

def render (j : Json) : String := String.ofList (write 0 j)

def optional {α : Type} (f : α → Json) : Option α → Json
  | none => null
  | some a => f a

end Json

end SspUpdate.Text
