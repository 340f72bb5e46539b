/-!
# Text without terminal control

What is left of a text where it does not go to a terminal: its visible
characters, blanks and line breaks. Escape sequences of every kind are left
out, read the way a terminal reads them, and so are the other control
characters. A line break within a control sequence is kept, but not one within
a string that is addressed to the terminal.
-/

namespace SspUpdate.Text

/-- What a terminal is reading. -/
inductive Reading where
  | text
  | escape
  | escapeIntermediate
  /-- Numbers and signs of a control sequence. -/
  | sequence
  | deviceEntry
  | deviceParameters
  | deviceIntermediate
  /-- A string for a device, or one that is ignored. -/
  | string
  /-- A command to the operating system. -/
  | command
  deriving DecidableEq, Repr

namespace Reading

def isFinal (n : Nat) : Bool := 0x40 ≤ n && n ≤ 0x7E

def isIntermediate (n : Nat) : Bool := 0x20 ≤ n && n ≤ 0x2F

/-- A character that ends a string, because a later byte of its encoding does. -/
def endsString (n : Nat) : Bool :=
  (0x80 ≤ n && n % 64 == 0x1C) || (0x800 ≤ n && n / 64 % 64 == 0x1C) ||
    (0x10000 ≤ n && n / 4096 % 64 == 0x1C)

/-- What comes after an escape. -/
def afterEscape (n : Nat) : Reading :=
  if isIntermediate n then escapeIntermediate
  else if n = 0x5B then sequence
  else if n = 0x5D then command
  else if n = 0x50 then deviceEntry
  else if n = 0x58 || n = 0x5E || n = 0x5F then string
  else if 0x30 ≤ n && n ≤ 0x7E then text
  else escape

/-- What is read after one more character. -/
def next (r : Reading) (c : Char) : Reading :=
  let n := c.toNat
  if n = 0x1B then escape
  else if n = 0x18 || n = 0x1A then text
  else match r with
    | text => text
    | escape => afterEscape n
    | escapeIntermediate => if 0x30 ≤ n && n ≤ 0x7E then text else escapeIntermediate
    | sequence => if isFinal n then text else sequence
    | deviceEntry =>
      if isIntermediate n then deviceIntermediate
      else if 0x30 ≤ n && n ≤ 0x3F then deviceParameters
      else if isFinal n then string
      else deviceEntry
    | deviceParameters =>
      if isIntermediate n then deviceIntermediate
      else if 0x3C ≤ n && n ≤ 0x7E then string
      else deviceParameters
    | deviceIntermediate => if 0x30 ≤ n && n ≤ 0x7E then string else deviceIntermediate
    | string => if endsString n then text else string
    | command => if n = 0x07 then text else command

/-- Control characters act here, and are not part of a string. -/
def controlsAct : Reading → Bool
  | text | escape | escapeIntermediate | sequence => true
  | _ => false

/-- Whether a character is left in the text. -/
def keeps (r : Reading) (c : Char) : Bool :=
  let n := c.toNat
  (r = text && 0x20 ≤ n && n ≠ 0x7F) ||
    (r.controlsAct && (c = '\t' || c = '\n' || c = '\x0c' || c = '\r'))

/-- What is read behind text that is shown up to `c`; it is kept in mind while
text is shown, until a character of more than one byte or a control comes. -/
def behind (r : Reading) (c : Char) : Reading :=
  if c.toNat = 0x1B then escape
  else if c.toNat = 0x18 || c.toNat = 0x1A || 0x80 ≤ c.toNat then text
  else r

end Reading

/-- Leaves out what does not show; `showing` while text is shown, whatever was
read before it. -/
def strip : (showing : Bool) → Reading → List Char → List Char
  | _, _, [] => []
  | showing, r, c :: rest =>
    if showing && Reading.keeps .text c then c :: strip true (r.behind c) rest
    else
      let r := if showing then r.behind c else r
      if r.keeps c then c :: strip true (r.next c) rest
      else strip false (r.next c) rest

def stripped (text : String) : String := String.ofList (strip false .text text.toList)

end SspUpdate.Text
