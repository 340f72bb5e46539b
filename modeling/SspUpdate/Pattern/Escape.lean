import SspUpdate.Pattern.Cursor
import SspUpdate.Pattern.Tree

/-!
# Escapes

A backslash and what follows it: a character that would mean something else,
a letter for a blank or for a class, a character by its hexadecimal number, a
property, or an anchor.
-/

namespace SspUpdate.Pattern

/-- Has a meaning of its own outside of escapes. -/
def isMeta (c : Char) : Bool := c ∈ "\\.+*?()|[]\x7b\x7d^$#&-~".toList

/-- Stands for itself after a backslash. -/
def isEscapable (c : Char) : Bool :=
  isMeta c || (c.toNat < 0x80 && !c.isAlphanum && c ≠ '<' && c ≠ '>')

/-- The value of a hexadecimal digit. -/
def hexDigit? (c : Char) : Option Nat :=
  if c.isDigit then some (c.toNat - '0'.toNat)
  else if 'a' ≤ c && c ≤ 'f' then some (c.toNat - 'a'.toNat + 10)
  else if 'A' ≤ c && c ≤ 'F' then some (c.toNat - 'A'.toNat + 10)
  else none

/-- The character of a number. -/
def character? (n : Nat) : Option Char := if n.isValidChar then some (Char.ofNat n) else none

/-- So many hexadecimal digits. -/
def hexDigits : (count value : Nat) → Cursor → Except Fault (Nat × Cursor)
  | 0, value, c => .ok (value, c)
  | count + 1, value, c =>
    match c.rest with
    | [] => fail .escapeIncomplete c.here
    | x :: _ =>
      match hexDigit? x with
      | none => fail .digitInvalid c.charSpan
      | some d => hexDigits count (value * 16 + d) c.step

/-- Hexadecimal digits up to a closing brace, how many they are, and the cursor
on the brace or at the end. -/
def bracedDigits (count value : Nat) (c : Cursor) : Except Fault ((Nat × Nat) × Cursor) :=
  match _ : c.rest with
  | [] => .ok ((count, value), c)
  | x :: _ =>
    if x = '}' then .ok ((count, value), c)
    else match hexDigit? x with
      | none => fail .digitInvalid c.charSpan
      | some d => bracedDigits (count + 1) (value * 16 + d) c.step
termination_by c.left
decreasing_by exact Cursor.left_step_lt ‹_›

/-- A character by its number, from the letter after the backslash on. -/
def hexadecimal (start : Place) (letter : Char) (c : Cursor) : Except Fault (Literal × Cursor) :=
  let c := c.step
  match c.rest with
  | [] => fail .escapeIncomplete c.here
  | '{' :: _ => do
    let brace := c.place
    let first := c.bump.place
    let ((count, value), last) ← bracedDigits 0 0 c.step
    if last.atEnd then fail .escapeIncomplete (last.since brace)
    else
      let c := last.step
      if count = 0 then fail .hexEmpty (c.since brace)
      else match character? value with
        | none => fail .hexNoCharacter (last.since first)
        | some char => .ok ({ span := c.since start, char }, c)
  | _ => do
    let first := c.place
    let count := if letter = 'x' then 2 else if letter = 'u' then 4 else 8
    let (value, c) ← hexDigits count 0 c
    match character? value with
    | none => fail .hexNoCharacter (c.since first)
    | some char => .ok ({ span := c.since start, char, asByte := letter = 'x' }, c)

/-- The name up to a closing brace, and the cursor on the brace or at the end. -/
def bracedName (c : Cursor) : List Char × Cursor :=
  match _ : c.rest with
  | [] => ([], c)
  | x :: _ =>
    if x = '}' then ([], c)
    else
      let (name, c) := bracedName c.step
      (x :: name, c)
termination_by c.left
decreasing_by exact Cursor.left_step_lt ‹_›

/-- A property, from the letter after the backslash on. -/
def property (start : Place) (c : Cursor) : Except Fault (Node × Cursor) :=
  let c := c.step
  match c.rest with
  | [] => fail .escapeIncomplete c.here
  | '{' :: _ =>
    let (name, last) := bracedName c.step
    if last.atEnd then fail .escapeIncomplete last.here
    else .ok (.property (last.bump.since start) name, last.bump)
  | x :: _ =>
    if x = '\\' then fail .propertyEscape c.charSpan
    else .ok (.property (c.step.since start) [x], c.step)

/-- May stand in the name of a boundary. -/
def isBoundaryLetter (c : Char) : Bool := c.isAlpha || c = '-'

/-- The letters of the name of a boundary, and the cursor after them. -/
def boundaryLetters (c : Cursor) : List Char × Cursor :=
  match _ : c.rest with
  | [] => ([], c)
  | x :: _ =>
    if isBoundaryLetter x then
      let (name, c) := boundaryLetters c.step
      (x :: name, c)
    else ([], c)
termination_by c.left
decreasing_by exact Cursor.left_step_lt ‹_›

/-- The boundary of a name. -/
def boundaryOfName? (name : String) : Option Anchor :=
  [("start", Anchor.wordStart), ("end", .wordEnd), ("start-half", .wordStartHalf),
    ("end-half", .wordEndHalf)].lookup name

/-- The boundary after `\b`, which is a special one if a name in braces
follows. Other braces are left for a repetition. -/
def boundary (start : Place) (c : Cursor) : Except Fault (Anchor × Cursor) :=
  if c.rest.head? = some '{' then
    let brace := c.place
    let inside := c.step
    match inside.rest with
    | [] => fail .boundaryIncomplete (inside.since start)
    | x :: _ =>
      if isBoundaryLetter x then
        let (name, last) := boundaryLetters inside
        if last.rest.head? = some '}' then
          match boundaryOfName? (String.ofList name) with
          | some kind => .ok (kind, last.bump)
          | none => fail .boundaryUnknown (last.since inside.place)
        else fail .boundaryUnclosed (last.since brace)
      else .ok (.boundary, c)
  else .ok (.boundary, c)

/-- The blank or control character of a letter. -/
def controlOfLetter? (c : Char) : Option Char :=
  [('a', '\x07'), ('f', '\x0c'), ('t', '\t'), ('n', '\n'), ('r', '\r'), ('v', '\x0b')].lookup c

/-- The anchor of a letter. -/
def anchorOfLetter? (c : Char) : Option Anchor :=
  [('A', Anchor.textStart), ('z', .textEnd), ('B', .noBoundary), ('<', .wordStart),
    ('>', .wordEnd)].lookup c

/-- The class of a letter. -/
def classOfLetter? (c : Char) : Option LetterClass :=
  [('d', LetterClass.digit), ('s', .blank), ('w', .word)].lookup c.toLower

/-- Reads an escape from its backslash on. -/
def escape (c : Cursor) : Except Fault (Node × Cursor) :=
  let start := c.place
  let c := c.bump
  match c.rest with
  | [] => fail .escapeIncomplete (c.since start)
  | x :: _ =>
    let after := c.bump
    let span := after.since start
    if x.isDigit then fail .backreference span
    else if x = 'x' || x = 'u' || x = 'U' then do
      let (l, c) ← hexadecimal start x c
      return (.literal l, c)
    else if x = 'p' || x = 'P' then property start c
    else if x = 'b' then do
      let (kind, c) ← boundary start after
      return (.anchor (c.since start) kind, c)
    else if isEscapable x then .ok (.literal { span, char := x }, after)
    else match classOfLetter? x, controlOfLetter? x, anchorOfLetter? x with
      | some kind, _, _ => .ok (.letter span kind x.isUpper, after)
      | _, some char, _ => .ok (.literal { span, char }, after)
      | _, _, some kind => .ok (.anchor span kind, after)
      | _, _, _ => fail .escapeUnknown span

end SspUpdate.Pattern
