import SspUpdate.Pattern.Cursor

/-!
# Repetitions

`?`, `*`, `+` and counts in braces, each of which a further `?` may follow.
-/

namespace SspUpdate.Pattern

/-- How often something is repeated, and the cursor after the operator. -/
structure Repetition where
  least : Nat
  most : Option Nat
  cursor : Cursor

/-- The largest count. -/
def countLimit : Nat := UInt32.size - 1

/-- Passes blanks. -/
def skipBlanks (c : Cursor) : Cursor :=
  match _ : c.rest with
  | [] => c
  | x :: _ => if Text.isBlank x then skipBlanks c.step else c
termination_by c.left
decreasing_by exact Cursor.left_step_lt ‹_›

/-- The value of digits with blanks between where they are left out, and how
many digits there are. -/
def digits (count value : Nat) (c : Cursor) : (Nat × Nat) × Cursor :=
  match _ : c.rest with
  | [] => ((count, value), c)
  | x :: _ =>
    if x.isDigit then digits (count + 1) (value * 10 + (x.toNat - '0'.toNat)) c.step
    else ((count, value), c)
termination_by c.left
decreasing_by exact Cursor.left_step_lt ‹_›

/-- A count between blanks, or why there is none, and the cursor after it. -/
def count (c : Cursor) : Except Fault Nat × Cursor :=
  let first := skipBlanks c
  let ((length, value), last) := digits 0 0 first
  let span := last.since first.place
  let c := skipBlanks last
  if length = 0 then (fail .repetitionNumber span, c)
  else if value ≤ countLimit then (.ok value, c)
  else (fail .numberTooLarge span, c)

/-- The counts in braces, from behind the opening one up to the closing one. -/
def counts (brace : Place) (c : Cursor) : Except Fault ((Nat × Option Nat) × Cursor) :=
  if c.atEnd then fail .repetitionUnclosed (c.since brace)
  else
    let (least, c) := count c
    if c.atEnd then fail .repetitionUnclosed (c.since brace)
    else if c.rest.head? = some ',' then
      let c := c.step
      if c.atEnd then fail .repetitionUnclosed (c.since brace)
      else if c.rest.head? = some '}' then do
        let least ← least
        return ((least, none), c)
      else do
        let least ← least
        let (most, c) := count c
        let most ← most
        return ((least, some most), c)
    else do
      let least ← least
      return ((least, some least), c)

/-- Reads a repetition in braces from the opening brace on. -/
def counted (c : Cursor) : Except Fault Repetition := do
  let brace := c.place
  let ((least, most), c) ← counts brace c.step
  if c.rest.head? ≠ some '}' then fail .repetitionUnclosed (c.since brace)
  else
    let c := c.step
    let c := if c.rest.head? = some '?' then c.bump else c
    match most with
    | none => return { least, most, cursor := c }
    | some n =>
      if least ≤ n then return { least, most, cursor := c }
      else fail .repetitionEmpty (c.since brace)

/-- A repetition without a count. -/
def uncounted (least : Nat) (most : Option Nat) (c : Cursor) : Repetition :=
  let c := c.bump
  { least, most, cursor := if c.rest.head? = some '?' then c.bump else c }

end SspUpdate.Pattern
