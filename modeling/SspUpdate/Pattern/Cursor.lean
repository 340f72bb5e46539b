import SspUpdate.Pattern.Fault
import SspUpdate.Text.Blank

/-!
# Going through a pattern

A cursor knows what is left of a pattern and where that stands. Blanks and
comments may be left out between the parts of a pattern; a comment goes from
`#` to the end of its line.
-/

namespace SspUpdate.Pattern

structure Cursor where
  rest : List Char
  place : Place := {}
  /-- Whether blanks and comments are left out. -/
  spaced : Bool := false
  deriving DecidableEq, Repr

namespace Cursor

/-- How many characters are left. -/
def left (c : Cursor) : Nat := c.rest.length

def atEnd (c : Cursor) : Bool := c.rest.isEmpty

/-- Passes one character. -/
def bump (c : Cursor) : Cursor :=
  match c.rest with
  | [] => c
  | x :: rest => { c with rest, place := c.place.after x }

/-- Passes the rest of a line. -/
def skipLine (place : Place) : List Char → List Char × Place
  | [] => ([], place)
  | x :: rest =>
    if x = '\n' then (rest, place.after x) else skipLine (place.after x) rest

theorem skipLine_length (place : Place) (rest : List Char) :
    (skipLine place rest).1.length ≤ rest.length := by
  induction rest generalizing place with
  | nil => simp [skipLine]
  | cons x rest ih =>
    rw [skipLine]
    split
    · simp
    · exact Nat.le_succ_of_le (ih _)

/-- Passes blanks and comments. -/
def skipSpace (rest : List Char) (place : Place) : List Char × Place :=
  match rest with
  | [] => ([], place)
  | x :: rest =>
    if Text.isBlank x then skipSpace rest (place.after x)
    else if x = '#' then
      skipSpace (skipLine (place.after x) rest).1 (skipLine (place.after x) rest).2
    else (x :: rest, place)
termination_by rest.length
decreasing_by
  · simp
  · exact Nat.lt_succ_of_le (skipLine_length _ _)

theorem skipSpace_length (rest : List Char) (place : Place) :
    (skipSpace rest place).1.length ≤ rest.length := by
  fun_induction skipSpace rest place with
  | case1 => simp
  | case2 place x rest _ ih => exact Nat.le_succ_of_le ih
  | case3 place rest _ ih =>
    exact Nat.le_succ_of_le (Nat.le_trans ih (skipLine_length _ _))
  | case4 => simp

/-- Passes blanks and comments where they are left out. -/
def skip (c : Cursor) : Cursor :=
  if c.spaced then
    let (rest, place) := skipSpace c.rest c.place
    { c with rest, place }
  else c

/-- Passes one character, and blanks and comments after it. -/
def step (c : Cursor) : Cursor := c.bump.skip

theorem left_skip_le (c : Cursor) : c.skip.left ≤ c.left := by
  rw [skip]
  split
  · exact skipSpace_length _ _
  · exact Nat.le_refl _

theorem left_bump_lt {c : Cursor} {x : Char} {rest : List Char} (h : c.rest = x :: rest) :
    c.bump.left < c.left := by
  simp [bump, left, h]

theorem left_step_lt {c : Cursor} {x : Char} {rest : List Char} (h : c.rest = x :: rest) :
    c.step.left < c.left :=
  Nat.lt_of_le_of_lt (left_skip_le c.bump) (left_bump_lt h)

/-- Passes a text that has to come next. -/
def drop? (text : List Char) (c : Cursor) : Option Cursor :=
  match text with
  | [] => some c
  | x :: text => if c.rest.head? = some x then drop? text c.bump else none

/-- The span of the next character. -/
def charSpan (c : Cursor) : Span := ⟨c.place, c.bump.place⟩

/-- The span of no characters. -/
def here (c : Cursor) : Span := .before c.place

/-- What has been passed since a place. -/
def since (start : Place) (c : Cursor) : Span := ⟨start, c.place⟩

/-- The character after the next one. -/
def second? (c : Cursor) : Option Char := c.rest[1]?

/-- The first character that is no blank and does not begin a comment; in a
comment the first that is no blank. -/
def solid? : (inComment : Bool) → List Char → Option Char
  | _, [] => none
  | inComment, x :: rest =>
    if Text.isBlank x then solid? inComment rest
    else if !inComment && x = '#' then solid? true rest
    else some x

/-- The character after the next one and after the blanks between. -/
def secondSolid? (c : Cursor) : Option Char :=
  if c.spaced then (solid? false (c.rest.drop 1)).or c.second? else c.second?

end Cursor

end SspUpdate.Pattern
