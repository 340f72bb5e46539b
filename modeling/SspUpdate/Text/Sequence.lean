/-!
# Control sequences in a text

A control sequence starts with the escape character or its one-character form
and changes how text looks instead of being shown. Its name is a character set,
or a letter or digit after brackets, numbers and semicolons; the longest name
that can be read counts, and without a name there is no sequence.
-/

namespace SspUpdate.Text

/-- How far the name of a sequence has been read. -/
inductive NamePart where
  | nothing
  /-- One round bracket. -/
  | bracket
  /-- Brackets and signs. -/
  | signs
  /-- Digits of a number; the last one may be the name. -/
  | digits (n : Nat)
  | semicolon
  | complete
  deriving DecidableEq, Repr

namespace NamePart

def isSign (c : Char) : Bool := ['[', '(', ')', '#', ';', '?'].contains c

/-- Letters and signs that end a name. -/
def isFinal (c : Char) : Bool :=
  ('A' ≤ c && c ≤ 'P') || ('f' ≤ c && c ≤ 'n') ||
    ['R', 'Z', 'c', 'q', 'r', 'y', '=', '>', '<'].contains c

def isDigit (c : Char) : Bool := '0' ≤ c && c ≤ '9'

/-- One more character of a name, if it can go on. -/
def next? (p : NamePart) (c : Char) : Option NamePart :=
  match p with
  | nothing =>
    if c = '(' || c = ')' then some bracket
    else if isSign c then some signs
    else if isDigit c then some (digits 1)
    else if isFinal c then some complete
    else none
  | bracket =>
    if '0' ≤ c && c ≤ '2' then some complete
    else if isSign c then some signs
    else if isDigit c then some (digits 1)
    else if isFinal c then some complete
    else none
  | signs =>
    if isSign c then some signs
    else if isDigit c then some (digits 1)
    else if isFinal c then some complete
    else none
  | digits n =>
    if isDigit c then some (if n < 4 then digits (n + 1) else complete)
    else if c = ';' then some semicolon
    else if isFinal c then some complete
    else none
  | semicolon =>
    if isDigit c then some (digits 1)
    else if c = ';' then some semicolon
    else if isFinal c then some complete
    else none
  | complete => none

/-- Whether a name may end here. -/
def isName : NamePart → Bool
  | digits _ | complete => true
  | _ => false

/-- The length of the longest name, of which `read` characters are read and
`best` is the longest so far. -/
def longest (p : NamePart) (read best : Nat) : List Char → Nat
  | [] => best
  | c :: rest =>
    match p.next? c with
    | none => best
    | some q => longest q (read + 1) (if q.isName then read + 1 else best) rest

end NamePart

def startsSequence (c : Char) : Bool := c = '\x1b' || c = '\u009b'

/-- A piece of text, or a sequence. -/
inductive Piece where
  | plain (text : List Char)
  | sequence (text : List Char)
  deriving DecidableEq, Repr

/-- Puts a character in front of the first piece. -/
def consPlain (c : Char) : List Piece → List Piece
  | .plain text :: rest => .plain (c :: text) :: rest
  | pieces => .plain [c] :: pieces

/-- Splits a text at its control sequences. -/
def pieces : List Char → List Piece
  | [] => []
  | c :: rest =>
    let n := if startsSequence c then NamePart.longest .nothing 0 0 rest else 0
    if n = 0 then consPlain c (pieces rest)
    else .sequence (c :: rest.take n) :: pieces (rest.drop n)
termination_by cs => cs.length

namespace Piece

def text : Piece → List Char
  | plain text => text
  | sequence text => text

/-- What is left of a piece where text is not shown. -/
def control : Piece → List Char
  | plain _ => []
  | sequence text => text

end Piece

end SspUpdate.Text
