import SspUpdate.Pattern.Cursor
import SspUpdate.Pattern.Tree
import SspUpdate.Text.Letter

/-!
# How groups begin

A group may have a name, or flags for what is in it. Flags may also stand alone
in parentheses; then they are for what follows.
-/

namespace SspUpdate.Pattern

/-- What an opening parenthesis begins. -/
inductive Opening where
  | flags (span : Span) (changes : FlagChanges)
  | plain
  | named (name : List Char) (span : Span)
  | flagged (changes : FlagChanges)

/-- The flag of a letter. -/
def Flag.ofLetter? (c : Char) : Option Flag :=
  [('i', ignoreCase), ('m', multiLine), ('s', dotAll), ('U', swapGreed), ('u', unicode),
    ('R', carriageReturns), ('x', ignoreBlanks)].lookup c

/-- A list of flags that is being read. -/
structure FlagReading where
  /-- The flags and their letters, the latest first. -/
  flags : List (Flag × Bool × Span) := []
  /-- The hyphen, after which flags are turned off. -/
  hyphen : Option Span := none
  /-- Whether the hyphen came last. -/
  dangling : Bool := false

namespace FlagReading

def changes (r : FlagReading) : FlagChanges :=
  r.flags.reverse.map fun (flag, on, _) => (flag, on)

def isEmpty (r : FlagReading) : Bool := r.flags.isEmpty && r.hyphen.isNone

/-- Reads a letter or the hyphen. -/
def add (r : FlagReading) (x : Char) (span : Span) : Except Fault FlagReading :=
  if x = '-' then
    match r.hyphen with
    | some earlier => .error { mistake := .negationRepeated, span, earlier }
    | none => .ok { r with hyphen := some span, dangling := true }
  else match Flag.ofLetter? x with
    | none => fail .flagUnknown span
    | some flag =>
      match r.flags.lookup flag with
      | some (_, earlier) => .error { mistake := .flagRepeated, span, earlier }
      | none => .ok { r with flags := (flag, r.hyphen.isNone, span) :: r.flags, dangling := false }

/-- Reads flags up to a colon or a closing parenthesis. -/
def finish (r : FlagReading) (c : Cursor) : Except Fault (FlagReading × Cursor) :=
  match _ : c.rest with
  | [] => fail .flagIncomplete c.here
  | x :: _ =>
    if x = ':' || x = ')' then
      match r.dangling, r.hyphen with
      | true, some hyphen => fail .flagDangling hyphen
      | _, _ => .ok (r, c)
    else
      match r.add x c.charSpan with
      | .error f => .error f
      | .ok r => r.finish c.bump
termination_by c.left
decreasing_by exact Cursor.left_bump_lt ‹_›

end FlagReading

/-- May stand in the name of a group. -/
def isNameLetter (first : Bool) (c : Char) : Bool :=
  c = '_' || Text.isLetter c || (!first && (c ∈ ['.', '[', ']'] || Text.isNumeral c))

/-- Reads a name up to `>`. -/
def nameLetters (first : Bool) (c : Cursor) : Except Fault (List Char × Cursor) :=
  match _ : c.rest with
  | [] => fail .nameIncomplete c.here
  | x :: _ =>
    if x = '>' then .ok ([], c)
    else if isNameLetter first x then
      match nameLetters false c.bump with
      | .error f => .error f
      | .ok (name, c) => .ok (x :: name, c)
    else fail .nameCharacter c.charSpan
termination_by c.left
decreasing_by exact Cursor.left_bump_lt ‹_›

/-- Reads the name of a group, from behind `<` on. -/
def groupName (c : Cursor) : Except Fault (Opening × Cursor) := do
  let (name, last) ← nameLetters true c
  if name.isEmpty then fail .nameEmpty c.here
  else return (.named name (last.since c.place), last.bump)

/-- The cursor behind the beginning of a look-around. -/
def afterLookAround? (c : Cursor) : Option Cursor :=
  ["?=", "?!", "?<=", "?<!"].findSome? fun mark => c.drop? mark.toList

/-- Reads what an opening parenthesis begins. -/
def opening (c : Cursor) : Except Fault (Opening × Cursor) :=
  let start := c.place
  let parenthesis := c.charSpan
  let c := c.step
  match afterLookAround? c with
  | some after => fail .lookAround (after.since start)
  | none =>
    match (c.drop? ['?', 'P', '<']).or (c.drop? ['?', '<']), c.drop? ['?'] with
    | some name, _ => groupName name
    | none, none => .ok (.plain, c)
    | none, some inside =>
      if inside.atEnd then fail .groupUnclosed parenthesis
      else do
        let (flags, last) ← FlagReading.finish {} inside
        let after := last.bump
        if last.rest.head? = some ')' then
          if flags.isEmpty then fail .repetitionMissing c.here
          else return (.flags (after.since start) flags.changes, after)
        else return (.flagged flags.changes, after)

end SspUpdate.Pattern
