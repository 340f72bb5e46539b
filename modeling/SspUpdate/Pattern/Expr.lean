import SspUpdate.Pattern.CharSet

/-!
# Regular expressions

What a pattern means: an expression that texts have parts of. A search goes
through the text once and keeps the expressions that are still to be found,
which are what is left of the expression after the characters so far.
-/

namespace SspUpdate.Pattern

/-- A condition on the characters before and after a place. -/
inductive Condition where
  | textStart
  | textEnd
  | lineStart
  | lineEnd
  | anyLineStart
  | anyLineEnd
  | boundary
  | noBoundary
  | wordStart
  | wordEnd
  | wordStartHalf
  | wordEndHalf
  deriving DecidableEq, Repr

/-- Whether there is a character of a word. -/
def isWord (c : Option Char) : Bool := c.any NamedClass.word.set.contains

def Condition.holds (before after : Option Char) : Condition → Bool
  | textStart => before.isNone
  | textEnd => after.isNone
  | lineStart => before.isNone || before = some '\n'
  | lineEnd => after.isNone || after = some '\n'
  | anyLineStart =>
    before.isNone || before = some '\n' || (before = some '\r' && after ≠ some '\n')
  | anyLineEnd => after.isNone || after = some '\r' || (after = some '\n' && before ≠ some '\r')
  | boundary => isWord before != isWord after
  | noBoundary => isWord before == isWord after
  | wordStart => !isWord before && isWord after
  | wordEnd => isWord before && !isWord after
  | wordStartHalf => !isWord before
  | wordEndHalf => !isWord after

/-- Expressions that follow one another, and alternatives, are nested in the
second place only. -/
inductive Expr where
  | nothing
  | text (cs : List Char)
  | set (s : CharSet)
  | condition (k : Condition)
  /-- A boundary of words of all letters, for which there is no data. -/
  | boundaryWithoutData
  | group (e : Expr)
  | both (first second : Expr)
  | either (first second : Expr)
  | times (e : Expr) (least : Nat) (most : Option Nat)
  deriving DecidableEq, Repr

namespace Expr

/-- Takes no characters. -/
def takesNothing : Expr → Bool
  | nothing | condition _ | boundaryWithoutData => true
  | text _ | set _ => false
  | group e => e.takesNothing
  | both a b | either a b => a.takesNothing && b.takesNothing
  | times e _ most => most = some 0 || e.takesNothing

def hasGroup : Expr → Bool
  | group _ => true
  | nothing | text _ | set _ | condition _ | boundaryWithoutData => false
  | both a b | either a b => a.hasGroup || b.hasGroup
  | times e _ _ => e.hasGroup

/-- A character of a set; of one character it is a text. -/
def ofSet (s : CharSet) : Expr :=
  match s.char? with
  | some c => text [c]
  | none => set s

/-- A repetition; of what takes no characters, once is enough. -/
def repeated (e : Expr) (least : Nat) (most : Option Nat) : Expr :=
  let (least, most) :=
    if e.takesNothing then (min least 1, some (min (most.getD 1) 1)) else (least, most)
  if most = some 0 then nothing
  else if least = 1 && most = some 1 then e
  else times e least most

/-- The expressions that follow one another. -/
def parts : Expr → List Expr
  | nothing => []
  | both a b => a :: b.parts
  | e => [e]

def branches : Expr → List Expr
  | either a b => a :: b.branches
  | e => [e]

/-- Puts an expression in front of others; texts become one text. -/
def addPart : Expr → List Expr → List Expr
  | text cs, text ds :: es => text (cs ++ ds) :: es
  | e, es => e :: es

def ofParts : List Expr → Expr
  | [] => nothing
  | [e] => e
  | e :: es => both e (ofParts es)

/-- Expressions one after the other. -/
def sequence (es : List Expr) : Expr := ofParts ((es.flatMap parts).foldr addPart [])

def ofBranches : List Expr → Expr
  | [] => set .empty
  | [e] => e
  | e :: es => either e (ofBranches es)

def char? : Expr → Option CharSet
  | text [c] => some (.single c)
  | _ => none

def set? : Expr → Option CharSet
  | set s => some s
  | _ => none

def text? : Expr → Option (List Char)
  | text cs => some cs
  | _ => none

/-- Alternatives; of characters, or of sets, they are one set. -/
def merged (es : List Expr) : Expr :=
  match (es.mapM char?).or (es.mapM set?) with
  | some sets => ofSet (sets.foldl .union .empty)
  | none => ofBranches es

/-- The expressions with which two sequences begin. Groups are never the same. -/
def common : List Expr → List Expr → List Expr
  | a :: as, b :: bs => if a = b && !a.hasGroup then a :: common as bs else []
  | _, _ => []

/-- Alternatives; what sequences have in common at their beginning comes first. -/
def alternatives (es : List Expr) : Expr :=
  let es := es.flatMap branches
  let begun := if es.all (· matches both _ _) then
      match es.map parts with
      | first :: rest => rest.foldl common first
      | [] => []
    else []
  match begun with
  | [] => merged es
  | _ =>
    let rests := es.map fun e => ofParts (e.parts.drop begun.length)
    sequence (begun ++ [merged (rests.flatMap branches)])

/-- Whether an expression can be found at a place without taking characters. -/
def isMet (before after : Option Char) : Expr → Bool
  | nothing => true
  | text cs => cs.isEmpty
  | set _ | boundaryWithoutData => false
  | condition k => k.holds before after
  | group e => e.isMet before after
  | both a b => a.isMet before after && b.isMet before after
  | either a b => a.isMet before after || b.isMet before after
  | times e least _ => least = 0 || e.isMet before after

/-- One after the other. -/
def followedBy (a b : Expr) : Expr := if a = nothing then b else both a b

/-- What may be left of an expression after a character. Where the repeated part
can be found without taking characters, so can the rest of its least count. -/
def after (before : Option Char) (c : Char) : Expr → List Expr
  | nothing | text [] | condition _ | boundaryWithoutData => []
  | text (d :: ds) => if c = d then [if ds = [] then nothing else text ds] else []
  | set s => if s.contains c then [nothing] else []
  | group e => e.after before c
  | both a b =>
    (a.after before c).map (followedBy · b) ++
      if a.isMet before (some c) then b.after before c else []
  | either a b => a.after before c ++ b.after before c
  | times e least most =>
    let rest := repeated e (if e.isMet before (some c) then 0 else least - 1) (most.map (· - 1))
    if most = some 0 then [] else (e.after before c).map (followedBy · rest)

/-- Whether one of the expressions, or a further one that may begin anywhere, is
found in the text behind a character. -/
def find (e : Expr) (before : Option Char) (begun : List Expr) (text : List Char) : Bool :=
  let sought := if begun.contains e then begun else e :: begun
  sought.any (isMet before text.head?) ||
    match text with
    | [] => false
    | c :: rest => find e (some c) (sought.flatMap (after before c)).eraseDups rest

/-- Whether a part of a text fits. -/
def occursIn (e : Expr) (text : List Char) : Bool := e.find none [] text

/-- Whether there is no data for some boundary. -/
def lacksData : Expr → Bool
  | boundaryWithoutData => true
  | nothing | text _ | set _ | condition _ => false
  | group e => e.lacksData
  | both a b | either a b => a.lacksData || b.lacksData
  | times e _ _ => e.lacksData

end Expr

end SspUpdate.Pattern
