import SspUpdate.Pattern.Fault

/-!
# Patterns as written

A pattern is a tree of literals, classes, repetitions, groups and alternatives.
Each part knows its span, so that a fault found later can be shown.
-/

namespace SspUpdate.Pattern

inductive Flag where
  | ignoreCase
  | multiLine
  | dotAll
  | swapGreed
  | unicode
  | carriageReturns
  | ignoreBlanks
  deriving DecidableEq, Repr

/-- What a list of flags turns on and off. -/
abbrev FlagChanges := List (Flag × Bool)

/-- What a list of flags says about one of them. -/
def FlagChanges.state? (changes : FlagChanges) (flag : Flag) : Option Bool :=
  (changes.find? fun c => c.1 = flag).map (·.2)

structure Literal where
  span : Span
  char : Char
  /-- Written by two hexadecimal digits, which may stand for a byte. -/
  asByte : Bool := false
  deriving DecidableEq, Repr

/-- The class that a backslash and a letter stand for. -/
inductive LetterClass where
  | digit
  | blank
  | word
  deriving DecidableEq, Repr

/-- A class of ASCII characters that has a name. -/
inductive NamedClass where
  | alnum
  | alpha
  | ascii
  | blank
  | cntrl
  | digit
  | graph
  | lower
  | print
  | punct
  | space
  | upper
  | word
  | xdigit
  deriving DecidableEq, Repr

/-- The class of a name. -/
def NamedClass.ofName? (name : String) : Option NamedClass :=
  [("alnum", alnum), ("alpha", alpha), ("ascii", ascii), ("blank", blank), ("cntrl", cntrl),
    ("digit", digit), ("graph", graph), ("lower", lower), ("print", print), ("punct", punct),
    ("space", space), ("upper", upper), ("word", word), ("xdigit", xdigit)].lookup name

inductive SetOperation where
  | intersection
  | difference
  | symmetricDifference
  deriving DecidableEq, Repr

/-- What may stand in a class between brackets. -/
inductive ClassItem where
  | nothing (span : Span)
  | literal (l : Literal)
  | range (span : Span) (low high : Literal)
  | named (span : Span) (name : NamedClass) (negated : Bool)
  | property (span : Span) (name : List Char)
  | letter (span : Span) (kind : LetterClass) (negated : Bool)
  | bracket (span : Span) (negated : Bool) (content : ClassItem)
  | union (span : Span) (items : List ClassItem)
  | operation (span : Span) (op : SetOperation) (left right : ClassItem)
  deriving Repr

def ClassItem.span : ClassItem → Span
  | nothing s | range s _ _ | named s _ _ | property s _ | letter s _ _ | bracket s _ _ | union s _
  | operation s _ _ _ => s
  | literal l => l.span

/-- A condition on what is before and after a place. -/
inductive Anchor where
  | lineStart
  | lineEnd
  | textStart
  | textEnd
  | boundary
  | noBoundary
  | wordStart
  | wordEnd
  | wordStartHalf
  | wordEndHalf
  deriving DecidableEq, Repr

inductive Node where
  | nothing (span : Span)
  | flags (span : Span) (changes : FlagChanges)
  | literal (l : Literal)
  | dot (span : Span)
  | anchor (span : Span) (kind : Anchor)
  | property (span : Span) (name : List Char)
  | letter (span : Span) (kind : LetterClass) (negated : Bool)
  | bracket (span : Span) (negated : Bool) (content : ClassItem)
  | times (span : Span) (node : Node) (min : Nat) (max : Option Nat)
  /-- Captured, unless the parenthesis says that it is not. -/
  | group (span : Span) (captured : Bool) (changes : FlagChanges) (node : Node)
  | alternatives (span : Span) (nodes : List Node)
  | sequence (span : Span) (nodes : List Node)
  deriving Repr

def Node.span : Node → Span
  | nothing s | flags s _ | dot s | anchor s _ | property s _ | letter s _ _ | bracket s _ _
  | times s _ _ _ | group s _ _ _ | alternatives s _ | sequence s _ => s
  | literal l => l.span

mutual

/-- The first part of a class that is nested too deep, below `depth` others. -/
def ClassItem.tooDeep? (depth : Nat) : ClassItem → Option Span
  | .bracket s _ content =>
    if nestLimit ≤ depth then some s else content.tooDeep? (depth + 1)
  | .union s items => if nestLimit ≤ depth then some s else ClassItem.anyTooDeep? (depth + 1) items
  | .operation s _ left right =>
    if nestLimit ≤ depth then some s
    else (left.tooDeep? (depth + 1)).or (right.tooDeep? (depth + 1))
  | _ => none

def ClassItem.anyTooDeep? (depth : Nat) : List ClassItem → Option Span
  | [] => none
  | i :: rest => (i.tooDeep? depth).or (ClassItem.anyTooDeep? depth rest)

end

mutual

/-- The first part of a pattern that is nested too deep, below `depth` others. -/
def Node.tooDeep? (depth : Nat) : Node → Option Span
  | .bracket s _ content =>
    if nestLimit ≤ depth then some s else content.tooDeep? (depth + 1)
  | .times s node _ _ | .group s _ _ node =>
    if nestLimit ≤ depth then some s else node.tooDeep? (depth + 1)
  | .alternatives s nodes | .sequence s nodes =>
    if nestLimit ≤ depth then some s else Node.anyTooDeep? (depth + 1) nodes
  | _ => none

def Node.anyTooDeep? (depth : Nat) : List Node → Option Span
  | [] => none
  | n :: rest => (n.tooDeep? depth).or (Node.anyTooDeep? depth rest)

end

end SspUpdate.Pattern
