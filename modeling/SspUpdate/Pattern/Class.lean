import SspUpdate.Pattern.Escape

/-!
# Classes between brackets

A class holds characters, ranges, named classes and further classes in
brackets, joined or combined by set operations, which are read from left to
right. A bracket or a hyphen that comes first stands for itself.
-/

namespace SspUpdate.Pattern

/-- What has been read of a class since its start or since an operation. -/
structure ClassPart where
  place : Place
  /-- The latest first. -/
  items : List ClassItem := []

namespace ClassPart

def push (p : ClassPart) (i : ClassItem) : ClassPart := { p with items := i :: p.items }

def toItem (p : ClassPart) : ClassItem :=
  match p.items, p.items.getLast? with
  | [i], _ => i
  | last :: _, some first => .union ⟨first.span.start, last.span.stop⟩ p.items.reverse
  | _, _ => .nothing (.before p.place)

end ClassPart

/-- A bracket that is not closed yet. -/
structure OpenBracket where
  /-- From the bracket to the first item. -/
  span : Span
  negated : Bool
  /-- What has been read of the class around it. -/
  around : ClassPart
  /-- An operation with its left side. -/
  pending : Option (SetOperation × ClassItem) := none

/-- The class so far, after the pending operation. -/
def OpenBracket.combined (b : OpenBracket) (part : ClassPart) : ClassItem :=
  match b.pending with
  | none => part.toItem
  | some (op, left) =>
    .operation ⟨left.span.start, part.toItem.span.stop⟩ op left part.toItem

/-- Leading hyphens of a class that begins at a place. -/
def leadingHyphens (start : Place) (part : ClassPart) (c : Cursor) :
    Except Fault (ClassPart × Cursor) :=
  match _ : c.rest with
  | [] => fail .classUnclosed (.before start)
  | x :: _ =>
    if x = '-' then
      leadingHyphens start (part.push (.literal { span := c.charSpan, char := '-' })) c.step
    else .ok (part, c)
termination_by c.left
decreasing_by exact Cursor.left_step_lt ‹_›

/-- Reads an opening bracket and what stands for itself after it. -/
def openBracket (around : ClassPart) (c : Cursor) :
    Except Fault ((OpenBracket × ClassPart) × Cursor) := do
  let start := c.place
  let c := c.step
  let negated := c.rest.head? = some '^'
  let c := if negated then c.step else c
  if c.atEnd then fail .classUnclosed (c.since start)
  else
    let (part, c) ← leadingHyphens start { place := c.place } c
    if part.items.isEmpty && c.rest.head? = some ']' then
      let part := part.push (.literal { span := c.charSpan, char := ']' })
      let c := c.step
      if c.atEnd then fail .classUnclosed (c.since start)
      else return (({ span := c.since start, negated, around }, part), c)
    else return (({ span := c.since start, negated, around }, part), c)

/-- A named class such as `[:alpha:]`, if one comes next. -/
def namedClass? (c : Cursor) : Option (ClassItem × Cursor) := do
  let inside ← c.drop? ['[', ':']
  let (negated, inside) := match inside.drop? ['^'] with
    | some c => (true, c)
    | none => (false, inside)
  let name := inside.rest.takeWhile (· ≠ ':')
  let after ← inside.drop? (name ++ [':', ']'])
  let kind ← NamedClass.ofName? (String.ofList name)
  return (.named (after.since c.place) kind negated, after)

/-- A character or an escape in a class. -/
def classAtom (c : Cursor) : Except Fault (Node × Cursor) :=
  match c.rest with
  | [] => .ok (.nothing c.here, c)
  | x :: _ =>
    if x = '\\' then escape c else .ok (.literal { span := c.charSpan, char := x }, c.bump)

/-- What may stand in a class by itself. -/
def Node.toClassItem : Node → Except Fault ClassItem
  | .literal l => .ok (.literal l)
  | .property span name => .ok (.property span name)
  | .letter span kind negated => .ok (.letter span kind negated)
  | n => fail .classEscape n.span

/-- What may begin or end a range. -/
def Node.toLiteral : Node → Except Fault Literal
  | .literal l => .ok l
  | n => fail .classRangeEnd n.span

/-- Whether a range goes on at the cursor; a hyphen before a closing bracket
stands for itself, and two make an operation. -/
def continuesRange (c : Cursor) : Bool :=
  c.rest.head? = some '-' && c.secondSolid? ≠ some ']' && c.secondSolid? ≠ some '-'

/-- Reads a character, an escape or a range in an open bracket. -/
def classItem (inner : OpenBracket) (c : Cursor) : Except Fault (ClassItem × Cursor) := do
  let (first, c) ← classAtom c
  let c := c.skip
  if c.atEnd then fail .classUnclosed inner.span
  else if continuesRange c then
    let c := c.step
    if c.atEnd then fail .classUnclosed inner.span
    else
      let (second, c) ← classAtom c
      let low ← first.toLiteral
      let high ← second.toLiteral
      let span : Span := ⟨first.span.start, second.span.stop⟩
      if low.char ≤ high.char then return (.range span low high, c)
      else fail .classRangeEmpty span
  else return (← first.toClassItem, c)

/-- The operation of two equal characters. -/
def setOperation? (c : Cursor) : Option (SetOperation × Cursor) :=
  ((c.drop? ['&', '&']).map fun c => (.intersection, c)).or <|
    ((c.drop? ['-', '-']).map fun c => (.difference, c)).or <|
      (c.drop? ['~', '~']).map fun c => (.symmetricDifference, c)

/-- A class that is being read. -/
structure ClassReading where
  inner : OpenBracket
  outer : List OpenBracket := []
  part : ClassPart
  cursor : Cursor

/-- One step in a class: it goes on, or its outermost bracket is closed. -/
def ClassReading.step (r : ClassReading) (next : Char) :
    Except Fault (ClassReading ⊕ (Node × Cursor)) :=
  let c := r.cursor
  if next = '[' then
    match namedClass? c with
    | some (i, c) => .ok (.inl { r with part := r.part.push i, cursor := c })
    | none => do
      let ((inner, part), c) ← openBracket r.part c
      return .inl { inner, outer := r.inner :: r.outer, part, cursor := c }
  else if next = ']' then
    let c := c.bump
    let span := c.since r.inner.span.start
    let content := r.inner.combined r.part
    match r.outer with
    | [] => .ok (.inr (.bracket span r.inner.negated content, c))
    | inner :: outer =>
      let part := r.inner.around.push (.bracket span r.inner.negated content)
      .ok (.inl { inner, outer, part, cursor := c })
  else match setOperation? c with
    | some (op, c) =>
      let inner := { r.inner with pending := some (op, r.inner.combined r.part) }
      .ok (.inl { r with inner, part := { place := c.place }, cursor := c })
    | none => do
      let (i, c) ← classItem r.inner c
      return .inl { r with part := r.part.push i, cursor := c }

/-- Reads on until the outermost bracket is closed. -/
def ClassReading.finish (r : ClassReading) : Except Fault (Node × Cursor) :=
  let skipped := { r with cursor := r.cursor.skip }
  match skipped.cursor.rest with
  | [] => fail .classUnclosed r.inner.span
  | next :: _ =>
    match skipped.step next with
    | .error f => .error f
    | .ok (.inr done) => .ok done
    | .ok (.inl on) =>
      if on.cursor.left < r.cursor.left then on.finish else fail .classUnclosed r.inner.span
termination_by r.cursor.left

/-- Reads a class from its bracket on. -/
def bracket (c : Cursor) : Except Fault (Node × Cursor) := do
  let ((inner, part), c) ← openBracket { place := c.place } c
  ClassReading.finish { inner, part, cursor := c }

end SspUpdate.Pattern
