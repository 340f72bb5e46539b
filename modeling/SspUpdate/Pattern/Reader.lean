import SspUpdate.Pattern.Class
import SspUpdate.Pattern.Group
import SspUpdate.Pattern.Repetition

/-!
# Reading patterns

A pattern is read from left to right. What stands around the open groups is
kept until they are closed.
-/

namespace SspUpdate.Pattern

/-- The alternatives of a group that have been read, and the last of them. -/
structure Branches where
  start : Place
  /-- The finished alternatives, the latest first. -/
  finished : List Node := []
  lastStart : Place := start
  /-- The parts of the last alternative, the latest first. -/
  last : List Node := []

namespace Branches

def push (b : Branches) (n : Node) : Branches := { b with last := n :: b.last }

/-- The last alternative, which ends at a place. -/
def lastNode (b : Branches) (stop : Place) : Node :=
  match b.last with
  | [] => .nothing ⟨b.lastStart, stop⟩
  | [n] => n
  | ns => .sequence ⟨b.lastStart, stop⟩ ns.reverse

/-- Begins a further alternative behind a bar. -/
def split (b : Branches) (bar after : Place) : Branches :=
  { b with finished := b.lastNode bar :: b.finished, lastStart := after, last := [] }

def toNode (b : Branches) (stop : Place) : Node :=
  match b.finished with
  | [] => b.lastNode stop
  | ns => .alternatives ⟨b.start, stop⟩ (b.lastNode stop :: ns).reverse

end Branches

/-- A group that is not closed yet. -/
structure OpenGroup where
  /-- The parenthesis. -/
  span : Span
  captured : Bool
  changes : FlagChanges
  /-- What has been read around it. -/
  around : Branches
  /-- Whether blanks are left out around it. -/
  spaced : Bool

structure Reading where
  cursor : Cursor
  /-- The names of groups so far. -/
  names : List (List Char × Span) := []
  groups : List OpenGroup := []
  branches : Branches

namespace Reading

/-- Reads an opening parenthesis and what belongs to it. -/
def openGroup (r : Reading) : Except Fault Reading := do
  let c := r.cursor
  let (what, after) ← opening c
  let enter (captured : Bool) (changes : FlagChanges) : Reading :=
    let spaced := (changes.state? .ignoreBlanks).getD c.spaced
    { r with
      cursor := { after with spaced }
      groups := ⟨c.charSpan, captured, changes, r.branches, c.spaced⟩ :: r.groups
      branches := { start := after.place } }
  match what with
  | .plain => return enter true []
  | .flagged changes => return enter false changes
  | .named name span =>
    match r.names.lookup name with
    | some earlier => .error { mistake := .nameRepeated, span, earlier }
    | none => return { enter true [] with names := (name, span) :: r.names }
  | .flags span changes =>
    let spaced := (changes.state? .ignoreBlanks).getD c.spaced
    return { r with
      cursor := { after with spaced }
      branches := r.branches.push (.flags span changes) }

/-- Reads a closing parenthesis. -/
def closeGroup (r : Reading) : Except Fault Reading :=
  match r.groups with
  | [] => fail .groupUnopened r.cursor.charSpan
  | g :: groups =>
    let after := r.cursor.bump
    let node := .group (after.since g.span.start) g.captured g.changes
      (r.branches.toNode r.cursor.place)
    .ok { r with
      cursor := { after with spaced := g.spaced }
      groups
      branches := g.around.push node }

/-- Repeats the latest part. -/
def repeatLast (r : Reading) (read : Cursor → Except Fault Repetition) : Except Fault Reading :=
  match r.branches.last with
  | [] | .nothing _ :: _ | .flags _ _ :: _ => fail .repetitionMissing r.cursor.here
  | n :: before => do
    let t ← read r.cursor
    let node := .times (t.cursor.since n.span.start) n t.least t.most
    return { r with cursor := t.cursor, branches := { r.branches with last := node :: before } }

/-- Reads a part that takes one character. -/
def one (r : Reading) (part : Span → Node) : Except Fault Reading :=
  .ok { r with cursor := r.cursor.bump, branches := r.branches.push (part r.cursor.charSpan) }

/-- Reads a part. -/
def part (r : Reading) (read : Cursor → Except Fault (Node × Cursor)) : Except Fault Reading := do
  let (n, cursor) ← read r.cursor
  return { r with cursor, branches := r.branches.push n }

/-- Reads what begins with a character. -/
def step (r : Reading) (next : Char) : Except Fault Reading :=
  match next with
  | '(' => r.openGroup
  | ')' => r.closeGroup
  | '|' =>
    let after := r.cursor.bump
    .ok { r with cursor := after, branches := r.branches.split r.cursor.place after.place }
  | '[' => r.part bracket
  | '?' => r.repeatLast fun c => .ok (uncounted 0 (some 1) c)
  | '*' => r.repeatLast fun c => .ok (uncounted 0 none c)
  | '+' => r.repeatLast fun c => .ok (uncounted 1 none c)
  | '{' => r.repeatLast counted
  | '\\' => r.part escape
  | '.' => r.one .dot
  | '^' => r.one (.anchor · .lineStart)
  | '$' => r.one (.anchor · .lineEnd)
  | _ => r.one fun span => .literal { span, char := next }

/-- Reads on to the end of the pattern. -/
def finish (r : Reading) : Except Fault Node :=
  let c := r.cursor.skip
  match c.rest with
  | [] =>
    match r.groups with
    | g :: _ => fail .groupUnclosed g.span
    | [] => .ok (r.branches.toNode c.place)
  | next :: _ =>
    match step { r with cursor := c } next with
    | .error f => .error f
    | .ok on =>
      if on.cursor.left < r.cursor.left then on.finish else .ok (on.branches.toNode c.place)
termination_by r.cursor.left

end Reading

/-- Reads a pattern. -/
def Node.parse (text : List Char) : Except Fault Node := do
  let n ← Reading.finish { cursor := { rest := text }, branches := { start := {} } }
  match n.tooDeep? 0 with
  | some span => fail .nestedTooDeep span
  | none => return n

end SspUpdate.Pattern
