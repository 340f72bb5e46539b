import SspUpdate.Pattern.Encoded
import SspUpdate.Pattern.Expr

/-!
# Room

A search goes through states, one for each place in an expression at which it
may be, forward to find the end of a part and backward to find its beginning.
Repetitions take the room of all their parts. A pattern is refused where its
states would take too much.
-/

namespace SspUpdate.Pattern

inductive Direction where
  | forward
  | backward
  deriving DecidableEq, Repr

/-- The bytes of a state by itself. -/
def stateRoom : Nat := 32

/-- A range of bytes and the state that it leads to. -/
def stepRoom : Nat := 8

/-- A state that is one of several to go on with. -/
def choiceRoom : Nat := 4

/-- A state with several to go on with. -/
def forkRoom (choices : Nat) : Nat := stateRoom + choices * choiceRoom

def total (ns : List Nat) : Nat := ns.foldl (· + ·) 0

/-- A set has a state for its end. The states before it are shared where what may
follow is the same; backward, where what led there is. -/
def CharSet.room (way : Direction) (s : CharSet) : Nat :=
  let ranges := s.encoded
  if s.isAscii then stateRoom + s.ranges.length * stepRoom + stateRoom
  else match way with
    | .forward =>
      let states := (continuations 4 ranges).eraseDups
      stateRoom + total (states.map fun rs => stateRoom + (byFirst rs).length * stepRoom)
    | .backward =>
      forkRoom ranges.length + stateRoom + (beginnings ranges).eraseDups.length * stateRoom

/-- The bytes of a text, in the order in which they are looked for. -/
def bytesOf (way : Direction) (cs : List Char) : List UInt8 :=
  let bytes := cs.flatMap String.utf8EncodeChar
  match way with
  | .forward => bytes
  | .backward => bytes.reverse

/-- Parts texts where one of them has ended. Of the ends that come first, all but
one are left out. -/
def untilEnds (texts : List (List UInt8)) : List (List (List UInt8)) :=
  let groups := split (texts.dropWhile List.isEmpty)
  if texts.head? = some [] then [] :: groups else groups
where
  split : List (List UInt8) → List (List (List UInt8))
    | [] => [[]]
    | [] :: ts => [] :: split ts
    | t :: ts =>
      match split ts with
      | [] => [[t]]
      | g :: gs => (t :: g) :: gs

/-- What is left of the texts that begin with a byte. -/
def restsAfter (b : UInt8) (texts : List (List UInt8)) : List (List UInt8) :=
  texts.filterMap fun t =>
    match t with
    | [] => none
    | first :: rest => if first = b then some rest else none

/-- The states of alternative texts of at most `length` bytes. Texts that begin
alike share their states, unless another text ends between them. -/
def textsRoom (length : Nat) (texts : List (List UInt8)) : Nat :=
  match length with
  | 0 => 0
  | length + 1 =>
    let groups := untilEnds texts
    let filled := groups.filter (!·.isEmpty)
    forkRoom (filled.length + groups.length - 1) + total (filled.map fun group =>
      let firsts := (group.filterMap List.head?).eraseDups
      let steps := if firsts.length = 1 then 0 else firsts.length * stepRoom
      stateRoom + steps + total (firsts.map fun b =>
        let rests := restsAfter b group
        if rests.all List.isEmpty then 0 else textsRoom length rests))

namespace Expr

/-- The fewest characters of an expression, if it can be found at all. -/
def least? : Expr → Option Nat
  | nothing | condition _ | boundaryWithoutData => some 0
  | text cs => some cs.length
  | set s => if s.isEmpty then none else some 1
  | group e => e.least?
  | both a b => do return (← a.least?) + (← b.least?)
  | either a b => do return min (← a.least?) (← b.least?)
  | times e least _ => e.least?.map (least * ·)

/-- The room of a repetition of an expression that takes `room` itself. Where it can
be repeated without taking characters, a second fork leads past it. -/
def timesRoom (e : Expr) (room least : Nat) : Option Nat → Nat
  | none =>
    if 0 < least then least * room + forkRoom 2
    else if (e.least?.getD 0) = 0 then room + forkRoom 2 + forkRoom 2 + stateRoom
    else room + forkRoom 2
  | some most =>
    if least = most then least * room
    else if most = 1 then room + forkRoom 2 + stateRoom
    else
      (if least = 0 then stateRoom else least * room) + stateRoom +
        (most - least) * (room + forkRoom 2)

/-- The room of an expression. One that is `listed` among alternatives is one to
go on with, too. -/
def room (way : Direction) (listed : Bool) : Expr → Nat
  | nothing | condition _ | boundaryWithoutData => entry + stateRoom
  | text cs => entry + (bytesOf way cs).length * stateRoom
  | set s => entry + s.room way
  | group e =>
    entry + e.room way false + if way = .forward then 2 * stateRoom else 0
  | both a b => entry + a.room way false + b.room way false
  | times e least most => entry + timesRoom e (e.room way false) least most
  | either a b =>
    let branches := a.room way true + b.room way true
    if listed then branches
    else match (either a b).branches.mapM text? with
      | some texts =>
        let texts := texts.map (bytesOf way)
        stateRoom + textsRoom ((texts.map List.length).foldl max 0) texts
      | none => stateRoom + stateRoom + branches
where
  entry : Nat := if listed then choiceRoom else 0

/-- Whether an expression is found only where the text begins, or ends. -/
def isAnchored (way : Direction) : Expr → Bool
  | condition k => k = match way with
    | .forward => .textStart
    | .backward => .textEnd
  | nothing | text _ | set _ | boundaryWithoutData => false
  | group e => e.isAnchored way
  | both a b =>
    match way with
    | .forward => a.isAnchored way || (a.takesNothing && b.isAnchored way)
    | .backward => b.isAnchored way || (b.takesNothing && a.isAnchored way)
  | either a b => a.isAnchored way && b.isAnchored way
  | times e least _ => 0 < least && e.isAnchored way

/-- The room of a search. Unless it is anchored it may pass any bytes first, and
forward it notes where the whole begins and ends. -/
def searchRoom (way : Direction) (e : Expr) : Nat :=
  let passing := if e.isAnchored way then stateRoom else forkRoom 2 + 2 * stateRoom + stepRoom
  passing + (group e).room way false + stateRoom

/-- The most room that a search may take. -/
def roomLimit : Nat := 10 * 1024 * 1024

def fits (way : Direction) (e : Expr) : Bool := e.searchRoom way ≤ roomLimit

end Expr

end SspUpdate.Pattern
