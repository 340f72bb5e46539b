import SspUpdate.Pattern.Tree

/-!
# Sets of characters

A set is given by its cuts, in rising order: the numbers of characters at which
it begins and ends, in turn.
-/

namespace SspUpdate.Pattern

structure CharSet where
  cuts : List Nat
  deriving DecidableEq, Repr

namespace CharSet

/-- Whether a number is inside behind a cut. -/
def behind (n : Nat) (inside : Bool) (cut : Nat) : Bool := if cut ≤ n then !inside else inside

/-- Whether a number lies in the set: an odd number of cuts is at or below it. -/
def holds (s : CharSet) (n : Nat) : Bool := s.cuts.foldl (behind n) false

def contains (s : CharSet) (c : Char) : Bool := s.holds c.toNat

/-- The cuts of two sets combined, where the sides are inside or outside so far. -/
def merge (op : Bool → Bool → Bool) (left right : Bool) (as bs : List Nat) : List Nat :=
  match as, bs with
  | [], [] => []
  | a :: as, [] => change a (!left) right ++ merge op (!left) right as []
  | [], b :: bs => change b left (!right) ++ merge op left (!right) [] bs
  | a :: as, b :: bs =>
    if a < b then change a (!left) right ++ merge op (!left) right as (b :: bs)
    else if b < a then change b left (!right) ++ merge op left (!right) (a :: as) bs
    else change a (!left) (!right) ++ merge op (!left) (!right) as bs
termination_by as.length + bs.length
where
  /-- A cut, if membership changes there. -/
  change (cut : Nat) (left' right' : Bool) : List Nat :=
    if op left' right' = op left right then [] else [cut]

def combine (op : Bool → Bool → Bool) (s t : CharSet) : CharSet :=
  ⟨merge op false false s.cuts t.cuts⟩

def union (s t : CharSet) : CharSet := combine (· || ·) s t

def inter (s t : CharSet) : CharSet := combine (· && ·) s t

def diff (s t : CharSet) : CharSet := combine (fun l r => l && !r) s t

def symmDiff (s t : CharSet) : CharSet := combine (· != ·) s t

def empty : CharSet := ⟨[]⟩

/-- All characters. -/
def all : CharSet := ⟨[0, 0xD800, 0xE000, 0x110000]⟩

def compl (s : CharSet) : CharSet := all.diff s

/-- The characters from one to another. -/
def range (low high : Char) : CharSet := all.inter ⟨[low.toNat, high.toNat + 1]⟩

def single (c : Char) : CharSet := ⟨[c.toNat, c.toNat + 1]⟩

def ofRanges (ranges : List (Char × Char)) : CharSet :=
  ranges.foldl (fun s (low, high) => s.union (range low high)) empty

/-- The only character of a set. -/
def char? (s : CharSet) : Option Char :=
  match s.cuts with
  | [low, high] => if high = low + 1 then some (Char.ofNat low) else none
  | _ => none

/-- Cuts in pairs: the first number of each range and the last. -/
def pairs : List Nat → List (Nat × Nat)
  | low :: high :: rest => (low, high - 1) :: pairs rest
  | _ => []

/-- The ranges of a set. -/
def ranges (s : CharSet) : List (Nat × Nat) := pairs s.cuts

def isEmpty (s : CharSet) : Bool := s.cuts.isEmpty

def isAscii (s : CharSet) : Bool := s.cuts.all (· ≤ 0x80)

/-- The set with the ASCII letters of its letters in either case. -/
def foldAscii (s : CharSet) : CharSet :=
  let lower : CharSet := ⟨(s.inter (range 'A' 'Z')).cuts.map (· + 32)⟩
  let upper : CharSet := ⟨(s.inter (range 'a' 'z')).cuts.map (· - 32)⟩
  (s.union lower).union upper

end CharSet

/-- The characters of a named class. -/
def NamedClass.set : NamedClass → CharSet
  | alnum => .ofRanges [('0', '9'), ('A', 'Z'), ('a', 'z')]
  | alpha => .ofRanges [('A', 'Z'), ('a', 'z')]
  | ascii => .range '\x00' '\x7f'
  | blank => .ofRanges [('\t', '\t'), (' ', ' ')]
  | cntrl => .ofRanges [('\x00', '\x1f'), ('\x7f', '\x7f')]
  | digit => .range '0' '9'
  | graph => .range '!' '~'
  | lower => .range 'a' 'z'
  | print => .range ' ' '~'
  | punct => .ofRanges [('!', '/'), (':', '@'), ('[', '\x60'), ('\x7b', '~')]
  | space => .ofRanges [('\t', '\r'), (' ', ' ')]
  | upper => .range 'A' 'Z'
  | word => .ofRanges [('0', '9'), ('A', 'Z'), ('_', '_'), ('a', 'z')]
  | xdigit => .ofRanges [('0', '9'), ('A', 'F'), ('a', 'f')]

/-- The ASCII characters of the class of a letter. -/
def LetterClass.set : LetterClass → CharSet
  | digit => NamedClass.digit.set
  | blank => NamedClass.space.set
  | word => NamedClass.word.set

end SspUpdate.Pattern
