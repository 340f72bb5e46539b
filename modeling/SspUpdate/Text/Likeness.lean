/-!
# Likeness of words

How alike two words are: how many letters they share at about the same place,
and how many of these stand in another order. With `m` shared letters, `t` pairs
of them in another order, and words of `a` and `b` letters, the likeness is the
mean of `m / a`, `m / b` and `(m - t) / m`.
-/

namespace SspUpdate.Text

/-- A likeness as a fraction. -/
structure Likeness where
  numerator : Nat
  denominator : Nat
  deriving DecidableEq, Repr

namespace Likeness

def lt (x y : Likeness) : Bool := x.numerator * y.denominator < y.numerator * x.denominator

/-- Finds a letter among those that are not shared yet, from place `low` to `high`. -/
def share (x : Char) (low high place : Nat) : List (Char × Bool) → Option (List (Char × Bool))
  | [] => none
  | (y, shared) :: rest =>
    if y = x && !shared && low ≤ place && place ≤ high then some ((y, true) :: rest)
    else (share x low high (place + 1) rest).map ((y, shared) :: ·)

/-- The shared letters in the order of either word. -/
def shared (reach place : Nat) : List Char → List (Char × Bool) → List Char × List Char
  | [], marked => ([], (marked.filter (·.2)).map (·.1))
  | x :: rest, marked =>
    match share x (place - reach) (place + reach) 0 marked with
    | some marked =>
      let (inFirst, inSecond) := shared reach (place + 1) rest marked
      (x :: inFirst, inSecond)
    | none => shared reach (place + 1) rest marked

def ofWords (first second : List Char) : Likeness :=
  let (a, b) := (first.length, second.length)
  let (inFirst, inSecond) := shared (max a b / 2 - 1) 0 first (second.map (·, false))
  let m := inFirst.length
  let t := ((inFirst.zip inSecond).filter fun (x, y) => x ≠ y).length / 2
  if a = 0 && b = 0 then ⟨1, 1⟩
  else if m = 0 then ⟨0, 1⟩
  else ⟨m * m * (a + b) + (m - t) * a * b, 3 * a * b * m⟩

/-- Words that are less alike are not taken for each other. -/
def least : Likeness := ⟨7, 10⟩

end Likeness

/-- The words that may have been meant, the most likely last. -/
def likeWords (word : String) (words : List String) : List String :=
  let rated := words.map fun w => (Likeness.ofWords word.toList w.toList, w)
  let like := rated.filter fun r => Likeness.least.lt r.1
  (like.mergeSort fun r s => !s.1.lt r.1).map (·.2)

end SspUpdate.Text
