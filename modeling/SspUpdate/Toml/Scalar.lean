import SspUpdate.Address
import SspUpdate.Toml.Value

/-!
# TOML scalars

Strings in their four forms, and the words that stand for numbers, truth
values and dates. A reader takes the characters from where its value starts
and gives the value with the characters after it.
-/

namespace SspUpdate.Toml

/-- Characters a comment may hold. -/
def isPlain (c : Char) : Bool := c = '\t' || (0x20 ≤ c.toNat && c.toNat ≠ 0x7F)

def isSpace (c : Char) : Bool := c = ' ' || c = '\t'

def isDigit (c : Char) : Bool := '0' ≤ c && c ≤ '9'

def isHexDigit (c : Char) : Bool := (Address.hexDigit? c).isSome

def isBareKey (c : Char) : Bool :=
  isDigit c || ('a' ≤ c && c ≤ 'z') || ('A' ≤ c && c ≤ 'Z') || c = '-' || c = '_'

/-- The character with the given code point in hexadecimal digits. -/
def scalar? (digits : List Char) : Option Char := do
  let n ← digits.foldlM (fun n c => (Address.hexDigit? c).map (16 * n + ·)) 0
  if n.isValidChar then some (Char.ofNat n) else none

/-- What a backslash and a letter stand for. -/
def escape? : Char → Option Char
  | 'b' => some '\x08'
  | 't' => some '\t'
  | 'n' => some '\n'
  | 'f' => some '\x0c'
  | 'r' => some '\r'
  | '"' => some '"'
  | '\\' => some '\\'
  | _ => none

/-- Puts a character in front of what a reader found. -/
def prepend (c : Char) : Option (List Char × List Char) → Option (List Char × List Char)
  | some (s, rest) => some (c :: s, rest)
  | none => none

/-- The rest of a string after its opening double quote. -/
def basicString : List Char → Option (List Char × List Char)
  | [] => none
  | '"' :: rest => some ([], rest)
  | '\\' :: 'u' :: a :: b :: c :: d :: rest =>
    (scalar? [a, b, c, d]).bind fun ch => prepend ch (basicString rest)
  | '\\' :: 'U' :: a :: b :: c :: d :: e :: f :: g :: h :: rest =>
    (scalar? [a, b, c, d, e, f, g, h]).bind fun ch => prepend ch (basicString rest)
  | '\\' :: c :: rest => (escape? c).bind fun ch => prepend ch (basicString rest)
  | c :: rest => if isPlain c && c ≠ '\\' then prepend c (basicString rest) else none

/-- The rest of a string after its opening single quote. -/
def literalString : List Char → Option (List Char × List Char)
  | [] => none
  | '\'' :: rest => some ([], rest)
  | c :: rest => if isPlain c then prepend c (literalString rest) else none

/-- Whether a line ends here, after spaces. -/
def endsLine : List Char → Bool
  | '\n' :: _ => true
  | '\r' :: '\n' :: _ => true
  | c :: rest => isSpace c && endsLine rest
  | [] => false

/-- The end of a string of several lines: of up to five quotes in a row the
last three close it. -/
def closing (quote : Char) (cs : List Char) : Option (List Char × List Char) :=
  let n := min 5 (cs.takeWhile (· = quote)).length
  if 3 ≤ n then some (List.replicate (n - 3) quote, cs.drop n) else none

/-- The rest of a string of several lines; `skipping` after a backslash that
ends a line, until something else than blanks comes. -/
def basicLines : (skipping : Bool) → List Char → Option (List Char × List Char)
  | _, [] => none
  | skipping, '\r' :: '\n' :: rest =>
    if skipping then basicLines true rest else prepend '\n' (basicLines false rest)
  | skipping, '\n' :: rest =>
    if skipping then basicLines true rest else prepend '\n' (basicLines false rest)
  | _, '\\' :: 'u' :: a :: b :: c :: d :: rest =>
    (scalar? [a, b, c, d]).bind fun ch => prepend ch (basicLines false rest)
  | _, '\\' :: 'U' :: a :: b :: c :: d :: e :: f :: g :: h :: rest =>
    (scalar? [a, b, c, d, e, f, g, h]).bind fun ch => prepend ch (basicLines false rest)
  | _, '\\' :: c :: rest =>
    if endsLine (c :: rest) then basicLines true (c :: rest)
    else (escape? c).bind fun ch => prepend ch (basicLines false rest)
  | _, '"' :: rest =>
    match closing '"' ('"' :: rest) with
    | some found => some found
    | none => prepend '"' (basicLines false rest)
  | skipping, c :: rest =>
    if skipping && isSpace c then basicLines true rest
    else if isPlain c && c ≠ '\\' then prepend c (basicLines false rest) else none

/-- The rest of a literal string of several lines. -/
def literalLines : List Char → Option (List Char × List Char)
  | [] => none
  | '\r' :: '\n' :: rest => prepend '\n' (literalLines rest)
  | '\n' :: rest => prepend '\n' (literalLines rest)
  | '\'' :: rest =>
    match closing '\'' ('\'' :: rest) with
    | some found => some found
    | none => prepend '\'' (literalLines rest)
  | c :: rest => if isPlain c then prepend c (literalLines rest) else none

/-- A line break right after the opening quotes does not count. -/
def dropFirstBreak : List Char → List Char
  | '\n' :: rest => rest
  | '\r' :: '\n' :: rest => rest
  | cs => cs

/-- A string value in any of its forms. -/
def stringValue : List Char → Option (Value × List Char)
  | '"' :: '"' :: '"' :: rest => found (basicLines false (dropFirstBreak rest))
  | '"' :: rest => found (basicString rest)
  | '\'' :: '\'' :: '\'' :: rest => found (literalLines (dropFirstBreak rest))
  | '\'' :: rest => found (literalString rest)
  | _ => none
where
  found : Option (List Char × List Char) → Option (Value × List Char)
    | some (s, rest) => some (.string (String.ofList s), rest)
    | none => none

/-- Digits with single underscores between them. -/
def grouped (digit : Char → Bool) : List Char → Bool
  | [] => false
  | [c] => digit c
  | c :: '_' :: rest => digit c && grouped digit rest
  | c :: rest => digit c && grouped digit rest

/-- The number that digits stand for; underscores do not count. -/
def numeral (base : Nat) (cs : List Char) : Nat :=
  cs.foldl (fun n c => match Address.hexDigit? c with
    | some d => base * n + d
    | none => n) 0

/-- A decimal integer part: no leading zero. -/
def isDecimal (cs : List Char) : Bool :=
  grouped isDigit cs && (cs.length = 1 || cs.head? ≠ some '0')

/-- A sign in front, and the characters after it. -/
def unsigned : List Char → Option Char × List Char
  | '+' :: rest => (some '+', rest)
  | '-' :: rest => (some '-', rest)
  | cs => (none, cs)

/-- Integers have 64 bits and a sign. -/
def inRange (n : Int) : Bool := Int64.minValue.toInt ≤ n && n ≤ Int64.maxValue.toInt

def integer? (word : List Char) : Option Int :=
  let radix (base : Nat) (digit : Char → Bool) (cs : List Char) : Option Int :=
    if grouped digit cs then some (numeral base cs) else none
  let n : Option Int := match word with
    | '0' :: 'x' :: cs => radix 16 isHexDigit cs
    | '0' :: 'o' :: cs => radix 8 (fun c => '0' ≤ c && c ≤ '7') cs
    | '0' :: 'b' :: cs => radix 2 (fun c => c = '0' || c = '1') cs
    | _ =>
      let (sign, cs) := unsigned word
      if isDecimal cs then
        some (if sign = some '-' then -(numeral 10 cs : Int) else numeral 10 cs)
      else none
  n.filter inRange

/-- Whether digits times a power of ten round to a double that is finite. -/
def isFinite (digits : List Char) (exponent : Int) : Bool :=
  let digits := digits.dropWhile (· = '0')
  let order := digits.length + exponent
  if digits.isEmpty || order < 300 then true
  else if 310 < order then false
  else
    let limit := Nat.pow 2 1024 - Nat.pow 2 970
    let n := numeral 10 digits
    if 0 ≤ exponent then n * Nat.pow 10 exponent.toNat < limit
    else n < limit * Nat.pow 10 (-exponent).toNat

/-- A fraction or an exponent makes a float; so do the words for infinity and
for no number. Positive ones must not be too large. -/
def isFloat (word : List Char) : Bool :=
  let (sign, cs) := unsigned word
  if cs = ['i', 'n', 'f'] || cs = ['n', 'a', 'n'] then true
  else
    let whole := cs.takeWhile fun c => c ≠ '.' && c ≠ 'e' && c ≠ 'E'
    let cs := cs.drop whole.length
    let fraction := match cs with
      | '.' :: rest => rest.takeWhile fun c => c ≠ 'e' && c ≠ 'E'
      | _ => []
    let dotted := cs.head? = some '.'
    let cs := if dotted then cs.drop (1 + fraction.length) else cs
    let (expSign, expDigits) := unsigned (cs.drop 1)
    let hasExp := !cs.isEmpty
    let magnitude : Int := numeral 10 expDigits
    let exponent := if expSign = some '-' then -magnitude else magnitude
    let digits := whole ++ fraction
    let places := (fraction.filter isDigit).length
    isDecimal whole && (dotted || hasExp) && (!dotted || grouped isDigit fraction) &&
      (!hasExp || grouped isDigit expDigits) &&
      (sign = some '-' || isFinite (digits.filter isDigit) (exponent - places))

/-- The number of two digits, within limits. -/
def twoDigits (low high : Nat) (a b : Char) : Bool :=
  isDigit a && isDigit b && low ≤ numeral 10 [a, b] && numeral 10 [a, b] ≤ high

def daysOf (year month : Nat) : Nat :=
  if month = 2 then
    if year % 4 = 0 ∧ (year % 100 ≠ 0 ∨ year % 400 = 0) then 29 else 28
  else if month = 4 ∨ month = 6 ∨ month = 9 ∨ month = 11 then 30
  else 31

/-- The characters after a date, if there is one. -/
def afterDate? : List Char → Option (List Char)
  | a :: b :: c :: d :: '-' :: m :: n :: '-' :: x :: y :: rest =>
    let year := numeral 10 [a, b, c, d]
    let month := numeral 10 [m, n]
    if [a, b, c, d].all isDigit && twoDigits 1 12 m n && twoDigits 1 (daysOf year month) x y then
      some rest
    else none
  | _ => none

/-- The characters after a time of day, if there is one. -/
def afterTime? : List Char → Option (List Char)
  | a :: b :: ':' :: c :: d :: ':' :: e :: f :: rest =>
    if twoDigits 0 23 a b && twoDigits 0 59 c d && twoDigits 0 60 e f then
      match rest with
      | '.' :: more =>
        if (more.takeWhile isDigit).isEmpty then none else some (more.dropWhile isDigit)
      | _ => some rest
    else none
  | _ => none

/-- Nothing, or an offset from universal time. -/
def isOffset : List Char → Bool
  | [] => true
  | ['Z'] => true
  | ['z'] => true
  | [sign, a, b, ':', c, d] =>
    (sign = '+' || sign = '-') && twoDigits 0 23 a b && twoDigits 0 59 c d
  | _ => false

def isDatetime (word : List Char) : Bool :=
  match afterDate? word with
  | some [] => true
  | some (c :: rest) =>
    (c = 'T' || c = 't' || c = ' ') && ((afterTime? rest).map isOffset).getD false
  | none => afterTime? word = some []

def isWordChar (c : Char) : Bool := isBareKey c || c = '+' || c = '.' || c = ':'

/-- The word at the front; a date takes a time after one space along. -/
def word (cs : List Char) : List Char × List Char :=
  let first := cs.takeWhile isWordChar
  let rest := cs.drop first.length
  match rest with
  | ' ' :: c :: more =>
    if afterDate? first = some [] && isDigit c then
      let second := (c :: more).takeWhile isWordChar
      (first ++ ' ' :: second, (c :: more).drop second.length)
    else (first, rest)
  | _ => (first, rest)

/-- The value of a word. -/
def wordValue? (w : List Char) : Option Value :=
  if w = ['t', 'r', 'u', 'e'] then some (.boolean true)
  else if w = ['f', 'a', 'l', 's', 'e'] then some (.boolean false)
  else match integer? w with
    | some n => some (.integer n)
    | none =>
      if isDatetime w then some .datetime
      else if isFloat w then some .float
      else none

end SspUpdate.Toml
