import SspUpdate.Text.Blank
import SspUpdate.Text.Quoted

/-!
# Device addresses

An address is written in decimal, or in hexadecimal after `0x`, with blanks
around it allowed. What is not the number of a byte stands for address 0.
-/

namespace SspUpdate

namespace Address

def decimalDigit? (c : Char) : Option Nat :=
  if '0' ≤ c ∧ c ≤ '9' then some (c.toNat - '0'.toNat) else none

def hexDigit? (c : Char) : Option Nat :=
  if '0' ≤ c ∧ c ≤ '9' then some (c.toNat - '0'.toNat)
  else if 'a' ≤ c ∧ c ≤ 'f' then some (c.toNat - 'a'.toNat + 10)
  else if 'A' ≤ c ∧ c ≤ 'F' then some (c.toNat - 'A'.toNat + 10)
  else none

/-- Reads on in a numeral whose value so far is `value`, while it fits a byte. -/
def digits? (digit? : Char → Option Nat) (base value : Nat) : List Char → Option Nat
  | [] => some value
  | c :: rest =>
    match digit? c with
    | some d =>
      if base * value + d < 256 then digits? digit? base (base * value + d) rest else none
    | none => none

/-- At least one digit, after an optional plus sign. -/
def number? (digit? : Char → Option Nat) (base : Nat) (text : List Char) : Option Nat :=
  match text with
  | '+' :: c :: rest => digits? digit? base 0 (c :: rest)
  | '+' :: [] => none
  | [] => none
  | c :: rest => digits? digit? base 0 (c :: rest)

/-- The address a text without surrounding blanks stands for. -/
def ofChars? : List Char → Option Nat
  | '0' :: 'x' :: rest => number? hexDigit? 16 rest
  | '0' :: 'X' :: rest => number? hexDigit? 16 rest
  | text => number? decimalDigit? 10 text

end Address

/-- An address text that was read, and the text that was refused if it was. -/
structure AddressReading where
  value : UInt8
  refused : Option (List Char)
  deriving DecidableEq, Repr

def AddressReading.ofString (text : String) : AddressReading :=
  let text := Text.trimBlanks text.toList
  match Address.ofChars? text with
  | some n => ⟨n.toUInt8, none⟩
  | none => ⟨0, some text⟩

/-- What is said about a refused text. -/
def AddressReading.warning (refused : List Char) : String :=
  "Invalid SSP address " ++ Text.quoted refused ++ ", using 0"

end SspUpdate
