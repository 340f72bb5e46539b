import SspUpdate.Pattern.Place

/-!
# Faults of a pattern

Why a text is no pattern, and the message that shows the pattern with the
faulty part marked below it.
-/

namespace SspUpdate.Pattern

inductive Mistake where
  | backreference
  | boundaryIncomplete
  | boundaryUnclosed
  | boundaryUnknown
  | caseWithoutData
  | classEscape
  | classRangeEmpty
  | classRangeEnd
  | classUnclosed
  | digitInvalid
  | escapeIncomplete
  | escapeUnknown
  | flagDangling
  | flagIncomplete
  | flagRepeated
  | flagUnknown
  | groupUnclosed
  | groupUnopened
  | hexEmpty
  | hexNoCharacter
  | lookAround
  | nameCharacter
  | nameEmpty
  | nameIncomplete
  | nameRepeated
  | negationRepeated
  | nestedTooDeep
  | notUtf8
  | numberTooLarge
  | propertyEscape
  | propertyUnknown
  | propertyValueUnknown
  | repetitionEmpty
  | repetitionMissing
  | repetitionNumber
  | repetitionUnclosed
  | unicodeOff
  | wordsWithoutData
  deriving DecidableEq, Repr

/-- How deep groups, classes and the like may be nested. -/
def nestLimit : Nat := 250

def Mistake.text : Mistake → String
  | backreference => "backreferences are not supported"
  | boundaryIncomplete =>
    "found either the beginning of a special word boundary or a bounded repetition on a \\b " ++
      "with an opening brace, but no closing brace"
  | boundaryUnclosed =>
    "special word boundary assertion is either unclosed or contains an invalid character"
  | boundaryUnknown =>
    "unrecognized special word boundary assertion, valid choices are: start, end, start-half " ++
      "or end-half"
  | caseWithoutData =>
    "Unicode-aware case insensitivity matching is not available (make sure the unicode-case " ++
      "feature is enabled)"
  | classEscape => "invalid escape sequence found in character class"
  | classRangeEmpty => "invalid character class range, the start must be <= the end"
  | classRangeEnd => "invalid range boundary, must be a literal"
  | classUnclosed => "unclosed character class"
  | digitInvalid => "invalid hexadecimal digit"
  | escapeIncomplete => "incomplete escape sequence, reached end of pattern prematurely"
  | escapeUnknown => "unrecognized escape sequence"
  | flagDangling => "dangling flag negation operator"
  | flagIncomplete => "expected flag but got end of regex"
  | flagRepeated => "duplicate flag"
  | flagUnknown => "unrecognized flag"
  | groupUnclosed => "unclosed group"
  | groupUnopened => "unopened group"
  | hexEmpty => "hexadecimal literal empty"
  | hexNoCharacter => "hexadecimal literal is not a Unicode scalar value"
  | lookAround => "look-around, including look-ahead and look-behind, is not supported"
  | nameCharacter => "invalid capture group character"
  | nameEmpty => "empty capture group name"
  | nameIncomplete => "unclosed capture group name"
  | nameRepeated => "duplicate capture group name"
  | negationRepeated => "flag negation operator repeated"
  | nestedTooDeep =>
    s!"exceed the maximum number of nested parentheses/brackets ({nestLimit})"
  | notUtf8 => "pattern can match invalid UTF-8"
  | numberTooLarge => "decimal literal invalid"
  | propertyEscape => "invalid Unicode character class"
  | propertyUnknown => "Unicode property not found"
  | propertyValueUnknown => "Unicode property value not found"
  | repetitionEmpty => "invalid repetition count range, the start must be <= the end"
  | repetitionMissing => "repetition operator missing expression"
  | repetitionNumber => "repetition quantifier expects a valid decimal"
  | repetitionUnclosed => "unclosed counted repetition"
  | unicodeOff => "Unicode not allowed here"
  | wordsWithoutData =>
    "Unicode-aware Perl class not found (make sure the unicode-perl feature is enabled)"

structure Fault where
  mistake : Mistake
  span : Span
  /-- An earlier part that this one repeats. -/
  earlier : Option Span := none
  deriving DecidableEq, Repr

/-- Fails at a span. -/
def fail {α : Type} (mistake : Mistake) (span : Span) : Except Fault α := .error { mistake, span }

namespace Fault

/-- The lines of a text without their ends; nothing follows the last end. -/
def lines : List Char → List (List Char)
  | [] => []
  | '\n' :: rest => [] :: lines rest
  | '\r' :: '\n' :: rest => [] :: lines rest
  | c :: rest =>
    match lines rest with
    | [] => [[c]]
    | l :: ls => (c :: l) :: ls

/-- The spans that are shown, in the order of the pattern. -/
def spans (f : Fault) : List Span :=
  match f.earlier with
  | none => [f.span]
  | some e => if e.le f.span then [e, f.span] else [f.span, e]

/-- Marks below the spans, from a column on. -/
def marks : (column : Nat) → List Span → List Char
  | _, [] => []
  | column, s :: rest =>
    let length := max 1 (s.stop.column - s.start.column)
    List.replicate (s.start.column - column) ' ' ++ List.replicate length '^' ++
      marks (max column s.start.column + length) rest

/-- A number, filled with blanks in front. -/
def leftPadded (width n : Nat) : String :=
  let digits := toString n
  String.ofList (List.replicate (width - digits.length) ' ') ++ digits

/-- The pattern, with marks below the lines that have a span. -/
def notated (f : Fault) (pattern : List Char) : String :=
  let all := lines pattern
  let count := all.length + (if pattern.getLast? = some '\n' then 1 else 0)
  let numberWidth := if count ≤ 1 then 0 else (toString count).length
  let indent := if numberWidth = 0 then 4 else numberWidth + 2
  String.join (all.zipIdx.map fun (line, i) =>
    let head := if numberWidth = 0 then "    " else leftPadded numberWidth (i + 1) ++ ": "
    let here := f.spans.filter fun s => s.isOnOneLine && s.start.line = i + 1
    let below := if here.isEmpty then "" else
      String.ofList (List.replicate indent ' ' ++ marks 1 here) ++ "\n"
    head ++ String.ofList line ++ "\n" ++ below)

/-- Tells the lines of spans that are longer than a line. -/
def lineNotes (f : Fault) : List String :=
  (f.spans.filter fun s => !s.isOnOneLine).map fun s =>
    s!"on line {s.start.line} (column {s.start.column}) through " ++
      s!"line {s.stop.line} (column {s.stop.column - 1})"

/-- The whole message about a pattern. -/
def message (f : Fault) (pattern : List Char) : String :=
  let divider := String.ofList (List.replicate 79 '~') ++ "\n"
  let shown :=
    if pattern.contains '\n' then
      divider ++ f.notated pattern ++ divider ++
        (if f.lineNotes.isEmpty then "" else "\n".intercalate f.lineNotes ++ "\n")
    else f.notated pattern
  "regex parse error:\n" ++ shown ++ "error: " ++ f.mistake.text

end Fault

end SspUpdate.Pattern
