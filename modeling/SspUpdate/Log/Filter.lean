import SspUpdate.Log
import SspUpdate.Pattern
import SspUpdate.Text.Blank
import SspUpdate.Text.Search

/-!
# Which log lines are shown

A filter is a list of directives, each letting lines of one part of the
program through up to a level. The directive with the longest name that a
line's target begins with decides. Directives are written between commas, as
`level`, `part` or `part=level`, and a pattern that a part of each line has to
fit may follow after a slash.
-/

namespace SspUpdate

/-- The most talkative level that is let through, if any is. -/
abbrev Threshold := Option Level

def Threshold.allows (t : Threshold) (l : Level) : Bool :=
  match t with
  | some most => l.rank ≤ most.rank
  | none => false

/-- A level or `off`, in letters of either case. -/
def Threshold.ofText? (text : List Char) : Option Threshold :=
  let upper := String.ofList (text.map Char.toUpper)
  if upper = "OFF" then some none
  else ([.error, .warn, .info, .debug, .trace].find? fun l : Level => l.name = upper).map some

structure Directive where
  /-- What targets begin with; none for all. -/
  name : Option (List Char)
  threshold : Threshold
  deriving DecidableEq, Repr

namespace Directive

/-- Reads one directive, or tells what makes no sense. -/
def parse (text : List Char) : Except String Directive :=
  let fault (part : List Char) : String := "invalid logging spec '" ++ String.ofList part ++ "'"
  match Text.splitAt '=' text with
  | [part] =>
    match Threshold.ofText? part with
    | some t => .ok ⟨none, t⟩
    | none => .ok ⟨some part, some .trace⟩
  | [part, level] =>
    let level := Text.trimBlanks level
    if level = [] then .ok ⟨some part, some .trace⟩
    else match Threshold.ofText? level with
      | some t => .ok ⟨some part, t⟩
      | none => .error (fault level)
  | _ => .error (fault text)

def nameLength (d : Directive) : Nat := (d.name.map List.length).getD 0

def fits (target : String) (d : Directive) : Bool :=
  match d.name with
  | none => true
  | some name => name.isPrefixOf target.toList

/-- The longer of two directives; of equal ones the later. -/
def longer (best : Option Directive) (d : Directive) : Option Directive :=
  match best with
  | none => some d
  | some b => if b.nameLength ≤ d.nameLength then some d else some b

end Directive

structure LogFilter where
  directives : List Directive := []
  /-- What a part of each line has to fit. -/
  pattern : Option Pattern := none
  /-- What made no sense when the filter was read. -/
  warnings : List String := []
  deriving DecidableEq, Repr

namespace LogFilter

/-- Adds a directive, in the place of one of the same name if there is one. -/
def add (f : LogFilter) (d : Directive) : LogFilter :=
  { f with directives :=
      if f.directives.any fun e => e.name = d.name then
        f.directives.map fun e => if e.name = d.name then d else e
      else f.directives ++ [d] }

/-- Reads one directive into a filter. -/
def addText (f : LogFilter) (text : List Char) : LogFilter :=
  match Directive.parse text with
  | .ok d => f.add d
  | .error e => { f with warnings := f.warnings ++ [e] }

def ofDirectives (text : List Char) : LogFilter :=
  let parts := (Text.splitAt ',' text).map Text.trimBlanks
  (parts.filter (· ≠ [])).foldl addText {}

/-- Without directives errors are let through. -/
def orErrors (f : LogFilter) : LogFilter :=
  if f.directives.isEmpty then { f with directives := [⟨none, some .error⟩] } else f

/-- Adds the pattern that lines have to fit. -/
def addPattern (f : LogFilter) (text : List Char) : LogFilter :=
  match Pattern.parse text with
  | .ok p => { f with pattern := some p }
  | .error r => { f with warnings := f.warnings ++ ["invalid regex filter - " ++ r.message text] }

/-- Reads a filter. -/
def ofString (text : String) : LogFilter :=
  match Text.splitAt '/' text.toList with
  | [ds] => (ofDirectives ds).orErrors
  | [ds, pattern] => ((ofDirectives ds).addPattern pattern).orErrors
  | _ =>
    orErrors { warnings := ["invalid logging spec '" ++ text ++ "' (too many '/'s)"] }

/-- Whether a line is shown. -/
def shows (f : LogFilter) (line : LogLine) : Bool :=
  let decided := (f.directives.filter (Directive.fits line.target)).foldl Directive.longer none
  let allowed := match decided with
    | some d => d.threshold.allows line.level
    | none => false
  allowed &&
    match f.pattern with
    | some p => p.occursIn line.text.toList
    | none => true

end LogFilter

end SspUpdate
