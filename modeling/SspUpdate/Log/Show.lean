import SspUpdate.Environment
import SspUpdate.Log
import SspUpdate.Text.Stripped
import SspUpdate.Text.Styled

/-!
# How log lines are shown

A log line starts with its level in brackets, and further lines of its text are
indented. Brackets and level are coloured if the environment asks for it, or on
a terminal that can show it. Without colours what would control a terminal is
left out.
-/

namespace SspUpdate

namespace Level

/-- The codes of the style in which a level is shown. -/
def codes : Level → List Nat
  | error => [1, 31]
  | warn => [33]
  | info => [32]
  | debug => [34]
  | trace => [36]

/-- The name, filled with blanks to the longest one. -/
def padded (l : Level) : String :=
  l.name ++ String.ofList (List.replicate (5 - l.name.length) ' ')

end Level

namespace LogLine

/-- Whether log lines are coloured. -/
def colored (env : Environment) (onTerminal : Bool) : Bool :=
  match env.get? "RUST_LOG_STYLE" with
  | some "always" => true
  | some "never" => false
  | _ =>
    if env.isSet "NO_COLOR" then false
    else if env.isSet "CLICOLOR_FORCE" then true
    else if env.get? "CLICOLOR" = some "0" then false
    else onTerminal &&
      (((env.get? "TERM").any (· ≠ "dumb")) || (env.get? "CLICOLOR").isSome ||
        (env.get? "CI").isSome)

/-- Goes on below the text, behind the bracket of the first line. -/
def indentLines : List Char → List Char
  | [] => []
  | '\n' :: rest => '\n' :: ' ' :: ' ' :: ' ' :: ' ' :: indentLines rest
  | c :: rest => c :: indentLines rest

/-- A text between the codes of a style, if there are colours. -/
def mark (colors : Bool) (codes : List Nat) (text : String) : String :=
  if colors then
    String.join (codes.map Text.Style.sequence) ++ text ++ Text.Style.sequence 0
  else text

/-- The line with a stamp in front and its target if it is to be detailed. -/
def written (colors : Bool) (stamp : Option String) (l : LogLine) : String :=
  let level := mark colors l.level.codes l.level.padded
  let head := match stamp with
    | some stamp => stamp ++ " " ++ level ++ " " ++ l.target
    | none => level
  mark colors [90] "[" ++ head ++ mark colors [90] "]" ++ " " ++
    String.ofList (indentLines l.text.toList) ++ "\n"

/-- The line as it is shown. -/
def render (colors : Bool) (stamp : Option String) (l : LogLine) : String :=
  if colors then l.written true stamp else Text.stripped (l.written false stamp)

end LogLine

end SspUpdate
