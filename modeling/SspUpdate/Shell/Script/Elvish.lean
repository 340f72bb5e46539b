import SspUpdate.Shell.Level

/-!
# Completion for Elvish

A map from the words before the cursor to the candidates, each with what it does.
-/

namespace SspUpdate.Shell

open CommandLine

def elvishCandidate (word about : String) : String :=
  "            cand " ++ word ++ " " ++ doubled about

/-- What is offered at a level. -/
def elvishLevel (v : Level) : List String :=
  ["        &'" ++ v.path ";" ++ "'= \x7b"] ++
  (v.options ++ v.flags).flatMap (fun a =>
    (argWords a).map fun w => elvishCandidate w (v.aboutArg a)) ++
  v.below.map (fun w => elvishCandidate w.word w.about) ++
  ["        \x7d"]

def elvishScript : String :=
  lines (["",
    "use builtin;",
    "use str;",
    "",
    "set edit:completion:arg-completer[sspflash] = \x7b|@words|",
    "    fn spaces \x7b|n|",
    "        builtin:repeat $n ' ' | str:join ''",
    "    \x7d",
    "    fn cand \x7b|text desc|",
    "        edit:complex-candidate $text " ++
      "&display=$text' '(spaces (- 14 (wcswidth $text)))$desc",
    "    \x7d",
    "    var command = 'sspflash'",
    "    for word $words[1..-1] \x7b",
    "        if (str:has-prefix $word '-') \x7b",
    "            break",
    "        \x7d",
    "        set command = $command';'$word",
    "    \x7d",
    "    var completions = ["] ++
  Level.program.withBelow.flatMap elvishLevel ++
  ["    ]",
    "    $completions[$command]",
    "\x7d"])

end SspUpdate.Shell
