import SspUpdate.Shell.Level

/-!
# Completion for PowerShell

A switch on the words before the cursor, with a result for each candidate that
says what it does.
-/

namespace SspUpdate.Shell

open CommandLine

/-- A candidate with the text that it is listed by. -/
def powershellResult (word listed kind about : String) : String :=
  "            [CompletionResult]::new('" ++ word ++ "', '" ++ listed ++
    "', [CompletionResultType]::" ++ kind ++ ", " ++ doubled about ++ ")"

/-- The results for an argument. A blank tells a large letter from a small one. -/
def powershellArg (v : Level) (a : Arg) : List String :=
  let short := a.form.short.map fun c =>
    let word := "-" ++ c.toString
    powershellResult word (if c.isUpper then word ++ " " else word) "ParameterName" (v.aboutArg a)
  let long := longWord a
  short.toList ++ [powershellResult long long "ParameterName" (v.aboutArg a)]

/-- What is offered at a level. -/
def powershellLevel (v : Level) : List String :=
  ["        '" ++ v.path ";" ++ "' \x7b"] ++
  (v.options ++ v.flags).flatMap (powershellArg v) ++
  v.below.map (fun w => powershellResult w.word w.word "ParameterValue" w.about) ++
  ["            break",
    "        \x7d"]

def powershellScript : String :=
  lines (["",
    "using namespace System.Management.Automation",
    "using namespace System.Management.Automation.Language",
    "",
    "Register-ArgumentCompleter -Native -CommandName 'sspflash' -ScriptBlock \x7b",
    "    param($wordToComplete, $commandAst, $cursorPosition)",
    "",
    "    $commandElements = $commandAst.CommandElements",
    "    $command = @(",
    "        'sspflash'",
    "        for ($i = 1; $i -lt $commandElements.Count; $i++) \x7b",
    "            $element = $commandElements[$i]",
    "            if ($element -isnot [StringConstantExpressionAst] -or",
    "                $element.StringConstantType -ne [StringConstantType]::BareWord -or",
    "                $element.Value.StartsWith('-') -or",
    "                $element.Value -eq $wordToComplete) \x7b",
    "                break",
    "        \x7d",
    "        $element.Value",
    "    \x7d) -join ';'",
    "",
    "    $completions = @(switch ($command) \x7b"] ++
  Level.program.withBelow.flatMap powershellLevel ++
  ["    \x7d)",
    "",
    "    $completions.Where\x7b $_.CompletionText -like \"$wordToComplete*\" \x7d |",
    "        Sort-Object -Property ListItemText",
    "\x7d"])

end SspUpdate.Shell
