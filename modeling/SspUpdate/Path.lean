import SspUpdate.Text.Search

/-!
# Paths

Operations on the text of a path. A slash separates names; slashes at the end
and names of a single dot after a slash do not count.
-/

namespace SspUpdate.Path

/-- The names in a path; a slash at the end asks for a directory, as a dot does. -/
def names (path : String) : List String :=
  let all := Text.splitAt '/' path.toList
  let named := (all.filter (· ≠ [])).map String.ofList
  if all.getLast? = some [] then named ++ ["."] else named

/-- The place that names lead to: a dot stays, two dots go up. -/
def place (names : List String) : List String :=
  names.foldl (fun place name =>
    if name = "." then place
    else if name = ".." then place.dropLast
    else place ++ [name]) []

def isAbsolute (path : String) : Bool := path.toList.head? = some '/'

/-- A path inside a directory; an absolute one stands for itself. -/
def join (dir path : String) : String :=
  if isAbsolute path || dir.isEmpty then path
  else if dir.toList.getLast? = some '/' then dir ++ path
  else dir ++ "/" ++ path

/-- Drops what does not count from the end of a reversed path. -/
def trimReversed : List Char → List Char
  | '/' :: [] => ['/']
  | '/' :: c :: rest => trimReversed (c :: rest)
  | '.' :: '/' :: rest => trimReversed ('/' :: rest)
  | cs => cs

/-- The last name of a reversed path, reversed, and what is before it. -/
def lastReversed (cs : List Char) : List Char × List Char :=
  let name := cs.takeWhile (· ≠ '/')
  (name, cs.drop name.length)

/-- The directory a path is in; the root and the empty path have none. -/
def parent? (path : String) : Option String :=
  match trimReversed path.toList.reverse with
  | [] => none
  | ['/'] => none
  | cs =>
    let (_, before) := lastReversed cs
    some (String.ofList (trimReversed before).reverse)

/-- The last name of a path, if it names a file. -/
def fileName? (path : String) : Option String :=
  let name := (lastReversed (trimReversed path.toList.reverse)).1.reverse
  if name = [] ∨ name = ['.'] ∨ name = ['.', '.'] then none else some (String.ofList name)

/-- The last name without its extension; a dot in front begins no extension. -/
def fileStem? (path : String) : Option String :=
  (fileName? path).map fun name =>
    let cs := name.toList.reverse
    let stem := (cs.dropWhile (· ≠ '.')).drop 1
    if stem = [] then name else String.ofList stem.reverse

end SspUpdate.Path
