import SspUpdate.Toml.Scalar

/-!
# TOML documents

A document is a sequence of lines: a key with its value, the header of a table
or of one more table in a list, or nothing but a comment. Keys before the
first header belong to the root. Every key may be given once, and every table
may have one header.
-/

namespace SspUpdate.Toml

/-- Keys of one path and brackets inside one another stay below this. -/
def nesting : Nat := 80

def skipSpaces (cs : List Char) : List Char := cs.dropWhile isSpace

/-- The characters after a comment, if there is one here. -/
def skipComment (cs : List Char) : List Char :=
  match cs with
  | '#' :: rest => rest.dropWhile isPlain
  | _ => cs

/-- The characters after the end of the line, which must come now. -/
def lineEnd? (cs : List Char) : Option (List Char) :=
  match skipComment (skipSpaces cs) with
  | [] => some []
  | '\n' :: rest => some rest
  | '\r' :: '\n' :: rest => some rest
  | _ => none

/-- One key, bare or quoted. -/
def simpleKey? (cs : List Char) : Option (String × List Char) :=
  match cs with
  | '"' :: rest => (basicString rest).map fun (s, rest) => (String.ofList s, rest)
  | '\'' :: rest => (literalString rest).map fun (s, rest) => (String.ofList s, rest)
  | _ =>
    let key := cs.takeWhile isBareKey
    if key.isEmpty then none else some (String.ofList key, cs.drop key.length)

/-- Keys with dots between them. -/
def keyPath? : (fuel : Nat) → List Char → Option (List String × List Char)
  | 0, _ => none
  | fuel + 1, cs => do
    let (key, cs) ← simpleKey? (skipSpaces cs)
    match skipSpaces cs with
    | '.' :: rest => do
      let (path, cs) ← keyPath? fuel rest
      some (key :: path, cs)
    | rest => some ([key], rest)

/-- A path of keys that is not too long. -/
def path? (cs : List Char) : Option (List String × List Char) := do
  let (path, cs) ← keyPath? cs.length cs
  if path.length < nesting then some (path, cs) else none

/-- The characters after spaces, comments and line breaks. -/
def skipBlank : (fuel : Nat) → List Char → Option (List Char)
  | 0, cs => some cs
  | fuel + 1, cs =>
    match skipSpaces cs with
    | '#' :: rest => do
      let cs ← lineEnd? ('#' :: rest)
      skipBlank fuel cs
    | '\n' :: rest => skipBlank fuel rest
    | '\r' :: '\n' :: rest => skipBlank fuel rest
    | cs => some cs

mutual

/-- A value; `depth` brackets are open around it. -/
def value? (fuel depth : Nat) (cs : List Char) : Option (Value × List Char) :=
  match fuel with
  | 0 => none
  | fuel + 1 =>
    match cs with
    | '[' :: rest =>
      if depth + 1 < nesting then do
        let (items, cs) ← arrayItems? fuel (depth + 1) rest
        some (.array items, cs)
      else none
    | '\x7b' :: rest =>
      if depth + 1 < nesting then
        match skipSpaces rest with
        | '\x7d' :: cs => some (.table .inline [], cs)
        | _ => do
          let (entries, cs) ← inlineEntries? fuel (depth + 1) [] rest
          some (.table .inline entries, cs)
      else none
    | '"' :: _ => stringValue cs
    | '\'' :: _ => stringValue cs
    | _ => do
      let (w, cs) := word cs
      let v ← wordValue? w
      some (v, cs)

/-- The items of an array after its opening bracket or a comma. -/
def arrayItems? (fuel depth : Nat) (cs : List Char) : Option (List Value × List Char) :=
  match fuel with
  | 0 => none
  | fuel + 1 => do
    let cs ← skipBlank cs.length cs
    match cs with
    | ']' :: rest => some ([], rest)
    | _ => do
      let (v, cs) ← value? fuel depth cs
      let cs ← skipBlank cs.length cs
      match cs with
      | ',' :: rest => do
        let (vs, cs) ← arrayItems? fuel depth rest
        some (v :: vs, cs)
      | ']' :: rest => some ([v], rest)
      | _ => none

/-- The entries of an inline table after its opening brace or a comma. -/
def inlineEntries? (fuel depth : Nat) (entries : Entries) (cs : List Char) :
    Option (Entries × List Char) :=
  match fuel with
  | 0 => none
  | fuel + 1 => do
    let (path, cs) ← path? cs
    match cs with
    | '=' :: rest => do
      let (v, cs) ← value? fuel depth (skipSpaces rest)
      let entries ← entries.addDotted .inline path v
      match skipSpaces cs with
      | ',' :: rest => inlineEntries? fuel depth entries rest
      | '\x7d' :: rest => some (entries, rest)
      | _ => none
    | _ => none

end

/-- A document that has been read in part: the finished tables, and the one
that keys go to now. -/
structure Draft where
  root : Entries
  /-- Path of the table under way; empty for the root. -/
  path : List String
  /-- Whether it is one more table of a list. -/
  inList : Bool
  current : Entries

namespace Draft

def empty : Draft := ⟨[], [], false, []⟩

/-- The tables of a list that a key may hold already. -/
def listed? : Option Value → Option (List Value)
  | none => some []
  | some (.tables items) => some items
  | some _ => none

/-- Puts the table under way into its place. -/
def settle (d : Draft) : Option Entries :=
  match d.path.getLast? with
  | none => some d.current
  | some key =>
    let place (_ : TableKind) (es : Entries) : Option (Unit × Entries) :=
      if d.inList then do
        let items ← listed? (es.get? key)
        some ((), es.put key (.tables (items ++ [.table .header d.current])))
      else if (es.get? key).isSome then none
      else some ((), es.put key (.table .header d.current))
    (Entries.descend false place .header d.root d.path.dropLast).map (·.2)

/-- Starts the table with the given header. A table that is there only as a
parent is continued. -/
def startTable (d : Draft) (path : List String) : Option Draft := do
  let root ← d.settle
  let key ← path.getLast?
  let take (_ : TableKind) (es : Entries) : Option (Entries × Entries) :=
    match es.get? key with
    | none => some ([], es)
    | some (.table .implied sub) => some (sub, es.erase key)
    | some _ => none
  let (current, root) ← Entries.descend false take .header root path.dropLast
  some ⟨root, path, false, current⟩

/-- Starts one more table of the list with the given header. -/
def startListed (d : Draft) (path : List String) : Option Draft := do
  let root ← d.settle
  let key ← path.getLast?
  let check (_ : TableKind) (es : Entries) : Option (Unit × Entries) := do
    let _ ← listed? (es.get? key)
    some ((), es)
  let (_, root) ← Entries.descend false check .header root path.dropLast
  some ⟨root, path, true, []⟩

def add (d : Draft) (path : List String) (v : Value) : Option Draft := do
  let current ← d.current.addDotted .header path v
  some { d with current }

/-- Takes one line. -/
def line (d : Draft) (cs : List Char) : Option (Draft × List Char) :=
  match skipSpaces cs with
  | '[' :: '[' :: rest => do
    let (path, cs) ← path? rest
    match cs with
    | ']' :: ']' :: cs => do
      let cs ← lineEnd? cs
      let d ← d.startListed path
      some (d, cs)
    | _ => none
  | '[' :: rest => do
    let (path, cs) ← path? rest
    match cs with
    | ']' :: cs => do
      let cs ← lineEnd? cs
      let d ← d.startTable path
      some (d, cs)
    | _ => none
  | cs =>
    match lineEnd? cs with
    | some rest => some (d, rest)
    | none => do
      let (path, cs) ← path? cs
      match cs with
      | '=' :: rest => do
        let (v, cs) ← value? (2 * rest.length + 2) 0 (skipSpaces rest)
        let cs ← lineEnd? cs
        let d ← d.add path v
        some (d, cs)
      | _ => none

/-- Takes lines until the text is used up. -/
def lines : (fuel : Nat) → Draft → List Char → Option Entries
  | _, d, [] => d.settle
  | 0, _, _ => none
  | fuel + 1, d, cs => do
    let (d, cs) ← d.line cs
    lines fuel d cs

end Draft

/-- The entries of a document, if the text is one. -/
def parse? (text : String) : Option Entries :=
  let cs := match text.toList with
    | '\ufeff' :: rest => rest
    | cs => cs
  Draft.lines (cs.length + 1) .empty cs

end SspUpdate.Toml
