/-!
# TOML values

The data of a TOML document. Of floats and dates only the fact is kept that
they are there. A table remembers how it came about, because that decides what
may still be added to it.
-/

namespace SspUpdate.Toml

/-- How a table came about: by a header of its own, as the parent of one, as
the parent of a dotted key, or as an inline value. -/
inductive TableKind where
  | header
  | implied
  | dotted
  | inline
  deriving DecidableEq, Repr

inductive Value where
  | string (text : String)
  | integer (n : Int)
  | float
  | boolean (b : Bool)
  | datetime
  | array (items : List Value)
  /-- Tables from double-bracket headers. -/
  | tables (items : List Value)
  | table (kind : TableKind) (entries : List (String × Value))
  deriving Repr

abbrev Entries := List (String × Value)

namespace Entries

def get? (es : Entries) (key : String) : Option Value :=
  (es.find? fun e => e.1 = key).map (·.2)

/-- Gives a new value to a key, in place if it is there. -/
def put (es : Entries) (key : String) (v : Value) : Entries :=
  if (es.find? fun e => e.1 = key).isSome then
    es.map fun e => if e.1 = key then (key, v) else e
  else es ++ [(key, v)]

def erase (es : Entries) (key : String) : Entries := es.filter fun e => e.1 ≠ key

/-- Applies `act` to the entries of the table at a path. Missing tables are
made on the way; of a list of tables the last one counts. A dotted path may
not enter a table that has a header, and nothing may enter an inline value. -/
def descend {α : Type} (dotted : Bool) (act : TableKind → Entries → Option (α × Entries)) :
    TableKind → Entries → List String → Option (α × Entries)
  | kind, es, [] => act kind es
  | _, es, key :: path =>
    match es.get? key with
    | none => do
      let made : TableKind := if dotted then .dotted else .implied
      let (a, sub) ← descend dotted act made [] path
      some (a, es.put key (.table made sub))
    | some (.table kind sub) =>
      if kind = .inline ∨ (dotted ∧ kind = .header) then none
      else do
        let (a, sub) ← descend dotted act kind sub path
        some (a, es.put key (.table kind sub))
    | some (.tables items) =>
      match items.getLast? with
      | some (.table kind sub) => do
        let (a, sub) ← descend dotted act kind sub path
        some (a, es.put key (.tables (items.dropLast ++ [.table kind sub])))
      | _ => none
    | some _ => none

/-- Adds a value under a path of keys, as a line `a.b = v` does. -/
def addDotted (es : Entries) (kind : TableKind) (path : List String) (v : Value) :
    Option Entries :=
  match path.getLast? with
  | none => none
  | some key =>
    let parents := path.dropLast
    let add (kind : TableKind) (es : Entries) : Option (Unit × Entries) :=
      if (kind == .dotted) == parents.isEmpty then none
      else if (es.get? key).isSome then none
      else some ((), es.put key v)
    (descend true add kind es parents).map (·.2)

end Entries

end SspUpdate.Toml
