import SspUpdate.Bytes
import SspUpdate.Path

/-!
# Files

A tree of files and directories as far as commands use it: looking a path up
from the working directory, reading, writing, appending, and making
directories. A failure is told in the words of the system.
-/

namespace SspUpdate

inductive FileNode where
  | file (data : Bytes)
  | directory
  deriving DecidableEq, Repr

inductive FileFault where
  | notFound
  | notDirectory
  | isDirectory
  | alreadyThere
  | nameTooLong
  | invalidName
  | notText
  deriving DecidableEq, Repr

def FileFault.message : FileFault → String
  | notFound => "No such file or directory (os error 2)"
  | notDirectory => "Not a directory (os error 20)"
  | isDirectory => "Is a directory (os error 21)"
  | alreadyThere => "File exists (os error 17)"
  | nameTooLong => "File name too long (os error 36)"
  | invalidName => "file name contained an unexpected NUL byte"
  | notText => "stream did not contain valid UTF-8"

/-- The text in the bytes, if they are text. -/
def Bytes.text? (data : Bytes) : Option String := String.fromUTF8? ⟨data.toArray⟩

def Bytes.ofText (text : String) : Bytes := text.toUTF8.toList

structure Files where
  /-- Names from the root to the working directory. -/
  cwd : List String
  /-- What is at each place; the root is a directory without being listed. -/
  nodes : List (List String × FileNode)
  deriving Repr

namespace Files

def node? (f : Files) (place : List String) : Option FileNode :=
  if place = [] then some .directory
  else (f.nodes.find? fun n => n.1 = place).map (·.2)

def put (f : Files) (place : List String) (node : FileNode) : Files :=
  { f with nodes := (place, node) :: f.nodes.filter fun n => n.1 ≠ place }

/-- What has been put at a place is there. -/
theorem node?_put_self (f : Files) {place : List String} (node : FileNode) (h : place ≠ []) :
    (f.put place node).node? place = some node := by
  simp [put, node?, h]

/-- Putting something at one place leaves the others as they are. -/
theorem node?_put_of_ne (f : Files) {place p : List String} (node : FileNode) (h : p ≠ place) :
    (f.put place node).node? p = f.node? p := by
  have hp : ¬ place = p := fun e => h e.symm
  by_cases hr : p = []
  · simp [node?, hr]
  · simp only [node?, put, if_neg hr, List.find?_cons, hp, decide_false, List.find?_filter]
    congr 2
    funext n
    by_cases hn : n.1 = p <;> simp [hn, h]

/-- Goes from a place along names. Wherever a name is looked up has to be a
directory; what the last name stands for need not be there. -/
def walk (f : Files) : List String → List String → Except FileFault (List String)
  | place, [] => .ok place
  | place, name :: rest =>
    match f.node? place with
    | none => .error .notFound
    | some (.file _) => .error .notDirectory
    | some .directory =>
      if 255 < name.utf8ByteSize then .error .nameTooLong
      else if name = "." then f.walk place rest
      else if name = ".." then f.walk place.dropLast rest
      else f.walk (place ++ [name]) rest

/-- The place a path leads to. -/
def place (f : Files) (path : String) : Except FileFault (List String) :=
  if path.isEmpty then .error .notFound
  else if path.toList.any (· = '\x00') then .error .invalidName
  else if 4096 ≤ path.utf8ByteSize then .error .nameTooLong
  else f.walk (if Path.isAbsolute path then [] else f.cwd) (Path.names path)

def find (f : Files) (path : String) : Except FileFault FileNode :=
  match f.place path with
  | .error e => .error e
  | .ok place =>
    match f.node? place with
    | some node => .ok node
    | none => .error .notFound

def exists? (f : Files) (path : String) : Bool := (f.find path).toOption.isSome

def isDirectory (f : Files) (path : String) : Bool := (f.find path).toOption = some .directory

def read (f : Files) (path : String) : Except FileFault Bytes :=
  match f.find path with
  | .error e => .error e
  | .ok .directory => .error .isDirectory
  | .ok (.file data) => .ok data

def readText (f : Files) (path : String) : Except FileFault String :=
  match f.read path with
  | .error e => .error e
  | .ok data =>
    match data.text? with
    | some text => .ok text
    | none => .error .notText

/-- Changes the bytes of a file, which is made if it is not there. -/
def update (f : Files) (path : String) (change : Bytes → Bytes) : Except FileFault Files :=
  match f.place path with
  | .error e => .error e
  | .ok place =>
    match f.node? place with
    | some .directory => .error .isDirectory
    | some (.file data) => .ok (f.put place (.file (change data)))
    | none => .ok (f.put place (.file (change [])))

def write (f : Files) (path : String) (data : Bytes) : Except FileFault Files :=
  f.update path fun _ => data

def append (f : Files) (path : String) (data : Bytes) : Except FileFault Files :=
  f.update path (· ++ data)

def makeDirectory (f : Files) (path : String) : Except FileFault Files :=
  match f.place path with
  | .error e => .error e
  | .ok place =>
    match f.node? place with
    | some _ => .error .alreadyThere
    | none => .ok (f.put place .directory)

/-- Makes a directory and those it is in, as far as they are missing. -/
def makeDirectories : (depth : Nat) → Files → String → Except FileFault Files
  | 0, f, _ => .ok f
  | depth + 1, f, path =>
    if path.isEmpty then .ok f
    else
      match f.makeDirectory path with
      | .ok f => .ok f
      | .error .notFound =>
        match Path.parent? path with
        | none => .error .notFound
        | some parent =>
          match makeDirectories depth f parent with
          | .error e => .error e
          | .ok f =>
            match f.makeDirectory path with
            | .ok f => .ok f
            | .error e => if f.isDirectory path then .ok f else .error e
      | .error e => if f.isDirectory path then .ok f else .error e

/-- Makes a whole path of directories. -/
def ensureDirectory (f : Files) (path : String) : Except FileFault Files :=
  makeDirectories path.length f path

end Files

end SspUpdate
