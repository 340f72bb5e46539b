import SspUpdate.Path

/-!
# The environment

Variables by name, and the directories of the user that they tell.
-/

namespace SspUpdate

/-- Environment variables by name. -/
abbrev Environment := List (String × String)

namespace Environment

def get? (env : Environment) (name : String) : Option String :=
  (env.find? fun e => e.1 = name).map (·.2)

/-- Whether a variable is set to some text. -/
def isSet (env : Environment) (name : String) : Bool := ((env.get? name).getD "") ≠ ""

/-- The user's own directory. -/
def home? (env : Environment) : Option String := (env.get? "HOME").filter (!·.isEmpty)

/-- A directory that a variable names by an absolute path, or else one below
the user's own. -/
def directory? (env : Environment) (named below : String) : Option String :=
  env.home?.map fun home =>
    match (env.get? named).filter Path.isAbsolute with
    | some dir => dir
    | none => Path.join home below

def configDirectory? (env : Environment) : Option String :=
  env.directory? "XDG_CONFIG_HOME" ".config"

def dataDirectory? (env : Environment) : Option String :=
  env.directory? "XDG_DATA_HOME" ".local/share"

/-- The directory of this program's configuration. -/
def ownDirectory? (env : Environment) : Option String :=
  env.configDirectory?.map fun dir => Path.join dir "sspflash"

end Environment

end SspUpdate
