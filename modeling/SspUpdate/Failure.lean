import SspUpdate.Journal

/-!
# Failures of the program

Why the program ends without success: it was called wrongly, the user backed
out, an update failed, or something else went wrong on the way. What was being
done can be added around the cause. The exit code follows from the cause.
-/

namespace SspUpdate

inductive Failure.Cause where
  | usage (text : String)
  | cancelled (text : String)
  | library (error : Error)
  | other (text : String)
  /-- The run was not brought to an end. -/
  | unfinished (cut : Cut)
  deriving DecidableEq, Repr

structure Failure where
  cause : Failure.Cause
  /-- What was being done, outermost first. -/
  contexts : List String := []
  deriving DecidableEq, Repr

namespace Failure

def usage (text : String) : Failure := ⟨.usage text, []⟩

def cancelled (text : String) : Failure := ⟨.cancelled text, []⟩

def library (error : Error) : Failure := ⟨.library error, []⟩

def other (text : String) : Failure := ⟨.other text, []⟩

def ofHalt : Halt → Failure
  | .failed e => library e
  | .unfinished cut => ⟨.unfinished cut, []⟩

/-- Adds what was being done. -/
def within (context : String) (f : Failure) : Failure :=
  { f with contexts := context :: f.contexts }

/-- The cause's message, and that of what the cause was raised from. -/
def Cause.texts : Cause → List String
  | usage text | cancelled text | other text => [text]
  | library e => e.message :: e.source?.toList
  | unfinished .patience => ["still waiting"]
  | unfinished .overflow => ["overflow"]

def message (f : Failure) : String := ": ".intercalate (f.contexts ++ f.cause.texts)

def Cause.exitCode : Cause → Nat
  | usage _ => 2
  | cancelled _ => 130
  | library e => e.outcome.code
  | other _ | unfinished .patience => 1
  | unfinished .overflow => 101

def exitCode (f : Failure) : Nat := f.cause.exitCode

end Failure

end SspUpdate
