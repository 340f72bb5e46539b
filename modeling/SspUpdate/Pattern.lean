import SspUpdate.Pattern.Meaning
import SspUpdate.Pattern.Reader
import SspUpdate.Pattern.Room

/-!
# Patterns

A pattern is a regular expression that a part of a text may fit.
-/

namespace SspUpdate

structure Pattern where
  expr : Pattern.Expr
  deriving DecidableEq, Repr

namespace Pattern

/-- Why a text is no pattern. -/
inductive Refusal where
  | fault (f : Fault)
  | tooLarge
  /-- A boundary is of words for which there is no data. -/
  | boundaryWithoutData
  deriving DecidableEq, Repr

def Refusal.message (text : List Char) : Refusal → String
  | fault f => f.message text
  | tooLarge => s!"Compiled regex exceeds size limit of {Expr.roomLimit} bytes."
  | boundaryWithoutData => "error building NFA"

/-- Reads a pattern. -/
def parse (text : List Char) : Except Refusal Pattern :=
  match Node.parse text >>= Node.expr {} with
  | .error f => .error (.fault f)
  | .ok (e, _) =>
    if !e.fits .forward then .error .tooLarge
    else if e.lacksData then .error .boundaryWithoutData
    else if !e.fits .backward then .error .tooLarge
    else .ok ⟨e⟩

/-- Whether a part of a text fits. -/
def occursIn (p : Pattern) (text : List Char) : Bool := p.expr.occursIn text

end Pattern

end SspUpdate
