import SspUpdate.Pattern.Expr

/-!
# The meaning of patterns

Flags decide what the parts of a pattern mean. They are set for the rest of the
group that they stand in. There is no data on characters beyond ASCII, so a
pattern that needs some is at fault, and so is one that ends within a character.
-/

namespace SspUpdate.Pattern

structure Flags where
  ignoreCase : Bool := false
  multiLine : Bool := false
  dotAll : Bool := false
  /-- Whether classes are of all characters and not of ASCII. -/
  unicode : Bool := true
  carriageReturns : Bool := false
  deriving DecidableEq, Repr

def Flags.apply (f : Flags) (changes : FlagChanges) : Flags where
  ignoreCase := (changes.state? .ignoreCase).getD f.ignoreCase
  multiLine := (changes.state? .multiLine).getD f.multiLine
  dotAll := (changes.state? .dotAll).getD f.dotAll
  unicode := (changes.state? .unicode).getD f.unicode
  carriageReturns := (changes.state? .carriageReturns).getD f.carriageReturns

/-- The set with its letters in either case where flags say so, or all
characters but those. -/
def Flags.refine (f : Flags) (span : Span) (negated : Bool) (s : CharSet) : Except Fault CharSet :=
  if f.unicode then
    if f.ignoreCase && !s.isEmpty then fail .caseWithoutData span
    else .ok (if negated then s.compl else s)
  else
    let s := if f.ignoreCase then s.foldAscii else s
    let s := if negated then s.compl else s
    if s.isAscii then .ok s else fail .notUtf8 span

/-- A side of a set operation. -/
def Flags.refineSide (f : Flags) (span : Span) (s : CharSet) : Except Fault CharSet :=
  if !f.ignoreCase then .ok s
  else if !f.unicode then .ok s.foldAscii
  else if s.isEmpty then .ok s
  else fail .caseWithoutData span

/-- A byte that is no character. -/
def Literal.isForeign (f : Flags) (l : Literal) : Bool :=
  !f.unicode && l.asByte && 0x80 ≤ l.char.toNat

/-- A character of a class. -/
def Literal.inClass (f : Flags) (l : Literal) : Except Fault Char :=
  if l.isForeign f then fail .notUtf8 l.span
  else if f.unicode || l.char.toNat < 0x80 then .ok l.char
  else fail .unicodeOff l.span

/-- The class of a letter. -/
def letterSet (f : Flags) (span : Span) (kind : LetterClass) (negated : Bool) :
    Except Fault CharSet :=
  if f.unicode then fail .wordsWithoutData span
  else if negated then fail .notUtf8 span
  else .ok kind.set

/-- The name of a property, without what does not matter in it. -/
def propertyName (name : List Char) : String :=
  let bare := if (String.ofList (name.take 2)).toLower = "is" then name.drop 2 else name
  let kept := bare.filter fun c => c.toNat < 0x80 && c ∉ [' ', '_', '-']
  String.ofList (kept.map Char.toLower)

/-- The fault of a property. -/
def propertyMistake (f : Flags) (name : List Char) : Mistake :=
  if !f.unicode then .unicodeOff
  else if propertyName name ∈ ["cf", "sc", "lc"] then .propertyValueUnknown
  else .propertyUnknown

mutual

def ClassItem.set (f : Flags) : ClassItem → Except Fault CharSet
  | .nothing _ => .ok .empty
  | .literal l => return .single (← l.inClass f)
  | .range _ low high => return .range (← low.inClass f) (← high.inClass f)
  | .named span name negated => f.refine span negated name.set
  | .property span name => fail (propertyMistake f name) span
  | .letter span kind negated => letterSet f span kind negated
  | .bracket span negated content => do f.refine span negated (← content.set f)
  | .union _ items => ClassItem.setOfAll f items
  | .operation _ op left right => do
    let l ← left.set f
    let r ← right.set f
    let r ← f.refineSide right.span r
    let l ← f.refineSide left.span l
    match op with
    | .intersection => return l.inter r
    | .difference => return l.diff r
    | .symmetricDifference => return l.symmDiff r

def ClassItem.setOfAll (f : Flags) : List ClassItem → Except Fault CharSet
  | [] => .ok .empty
  | i :: rest => do
    let s ← i.set f
    return s.union (← ClassItem.setOfAll f rest)

end

def Literal.expr (f : Flags) (l : Literal) : Except Fault Expr :=
  if l.isForeign f then fail .notUtf8 l.span
  else if !f.ignoreCase then .ok (.text [l.char])
  else if f.unicode then fail .caseWithoutData l.span
  else .ok (.ofSet (CharSet.single l.char).foldAscii)

/-- Any character, but for the ends of lines where flags say so. -/
def dotExpr (f : Flags) (span : Span) : Except Fault Expr :=
  if !f.unicode then fail .notUtf8 span
  else if f.dotAll then .ok (.set .all)
  else if f.carriageReturns then .ok (.set (CharSet.ofRanges [('\n', '\n'), ('\r', '\r')]).compl)
  else .ok (.set (CharSet.single '\n').compl)

def Anchor.expr (f : Flags) : Anchor → Expr
  | lineStart =>
    .condition <|
      if !f.multiLine then .textStart else if f.carriageReturns then .anyLineStart else .lineStart
  | lineEnd =>
    .condition <|
      if !f.multiLine then .textEnd else if f.carriageReturns then .anyLineEnd else .lineEnd
  | textStart => .condition .textStart
  | textEnd => .condition .textEnd
  | boundary => word .boundary
  | noBoundary => word .noBoundary
  | wordStart => word .wordStart
  | wordEnd => word .wordEnd
  | wordStartHalf => word .wordStartHalf
  | wordEndHalf => word .wordEndHalf
where
  word (k : Condition) : Expr := if f.unicode then .boundaryWithoutData else .condition k

mutual

/-- The meaning of a part of a pattern, and the flags after it. -/
def Node.expr (f : Flags) : Node → Except Fault (Expr × Flags)
  | .nothing _ => .ok (.nothing, f)
  | .flags _ changes => .ok (.nothing, f.apply changes)
  | .literal l => return (← l.expr f, f)
  | .dot span => return (← dotExpr f span, f)
  | .anchor _ kind => .ok (kind.expr f, f)
  | .property span name => fail (propertyMistake f name) span
  | .letter span kind negated => return (.set (← letterSet f span kind negated), f)
  | .bracket span negated content => do
    return (.ofSet (← f.refine span negated (← content.set f)), f)
  | .times _ node least most => do
    let (e, f) ← node.expr f
    return (e.repeated least most, f)
  | .group _ captured changes node => do
    let (e, _) ← node.expr (f.apply changes)
    return (if captured then .group e else e, f)
  | .alternatives _ nodes => do
    let (es, f) ← Node.exprs f nodes
    return (.alternatives es, f)
  | .sequence _ nodes => do
    let (es, f) ← Node.exprs f nodes
    return (.sequence es, f)

/-- The meanings of parts, each with the flags after the one before it. -/
def Node.exprs (f : Flags) : List Node → Except Fault (List Expr × Flags)
  | [] => .ok ([], f)
  | n :: rest => do
    let (e, f) ← n.expr f
    let (es, f) ← Node.exprs f rest
    return (e :: es, f)

end

end SspUpdate.Pattern
