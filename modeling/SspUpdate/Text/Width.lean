import SspUpdate.Text.Columns
import SspUpdate.Text.Picture

/-!
# Width of a text

A text is as wide as its characters, but some characters are joined to what
follows them and then take no columns of their own, or other ones: letters that
form a ligature, pictures that form one picture, and characters whose style is
selected. The width is summed from the end, so that each character knows what
follows it.
-/

namespace SspUpdate.Text

/-- What follows a character, as far as something can be joined to it. Where a
joiner has to stand between, `joined` tells whether it does. -/
inductive Follower where
  | plain
  | lineFeed
  | alef
  | lamed (joined : Bool)
  | ya (joined : Bool)
  | vowelAndYa
  | tifinagh (joined : Bool)
  | consonantJoiner
  | lisuTone
  | orkhonI (joined : Bool)
  | coengLetter
  | kiratE
  | kiratAi
  | skinTone
  | flagLetter
  | flag
  | picture
  | joinedPicture
  | joinedKeycap
  | joinedFlagLetter
  /-- An even number of flag letters before a joiner. -/
  | joinedFlags
  /-- An odd number of them, after the first. -/
  | joinedFlagsAndLetter
  | tagEnd
  | tagLetters (n : Nat)
  | tagDigits (n : Nat)
  deriving DecidableEq, Repr

/-- What stands after a character: the letter or picture that it may be joined
to, and the styles that are selected for it before that. -/
structure Next where
  follower : Follower := .plain
  /-- Shown as a picture. -/
  picture : Bool := false
  /-- Shown as text. -/
  text : Bool := false
  /-- As wide as the characters of East Asian scripts, of a quotation mark. -/
  wide : Bool := false
  deriving DecidableEq, Repr

namespace Follower

/-- The last letter of a ligature. -/
def endsLigature : Follower → Bool
  | alef | lamed _ | ya _ | vowelAndYa | tifinagh _ | consonantJoiner | lisuTone | orkhonI _
  | coengLetter => true
  | _ => false

/-- Joiners may stand in the ligatures of this letter. -/
def allowsJoiner : Follower → Bool
  | alef => false
  | f => f.endsLigature

/-- After a joiner. -/
def join : Follower → Follower
  | lamed _ => lamed true
  | ya _ => ya true
  | tifinagh _ => tifinagh true
  | orkhonI _ => orkhonI true
  | f => f

end Follower

namespace Next

/-- Before a character that no style is selected for. A selector stands in the
way of all but ligatures. -/
def unselect (n : Next) : Next :=
  { follower := if n.follower.endsLigature then n.follower else .plain }

/-- Before a selector of picture style, which also stands before joined pictures. -/
def selectPicture (n : Next) : Next :=
  if n.follower.endsLigature || n.follower = .joinedPicture || n.follower = .joinedKeycap then
    { n with picture := true }
  else { picture := true }

/-- Before a selector of text style. In a ligature it adds to the selectors after it. -/
def selectText (n : Next) : Next :=
  if n.follower.endsLigature then { n with text := true } else { text := true }

/-- Before a selector of wide quotation marks. -/
def selectWide (n : Next) : Next :=
  if n.follower.endsLigature then { n with wide := true } else { wide := true }

/-- Before a character without picture style; all that is joined to that style
is parted from it. -/
def unselectPicture (n : Next) : Next :=
  if n.picture then
    if n.follower.endsLigature then { n with picture := false } else {}
  else n

end Next

def isAlef (c : Char) : Bool :=
  inRanges [(0x622, 0x623), (0x625, 0x625), (0x627, 0x627), (0x671, 0x673), (0x675, 0x675),
    (0x773, 0x774), (0x870, 0x882)] c.toNat

def isLam (c : Char) : Bool :=
  inRanges [(0x644, 0x644), (0x6B5, 0x6B8), (0x76A, 0x76A), (0x8A6, 0x8A6), (0x8C7, 0x8C7)] c.toNat

/-- Khmer letters that are written below the letter before them. -/
def isCoengLetter (c : Char) : Bool :=
  inRanges [(0x1780, 0x1782), (0x1784, 0x1787), (0x1789, 0x178C), (0x178E, 0x1793),
    (0x1795, 0x1798), (0x179B, 0x179D), (0x17A0, 0x17A0), (0x17A2, 0x17A2), (0x17A7, 0x17A7),
    (0x17AB, 0x17AC), (0x17AF, 0x17AF)] c.toNat

def isTifinagh (c : Char) : Bool := ('\u2d31' ≤ c && c ≤ '\u2d65') || c = '\u2d6f'

/-- Characters without columns that part a lam from an alef all the same. -/
def partingRanges : List (Nat × Nat) := [
    (0x605, 0x605), (0x890, 0x891), (0x8E2, 0x8E2), (0x9BE, 0x9BE), (0x9D7, 0x9D7), (0xB3E, 0xB3E),
    (0xB57, 0xB57), (0xBBE, 0xBBE), (0xBD7, 0xBD7), (0xCC0, 0xCC0), (0xCC2, 0xCC2), (0xCC7, 0xCC8),
    (0xCCA, 0xCCB), (0xCD5, 0xCD6), (0xD3E, 0xD3E), (0xD4E, 0xD4E), (0xD57, 0xD57), (0xDCF, 0xDCF),
    (0xDDF, 0xDDF), (0x1160, 0x11FF), (0x1715, 0x1715), (0x1734, 0x1734), (0x180E, 0x180E),
    (0x1B35, 0x1B35), (0x1B3B, 0x1B3B), (0x1B3D, 0x1B3D), (0x1B43, 0x1B44), (0x1BAA, 0x1BAA),
    (0x1BF2, 0x1BF3), (0x200C, 0x200D), (0x2065, 0x2069), (0x302E, 0x302F), (0x3164, 0x3164),
    (0xA8FA, 0xA8FA), (0xA953, 0xA953), (0xA9C0, 0xA9C0), (0xD7B0, 0xD7C6), (0xD7CB, 0xD7FB),
    (0xFFA0, 0xFFA0), (0xFFF0, 0xFFF8), (0x111C0, 0x111C0), (0x111C2, 0x111C3), (0x11235, 0x11235),
    (0x1133E, 0x1133E), (0x1134D, 0x1134D), (0x11357, 0x11357), (0x113B8, 0x113B8),
    (0x113C2, 0x113C2), (0x113C5, 0x113C5), (0x113C7, 0x113C9), (0x113CF, 0x113CF),
    (0x113D1, 0x113D1), (0x114B0, 0x114B0), (0x114BD, 0x114BD), (0x115AF, 0x115AF),
    (0x116B6, 0x116B6), (0x11930, 0x11930), (0x1193D, 0x1193D), (0x1193F, 0x1193F),
    (0x11941, 0x11941), (0x11A3A, 0x11A3A), (0x11A84, 0x11A89), (0x11D46, 0x11D46),
    (0x11F02, 0x11F02), (0x11F41, 0x11F41), (0x16FF0, 0x16FF1), (0x1D165, 0x1D166),
    (0x1D16D, 0x1D172), (0xE0000, 0xE0000), (0xE0002, 0xE001F), (0xE0080, 0xE00FF),
    (0xE01F0, 0xE0FFF)]

/-- Marks that may stand within a ligature. -/
def isTransparent (c : Char) : Bool :=
  inRanges [(0x34F, 0x34F), (0x17B4, 0x17B5), (0x180B, 0x180D), (0x180F, 0x180F), (0x200D, 0x200D),
    (0xFE00, 0xFE0F), (0xE0100, 0xE01EF)] c.toNat

def isTagLetter (c : Char) : Bool := 0xE0061 ≤ c.toNat && c.toNat ≤ 0xE007A

def isTagDigit (c : Char) : Bool := 0xE0030 ≤ c.toNat && c.toNat ≤ 0xE0039

/-- What a character is that is joined to nothing: its columns, and what it is
to the character before it. -/
def alone (c : Char) : Int × Next :=
  let f : Follower :=
    if c = '\u05dc' then .lamed false
    else if isAlef c then .alef
    else if isCoengLetter c then .coengLetter
    else if c = '\u1a10' then .ya false
    else if isTifinagh c then .tifinagh false
    else if c = '\ua4fc' || c = '\ua4fd' then .lisuTone
    else if c.toNat = 0x10C03 then .orkhonI false
    else if c.toNat = 0x16D67 then .kiratE
    else if c.toNat = 0x16D68 then .kiratAi
    else if isFlagLetter c then .flagLetter
    else if isSkinTone c then .skinTone
    else if isPicture c then .picture
    else .plain
  (columns c, {
    follower := f
    picture := c = '\ufe0f'
    text := c = '\ufe0e'
    wide := c = '\ufe01' })

/-- The columns that a character adds where it is joined to what follows, and
what the two are to the character before; none where it is not joined. -/
def joined? (f : Follower) (c : Char) : Option (Int × Follower) :=
  match f with
  | .alef =>
    if isLam c then some (0, .plain)
    else if columns c = 0 && !inRanges partingRanges c.toNat then some (0, .alef)
    else none
  | .lamed true => if c = '\u05d0' then some (0, .plain) else none
  | .coengLetter => if c = '\u17d2' then some (-1, .plain) else none
  | .ya true => if c = '\u1a17' then some (0, .vowelAndYa) else none
  | .vowelAndYa => if c = '\u1a15' then some (0, .plain) else none
  | .tifinagh joined =>
    if c = '\u2d7f' then some (1, .consonantJoiner)
    else if joined && isTifinagh c then some (0, .plain)
    else none
  | .consonantJoiner => if isTifinagh c then some (-1, .plain) else none
  | .lisuTone => if '\ua4f8' ≤ c && c ≤ '\ua4fb' then some (0, .plain) else none
  | .orkhonI true => if c.toNat = 0x10C32 then some (0, .plain) else none
  | .kiratE =>
    if c.toNat = 0x16D63 || c.toNat = 0x16D69 then some (0, .plain)
    else if c.toNat = 0x16D67 then some (0, .kiratAi)
    else if c.toNat = 0x16D68 then some (1, .kiratE)
    else none
  | .kiratAi => if c.toNat = 0x16D63 then some (0, .plain) else none
  | .skinTone =>
    if takesSkinTone c then some (0, .picture)
    else if c = '\u200d' then some (0, .joinedPicture)
    else none
  | .flagLetter => if isFlagLetter c then some (1, .flag) else none
  | .flag =>
    if isFlagLetter c then some (1, .flag)
    else if c = '\u200d' then some (0, .joinedPicture)
    else none
  | .picture => if c = '\u200d' then some (0, .joinedPicture) else none
  | .joinedPicture =>
    if c = '\u20e3' then some (0, .joinedKeycap)
    else if isFlagLetter c then some (1, .joinedFlagLetter)
    else if isSkinTone c then some (0, .skinTone)
    else if c.toNat = 0xE007F then some (0, .tagEnd)
    else if isPicture c then some (0, .picture)
    else none
  | .joinedFlagLetter => if isFlagLetter c then some (-1, .joinedFlags) else none
  | .joinedFlags =>
    if isFlagLetter c then some (3, .joinedFlagsAndLetter)
    else if c = '\u200d' then some (0, .joinedPicture)
    else none
  | .joinedFlagsAndLetter =>
    if isFlagLetter c then some (-1, .joinedFlags)
    else if c = '\u200d' then some (0, .joinedPicture)
    else none
  | .tagEnd =>
    if isTagLetter c then some (0, .tagLetters 1)
    else if isTagDigit c then some (0, .tagDigits 1)
    else none
  | .tagLetters n =>
    if n < 6 && isTagLetter c then some (0, .tagLetters (n + 1))
    else if n < 5 && isTagDigit c then some (0, .tagDigits 1)
    else if 3 ≤ n && c.toNat = 0x1F3F4 then some (0, .picture)
    else none
  | .tagDigits n =>
    if n < 3 && isTagDigit c then some (0, .tagDigits (n + 1))
    else if n = 3 && c.toNat = 0x1F3F4 then some (0, .picture)
    else none
  | _ => none

/-- A character before letters, marks and pictures that it may be joined to. -/
def beforeJoinable (c : Char) (next : Next) : Int × Next :=
  if next.follower.allowsJoiner && c = '\u200d' then (0, { follower := next.follower.join })
  else if next.follower.allowsJoiner && isTransparent c then (0, next)
  else match joined? next.follower c with
    | some (n, f) => (n, { follower := f })
    | none => alone c

/-- A character that may be the base of a selector for text style or for a
quotation mark that is wide. -/
def beforeSelectable (c : Char) (next : Next) : Int × Next :=
  if c = '\ufe0f' then (0, next.selectPicture)
  else if c = '\ufe0e' then (0, next.selectText)
  else if c = '\ufe01' then (0, next.selectWide)
  else if next.text && takesTextStyle c then (1, {})
  else if next.wide && ['‘', '’', '“', '”'].contains c then (2, {})
  else beforeJoinable c (if next.text || next.wide then next.unselect else next)

/-- The columns that a character adds before what follows it. -/
def addColumns (c : Char) (next : Next) : Int × Next :=
  if next.picture && takesPictureStyle c then
    let joined := next.follower = .joinedPicture || next.follower = .joinedKeycap
    (if joined then 0 else 2, { follower := .picture })
  else
    let next := next.unselectPicture
    if c = '\n' then (1, { follower := .lineFeed })
    else if c = '\r' && next.follower = .lineFeed then (0, {})
    else if c.toNat ≤ 0xA0 then (1, {})
    else if next = {} then alone c
    else beforeSelectable c next

/-- The columns of a text that begins with `cs`, and what it is to a character
before it. -/
def measure : List Char → Int × Next
  | [] => (0, {})
  | c :: rest =>
    let (n, next) := measure rest
    let (added, before) := addColumns c next
    (n + added, before)

/-- The columns that a text takes. -/
def width (cs : List Char) : Nat := (measure cs).1.toNat

end SspUpdate.Text
