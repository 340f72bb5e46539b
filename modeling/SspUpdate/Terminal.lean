/-!
# Questions on a terminal

A menu has one line per item, one of them marked; keys move the mark, choose
the marked item, or give up. Where the items are more than the terminal has
room for, the menu shows the page with the mark, and keys turn the pages. A
yes-or-no question has an answer that Enter stands for. The key for an
interruption breaks off any question. Other keys do nothing.
-/

namespace SspUpdate

inductive Key where
  | enter
  | escape
  | up
  | down
  | left
  | right
  | tab
  | space
  /-- Ctrl-C. -/
  | interrupt
  | char (c : Char)
  deriving DecidableEq, Repr

/-- The keys behind what a terminal sends. -/
def Key.ofInput : List Char → List Key
  | [] => []
  | '\x1b' :: '[' :: 'A' :: rest => .up :: Key.ofInput rest
  | '\x1b' :: '[' :: 'B' :: rest => .down :: Key.ofInput rest
  | '\x1b' :: '[' :: 'C' :: rest => .right :: Key.ofInput rest
  | '\x1b' :: '[' :: 'D' :: rest => .left :: Key.ofInput rest
  | '\x1b' :: rest => .escape :: Key.ofInput rest
  | '\n' :: rest => .enter :: Key.ofInput rest
  | '\t' :: rest => .tab :: Key.ofInput rest
  | ' ' :: rest => .space :: Key.ofInput rest
  | '\x03' :: rest => .interrupt :: Key.ofInput rest
  | c :: rest => .char c :: Key.ofInput rest

structure Terminal where
  /-- Keys that will be typed, the next one first. -/
  keys : List Key
  columns : Nat := 80
  rows : Nat := 24
  deriving DecidableEq, Repr

namespace Terminal

/-- Whether the terminal tells how large it is. -/
def hasSize (t : Terminal) : Bool := t.columns ≠ 0 && t.rows ≠ 0

/-- The columns to write in; 80 where the size is not known. -/
def width (t : Terminal) : Nat := if t.hasSize then t.columns else 80

/-- The rows to write in; 24 where the size is not known. -/
def height (t : Terminal) : Nat := if t.hasSize then t.rows else 24

end Terminal

/-- What comes of a question: an answer, none because the user gave up or
interrupted the program, or none because no key is left. -/
inductive Reply (α : Type) where
  | given (a : α)
  | cancelled
  | interrupted
  | waiting
  deriving DecidableEq, Repr

/-- What a key does to a question. -/
inductive Effect (α : Type) where
  | answer (a : α)
  | cancel
  | interrupt
  /-- Moves the mark of a menu. -/
  | mark (index : Nat)
  | ignore
  deriving DecidableEq, Repr

structure Menu where
  title : String
  items : List String
  /-- The items that a page has room for. -/
  capacity : Nat
  capacity_pos : 0 < capacity := by omega
  deriving DecidableEq, Repr

namespace Menu

/-- A menu on a terminal; a page leaves two rows free. -/
def on (t : Terminal) (title : String) (items : List String) : Menu :=
  { title, items, capacity := max 1 (t.height - 2) }

def count (m : Menu) : Nat := m.items.length

def pages (m : Menu) : Nat := (m.count + m.capacity - 1) / m.capacity

def hasPages (m : Menu) : Bool := 1 < m.pages

/-- The page that an item is on. -/
def page (m : Menu) (marked : Nat) : Nat := marked / m.capacity

/-- The first item of a page, where pages can be turned. -/
def turn (m : Menu) (page : Nat) : Effect Nat :=
  if m.hasPages then .mark (page * m.capacity) else .ignore

/-- The effect of a key; moving and turning pages are cyclic. -/
def effect (m : Menu) (marked : Nat) : Key → Effect Nat
  | .down | .tab | .char 'j' => .mark ((marked + 1) % m.count)
  | .up | .char 'k' => .mark ((marked + (m.count - 1)) % m.count)
  | .right | .char 'l' => m.turn ((m.page marked + 1) % m.pages)
  | .left | .char 'h' => m.turn ((m.page marked + (m.pages - 1)) % m.pages)
  | .enter | .space => .answer marked
  | .escape | .char 'q' => .cancel
  | .interrupt => .interrupt
  | .char _ => .ignore

/-- A page has a first item. -/
theorem page_mul_capacity_lt {m : Menu} {page : Nat} (h : page < m.pages) :
    page * m.capacity < m.count := by
  have hp : page + 1 ≤ (m.count + m.capacity - 1) / m.capacity := h
  rw [Nat.le_div_iff_mul_le m.capacity_pos, Nat.add_mul] at hp
  have := m.capacity_pos
  omega

theorem turn_mark_lt {m : Menu} {n index : Nat} (h : m.turn (n % m.pages) = .mark index) :
    index < m.count := by
  unfold turn at h
  split at h
  · rename_i hasPages
    cases h
    have : 1 < m.pages := of_decide_eq_true hasPages
    exact page_mul_capacity_lt (Nat.mod_lt _ (by omega))
  · simp at h

theorem turn_ne_answer (m : Menu) (page index : Nat) : m.turn page ≠ .answer index := by
  unfold turn
  split <;> simp

/-- A mark that moves stays on an item. -/
theorem effect_mark_lt {m : Menu} {marked : Nat} {key : Key} {index : Nat} (hc : 0 < m.count)
    (h : m.effect marked key = .mark index) : index < m.count := by
  unfold effect at h
  split at h
  case h_6 | h_7 | h_8 | h_9 => exact turn_mark_lt h
  case h_1 | h_2 | h_3 | h_4 | h_5 => cases h; exact Nat.mod_lt _ hc
  all_goals cases h

/-- Only the marked item is chosen. -/
theorem effect_answer {m : Menu} {marked : Nat} {key : Key} {index : Nat}
    (h : m.effect marked key = .answer index) : index = marked := by
  unfold effect at h
  split at h
  case h_6 | h_7 | h_8 | h_9 => exact absurd h (turn_ne_answer _ _ _)
  case h_10 | h_11 => cases h; rfl
  all_goals cases h

/-- Types keys until one ends the question. Gives also the keys left over, and
the marks that were shown on the way. -/
def ask (m : Menu) : (marked : Nat) → List Key → Reply Nat × List Key × List Nat
  | _, [] => (.waiting, [], [])
  | marked, key :: keys =>
    match m.effect marked key with
    | .answer index => (.given index, keys, [])
    | .cancel => (.cancelled, keys, [])
    | .interrupt => (.interrupted, keys, [])
    | .mark index =>
      let (reply, left, shown) := m.ask index keys
      (reply, left, index :: shown)
    | .ignore => m.ask marked keys

/-- The chosen item is one of the menu. -/
theorem ask_given_lt {m : Menu} {marked : Nat} {keys : List Key} {index : Nat}
    (hm : marked < m.count) (h : (m.ask marked keys).1 = .given index) : index < m.count := by
  induction keys generalizing marked with
  | nil => simp [ask] at h
  | cons key keys ih =>
    simp only [ask] at h
    split at h
    · rename_i heffect
      cases h
      exact effect_answer heffect ▸ hm
    · simp at h
    · simp at h
    · rename_i heffect
      exact ih (effect_mark_lt (Nat.zero_lt_of_lt hm) heffect) h
    · exact ih hm h

/-- The number of the page, behind the title. -/
def pageNote (m : Menu) (marked : Nat) : String :=
  if m.hasPages then s!" [Page {m.page marked + 1}/{m.pages}] " else ""

/-- The menu as it looks with one item marked. -/
def render (m : Menu) (marked : Nat) : String :=
  let shown := (m.items.zipIdx.drop (m.page marked * m.capacity)).take m.capacity
  "? " ++ m.title ++ " ›" ++ m.pageNote marked ++ "\n" ++ String.join (shown.map fun (item, i) =>
    (if i = marked then "❯ " else "  ") ++ item ++ "\n")

/-- What stays of the menu once an item has been chosen. -/
def renderAnswer (m : Menu) (index : Nat) : String :=
  "✔ " ++ m.title ++ " · " ++ m.items.getD index "" ++ "\n"

end Menu

namespace Confirm

def effect (default : Bool) : Key → Effect Bool
  | .char 'y' | .char 'Y' => .answer true
  | .char 'n' | .char 'N' => .answer false
  | .enter => .answer default
  | .escape | .char 'q' => .cancel
  | .interrupt => .interrupt
  | _ => .ignore

/-- Types keys until one ends the question, and gives the keys left over. -/
def ask (default : Bool) : List Key → Reply Bool × List Key
  | [] => (.waiting, [])
  | key :: keys =>
    match effect default key with
    | .answer b => (.given b, keys)
    | .cancel => (.cancelled, keys)
    | .interrupt => (.interrupted, keys)
    | _ => ask default keys

def word (b : Bool) : String := if b then "yes" else "no"

def render (question : String) (default : Bool) : String :=
  "? " ++ question ++ " (y/n) › " ++ word default

def renderAnswer (question : String) (b : Bool) : String :=
  "\n✔ " ++ question ++ " · " ++ word b ++ "\n"

end Confirm

end SspUpdate
