import Mathlib.Data.List.DropRight
import SspUpdate.Proofs.Verdicts

/-!
# Texts of addresses

An address is a numeral of a byte with any blanks around it: a row of decimal
figures, or of hexadecimal ones behind `0x` or `0X`, in both cases with or
without a plus sign in front of the row. Zeros at the front count for nothing.
Reading a text gives the number of its numeral if that is one of a byte. Every
other text is refused: it stands for address 0, and this is noted once.
-/

namespace SspUpdate

namespace Text

/-- `bare` is the text without the blanks around it. -/
structure Trimmed (text bare : List Char) : Prop where
  around : ∃ front back, text = front ++ bare ++ back ∧
    (∀ c ∈ front, isBlank c = true) ∧ ∀ c ∈ back, isBlank c = true
  first : ∀ c ∈ bare.head?, isBlank c = false
  last : ∀ c ∈ bare.getLast?, isBlank c = false

theorem trimBlanks_eq (text : List Char) :
    trimBlanks text = (text.dropWhile isBlank).rdropWhile isBlank := rfl

theorem isBlank_of_mem_head?_dropWhile {cs : List Char} {c : Char}
    (h : c ∈ (cs.dropWhile isBlank).head?) : isBlank c = false := by
  have hhead := List.head?_dropWhile_not isBlank cs
  rw [Option.mem_def.mp h] at hhead
  exact hhead

/-- Where a text does not begin with a blank, there is none to take off. -/
theorem dropWhile_isBlank_append {front cs : List Char} (hfront : ∀ c ∈ front, isBlank c = true)
    (h : ∀ c ∈ cs.head?, isBlank c = false) : (front ++ cs).dropWhile isBlank = cs := by
  rw [List.dropWhile_append_of_pos hfront]
  cases cs with
  | nil => rfl
  | cons c rest => exact List.dropWhile_cons_of_neg (by simp [h c rfl])

theorem trimmed_trimBlanks (text : List Char) : Trimmed text (trimBlanks text) where
  around := by
    refine ⟨text.takeWhile isBlank, (text.dropWhile isBlank).rtakeWhile isBlank, ?_, ?_, ?_⟩
    · rw [trimBlanks_eq, List.append_assoc, List.rdropWhile_append_rtakeWhile,
        List.takeWhile_append_dropWhile]
    · exact fun c hc => List.mem_takeWhile_imp hc
    · exact fun c hc => List.mem_rtakeWhile_imp hc
  first c hc := by
    obtain ⟨back, hback⟩ := List.rdropWhile_prefix isBlank (text.dropWhile isBlank)
    have hfirst : c ∈ (text.dropWhile isBlank).head? := by
      rw [← hback, ← trimBlanks_eq, List.head?_append, Option.mem_def.mp hc]
      rfl
    exact isBlank_of_mem_head?_dropWhile hfirst
  last c hc := by
    rw [trimBlanks, List.getLast?_reverse] at hc
    exact isBlank_of_mem_head?_dropWhile hc

/-- There is one way to take the blanks off. -/
theorem trimmed_iff {text bare : List Char} : Trimmed text bare ↔ bare = trimBlanks text := by
  constructor
  · rintro ⟨⟨front, back, rfl, hfront, hback⟩, hfirst, hlast⟩
    by_cases hbare : bare = []
    · have hblank : ∀ c ∈ front ++ bare ++ back, isBlank c = true := by
        rw [hbare, List.append_nil]
        intro c hc
        exact (List.mem_append.mp hc).elim (hfront c) (hback c)
      rw [hbare, trimBlanks_eq, List.dropWhile_eq_nil_iff.mpr (hbare ▸ hblank)]
      rfl
    · have hhead : ∀ c ∈ (bare ++ back).head?, isBlank c = false := by
        rw [List.head?_append_of_ne_nil _ hbare]
        exact hfirst
      have hrest : ∀ c ∈ bare.reverse.head?, isBlank c = false := by
        rw [List.head?_reverse]
        exact hlast
      rw [trimBlanks, List.append_assoc, dropWhile_isBlank_append hfront hhead, List.reverse_append,
        dropWhile_isBlank_append (fun c hc => hback c (List.mem_reverse.mp hc)) hrest,
        List.reverse_reverse]
  · rintro rfl
    exact trimmed_trimBlanks text

end Text

namespace Address

/-- The character stands for `d` as a figure in `base`; letters may be of either case. -/
inductive Figure (base : Nat) : Char → Nat → Prop where
  | lower {d : Nat} (h : d < base) : Figure base (Nat.digitChar d) d
  | upper {d : Nat} (h : d < base) : Figure base (Nat.digitChar d).toUpper d

/-- A row of at least one figure, and its value. -/
inductive Figures (base : Nat) : List Char → Nat → Prop where
  | one {c : Char} {d : Nat} (h : Figure base c d) : Figures base [c] d
  | more {cs : List Char} {n : Nat} {c : Char} {d : Nat} (h : Figures base cs n)
      (hc : Figure base c d) : Figures base (cs ++ [c]) (base * n + d)

/-- A row of figures, with or without a plus sign in front. -/
inductive Numeral (base : Nat) : List Char → Nat → Prop where
  | unsigned {cs : List Char} {n : Nat} (h : Figures base cs n) : Numeral base cs n
  | signed {cs : List Char} {n : Nat} (h : Figures base cs n) : Numeral base ('+' :: cs) n

/-- The letter behind the zero that marks a hexadecimal numeral. -/
def IsMark (x : Char) : Prop := x = 'x' ∨ x = 'X'

/-- A way to write a number: decimal, or hexadecimal behind its mark. -/
inductive Written : List Char → Nat → Prop where
  | decimal {cs : List Char} {n : Nat} (h : Numeral 10 cs n) : Written cs n
  | hexadecimal {x : Char} {cs : List Char} {n : Nat} (hx : IsMark x) (h : Numeral 16 cs n) :
      Written ('0' :: x :: cs) n

theorem Figure.mono {base base' : Nat} (hle : base ≤ base') {c : Char} {d : Nat}
    (h : Figure base c d) : Figure base' c d := by
  cases h with
  | lower h => exact .lower (Nat.lt_of_lt_of_le h hle)
  | upper h => exact .upper (Nat.lt_of_lt_of_le h hle)

/-- What holds of both forms of every figure. -/
theorem Figure.both {base : Nat} {p : Char → Nat → Prop}
    (h : ∀ d < base, p (Nat.digitChar d) d ∧ p (Nat.digitChar d).toUpper d) {c : Char} {d : Nat}
    (hc : Figure base c d) : p c d := by
  cases hc with
  | lower hd => exact (h d hd).1
  | upper hd => exact (h d hd).2

/-- A character among successive ones, and which one it is. -/
theorem eq_of_succession (form : Nat → Char) (first : Char) (count : Nat)
    (hform : ∀ d < count, (form d).toNat = first.toNat + d) {c : Char}
    (hlow : first.toNat ≤ c.toNat) (hhigh : c.toNat < first.toNat + count) :
    c.toNat - first.toNat < count ∧ form (c.toNat - first.toNat) = c := by
  have hsmall : c.toNat - first.toNat < count := by omega
  refine ⟨hsmall, ?_⟩
  rw [← Char.toNat_inj, hform _ hsmall]
  omega

theorem figure_of_decimal {c : Char} (h : '0' ≤ c ∧ c ≤ '9') :
    Figure 10 c (c.toNat - '0'.toNat) := by
  obtain ⟨hd, hc⟩ := eq_of_succession Nat.digitChar '0' 10 (by decide) h.1 (Nat.lt_succ_of_le h.2)
  have hfigure : Figure 10 _ _ := .lower hd
  rwa [hc] at hfigure

theorem figure_of_lower {c : Char} (h : 'a' ≤ c ∧ c ≤ 'f') :
    Figure 16 c (c.toNat - 'a'.toNat + 10) := by
  obtain ⟨hd, hc⟩ := eq_of_succession (fun d => Nat.digitChar (d + 10)) 'a' 6 (by decide) h.1
    (Nat.lt_succ_of_le h.2)
  have hfigure : Figure 16 _ _ := .lower (Nat.add_lt_add_right hd 10)
  rwa [hc] at hfigure

theorem figure_of_upper {c : Char} (h : 'A' ≤ c ∧ c ≤ 'F') :
    Figure 16 c (c.toNat - 'A'.toNat + 10) := by
  obtain ⟨hd, hc⟩ := eq_of_succession (fun d => (Nat.digitChar (d + 10)).toUpper) 'A' 6 (by decide)
    h.1 (Nat.lt_succ_of_le h.2)
  have hfigure : Figure 16 _ _ := .upper (Nat.add_lt_add_right hd 10)
  rwa [hc] at hfigure

theorem decimalDigit?_eq_some_iff {c : Char} {d : Nat} :
    decimalDigit? c = some d ↔ Figure 10 c d := by
  constructor
  · intro h
    rw [decimalDigit?, Option.ite_none_right_eq_some] at h
    obtain ⟨hc, hd⟩ := h
    cases hd
    exact figure_of_decimal hc
  · exact Figure.both (p := fun c d => decimalDigit? c = some d) (by decide)

theorem hexDigit?_eq_some_iff {c : Char} {d : Nat} : hexDigit? c = some d ↔ Figure 16 c d := by
  constructor
  · intro h
    unfold hexDigit? at h
    split at h
    · next hc =>
      cases h
      exact (figure_of_decimal hc).mono (by decide)
    · split at h
      · next hc =>
        cases h
        exact figure_of_lower hc
      · rw [Option.ite_none_right_eq_some] at h
        obtain ⟨hc, hd⟩ := h
        cases hd
        exact figure_of_upper hc
  · exact Figure.both (p := fun c d => hexDigit? c = some d) (by decide)

theorem Figure.isBlank_eq_false {c : Char} {d : Nat} (h : Figure 16 c d) :
    Text.isBlank c = false :=
  h.both (p := fun c _ => Text.isBlank c = false) (by decide)

theorem Figures.ne_nil {base : Nat} {cs : List Char} {n : Nat} (h : Figures base cs n) :
    cs ≠ [] := by
  cases h <;> simp

theorem Figures.exists_figure {base : Nat} {cs : List Char} {n : Nat} (h : Figures base cs n) :
    ∀ c ∈ cs, ∃ d, Figure base c d := by
  induction h with
  | one h =>
    intro c hc
    obtain rfl := List.mem_singleton.mp hc
    exact ⟨_, h⟩
  | more _ hlast ih =>
    intro c hc
    obtain hc | hc := List.mem_append.mp hc
    · exact ih c hc
    · obtain rfl := List.mem_singleton.mp hc
      exact ⟨_, hlast⟩

section Readings

variable {base : Nat} {digit? : Char → Option Nat}

theorem digits?_append (value : Nat) (xs ys : List Char) :
    digits? digit? base value (xs ++ ys) =
      (digits? digit? base value xs).bind fun n => digits? digit? base n ys := by
  induction xs generalizing value with
  | nil => rfl
  | cons c rest ih =>
    simp only [List.cons_append, digits?]
    cases digit? c with
    | none => rfl
    | some d =>
      dsimp only
      split
      · exact ih _
      · rfl

theorem digits?_singleton {c : Char} {d : Nat} (h : digit? c = some d) (value : Nat) :
    digits? digit? base value [c] =
      if base * value + d < 256 then some (base * value + d) else none := by
  simp only [digits?, h]

variable (reads : ∀ c d, digit? c = some d ↔ Figure base c d)

include reads

/-- A row is read as its value, as long as that is one of a byte. -/
theorem Figures.read (hbase : 0 < base) {cs : List Char} {n : Nat} (h : Figures base cs n) :
    digits? digit? base 0 cs = if n < 256 then some n else none := by
  induction h with
  | one h => rw [digits?_singleton ((reads _ _).mpr h), Nat.mul_zero, Nat.zero_add]
  | @more cs n c d _ hlast ih =>
    rw [digits?_append, ih]
    split
    · exact digits?_singleton ((reads _ _).mpr hlast) n
    · next hlarge =>
      have hgrows : n ≤ base * n := Nat.le_mul_of_pos_left n hbase
      rw [if_neg (by omega)]
      rfl

/-- What is read is a row; it is read from its first figure on, but grows by its last one. -/
theorem figures_of_digits? {cs : List Char} {n : Nat} (hne : cs ≠ [])
    (h : digits? digit? base 0 cs = some n) : Figures base cs n := by
  induction cs using List.reverseRecOn generalizing n with
  | nil => exact absurd rfl hne
  | append_singleton cs c ih =>
    rw [digits?_append, Option.bind_eq_some_iff] at h
    obtain ⟨m, hm, hlast⟩ := h
    cases hc : digit? c with
    | none =>
      rw [digits?, hc] at hlast
      cases hlast
    | some d =>
      rw [digits?_singleton hc, Option.ite_none_right_eq_some] at hlast
      obtain ⟨-, hlast⟩ := hlast
      cases hlast
      have hfigure := (reads c d).mp hc
      by_cases hcs : cs = []
      · subst hcs
        cases hm
        rw [Nat.mul_zero, Nat.zero_add]
        exact .one hfigure
      · exact .more (ih hcs hm) hfigure

theorem Numeral.read (hbase : 0 < base) (hplus : digit? '+' = none) {cs : List Char} {n : Nat}
    (h : Numeral base cs n) : number? digit? base cs = if n < 256 then some n else none := by
  cases h with
  | unsigned h =>
    obtain ⟨c, rest, rfl⟩ := List.exists_cons_of_ne_nil h.ne_nil
    have hc : c ≠ '+' := by
      rintro rfl
      obtain ⟨d, hd⟩ := h.exists_figure '+' List.mem_cons_self
      rw [← reads, hplus] at hd
      cases hd
    rw [← h.read reads hbase]
    unfold number?
    split
    · next heq => exact absurd (List.cons.inj heq).1 hc
    · next heq => exact absurd (List.cons.inj heq).1 hc
    · next heq => cases heq
    · next heq => rw [heq]
  | signed h =>
    rw [← h.read reads hbase]
    obtain ⟨c, rest, rfl⟩ := List.exists_cons_of_ne_nil h.ne_nil
    rfl

theorem numeral_of_number? {cs : List Char} {n : Nat} (h : number? digit? base cs = some n) :
    Numeral base cs n := by
  unfold number? at h
  split at h
  · exact .signed (figures_of_digits? reads (List.cons_ne_nil _ _) h)
  · cases h
  · cases h
  · exact .unsigned (figures_of_digits? reads (List.cons_ne_nil _ _) h)

end Readings

theorem Numeral.exists_figure {base : Nat} {cs : List Char} {n : Nat} (h : Numeral base cs n)
    {c : Char} (hc : c ∈ cs) : c = '+' ∨ ∃ d, Figure base c d := by
  cases h with
  | unsigned h => exact .inr (h.exists_figure c hc)
  | signed h =>
    obtain rfl | hc := List.mem_cons.mp hc
    · exact .inl rfl
    · exact .inr (h.exists_figure c hc)

/-- The mark of hexadecimal numerals is no part of a numeral. -/
theorem Numeral.mark_not_mem {base : Nat} (hbase : base ≤ 16) {cs : List Char} {n : Nat}
    (h : Numeral base cs n) {x : Char} (hx : IsMark x) : x ∉ cs := by
  intro hmem
  obtain rfl | ⟨d, hd⟩ := h.exists_figure hmem
  · obtain h | h := hx <;> cases h
  · have hdigit := hexDigit?_eq_some_iff.mpr (hd.mono hbase)
    obtain rfl | rfl := hx <;> cases hdigit

theorem Written.read {cs : List Char} {n : Nat} (h : Written cs n) :
    ofChars? cs = if n < 256 then some n else none := by
  cases h with
  | decimal h =>
    rw [← h.read (fun _ _ => decimalDigit?_eq_some_iff) (by decide) rfl]
    have hmark (x : Char) (hx : IsMark x) (rest : List Char) : cs ≠ '0' :: x :: rest := by
      rintro rfl
      exact h.mark_not_mem (by decide) hx (by simp)
    unfold ofChars?
    split
    · exact absurd rfl (hmark _ (.inl rfl) _)
    · exact absurd rfl (hmark _ (.inr rfl) _)
    · rfl
  | hexadecimal hx h =>
    rw [← h.read (fun _ _ => hexDigit?_eq_some_iff) (by decide) rfl]
    obtain rfl | rfl := hx <;> rfl

theorem written_of_ofChars? {cs : List Char} {n : Nat} (h : ofChars? cs = some n) :
    Written cs n := by
  unfold ofChars? at h
  split at h
  · exact .hexadecimal (.inl rfl) (numeral_of_number? (fun _ _ => hexDigit?_eq_some_iff) h)
  · exact .hexadecimal (.inr rfl) (numeral_of_number? (fun _ _ => hexDigit?_eq_some_iff) h)
  · exact .decimal (numeral_of_number? (fun _ _ => decimalDigit?_eq_some_iff) h)

/-- A text is read as a number just if it is a way to write it and it is one of a byte. -/
theorem ofChars?_eq_some_iff {cs : List Char} {n : Nat} :
    ofChars? cs = some n ↔ n < 256 ∧ Written cs n := by
  constructor
  · intro h
    have hwritten := written_of_ofChars? h
    rw [hwritten.read, Option.ite_none_right_eq_some] at h
    exact ⟨h.1, hwritten⟩
  · rintro ⟨hbyte, hwritten⟩
    rw [hwritten.read, if_pos hbyte]

/-- Kinds of texts that stand for no address. -/
inductive Unfit : List Char → Prop where
  | empty : Unfit []
  | sign : Unfit ['+']
  | mark {x : Char} (hx : IsMark x) : Unfit ['0', x]
  | signedMark {x : Char} (hx : IsMark x) : Unfit ['0', x, '+']
  | minus {cs : List Char} (h : '-' ∈ cs) : Unfit cs
  | blank {cs : List Char} {c : Char} (h : c ∈ cs) (hc : Text.isBlank c = true) : Unfit cs
  /-- A second mark behind the first, in any place. -/
  | marked {x y : Char} {cs : List Char} (hx : IsMark x) (hy : IsMark y) (h : y ∈ cs) :
      Unfit ('0' :: x :: cs)
  /-- A number that is too large, however long it is. -/
  | large {cs : List Char} {n : Nat} (h : Written cs n) (hn : 256 ≤ n) : Unfit cs

/-- What a written number is made of. -/
theorem Written.exists_figure {cs : List Char} {n : Nat} (h : Written cs n) {c : Char}
    (hc : c ∈ cs) : (c = '+' ∨ IsMark c) ∨ ∃ d, Figure 16 c d := by
  cases h with
  | decimal h =>
    obtain hplus | ⟨d, hd⟩ := h.exists_figure hc
    · exact .inl (.inl hplus)
    · exact .inr ⟨d, hd.mono (by decide)⟩
  | hexadecimal hx h =>
    obtain rfl | hc := List.mem_cons.mp hc
    · exact .inr ⟨0, hexDigit?_eq_some_iff.mp rfl⟩
    obtain rfl | hc := List.mem_cons.mp hc
    · exact .inl (.inr hx)
    · obtain hplus | hfigure := h.exists_figure hc
      · exact .inl (.inl hplus)
      · exact .inr hfigure

theorem Written.minus_not_mem {cs : List Char} {n : Nat} (h : Written cs n) : '-' ∉ cs := by
  intro hmem
  obtain (h | h | h) | ⟨d, hd⟩ := h.exists_figure hmem
  · cases h
  · cases h
  · cases h
  · have hdigit := hexDigit?_eq_some_iff.mpr hd
    cases hdigit

theorem Written.isBlank_eq_false {cs : List Char} {n : Nat} (h : Written cs n) {c : Char}
    (hc : c ∈ cs) : Text.isBlank c = false := by
  obtain (rfl | rfl | rfl) | ⟨d, hd⟩ := h.exists_figure hc
  · decide
  · decide
  · decide
  · exact hd.isBlank_eq_false

theorem Written.mark_once {x y : Char} {cs : List Char} {n : Nat} (h : Written ('0' :: x :: cs) n)
    (hx : IsMark x) (hy : IsMark y) : y ∉ cs := by
  cases h with
  | decimal h => exact absurd (by simp) (h.mark_not_mem (by decide) hx)
  | hexadecimal _ h => exact h.mark_not_mem (by decide) hy

theorem Unfit.refused {cs : List Char} (h : Unfit cs) : ofChars? cs = none := by
  have hnone (hno : ∀ n, ¬ Written cs n) : ofChars? cs = none := by
    rw [Option.eq_none_iff_forall_ne_some]
    exact fun n hn => hno n (written_of_ofChars? hn)
  cases h with
  | empty => rfl
  | sign => rfl
  | mark hx => obtain rfl | rfl := hx <;> rfl
  | signedMark hx => obtain rfl | rfl := hx <;> rfl
  | minus h => exact hnone fun n hn => hn.minus_not_mem h
  | blank h hc => exact hnone fun n hn => by rw [hn.isBlank_eq_false h] at hc; cases hc
  | marked hx hy h => exact hnone fun n hn => hn.mark_once hx hy h
  | large h hn => rw [h.read, if_neg (Nat.not_lt.mpr hn)]

end Address

namespace AddressReading

/-- What an update notes of a text it has read. -/
def notes (reading : AddressReading) : List Note := reading.refused.toList.map .addressRefused

theorem ofString_eq {text : String} {bare : List Char} (h : Text.Trimmed text.toList bare) :
    ofString text = match Address.ofChars? bare with
      | some n => ⟨n.toUInt8, none⟩
      | none => ⟨0, some bare⟩ := by
  rw [Text.trimmed_iff.mp h]
  rfl

theorem ofString_of_ofChars? {text : String} {bare : List Char}
    (h : Text.Trimmed text.toList bare) {v : UInt8} (hv : Address.ofChars? bare = some v.toNat) :
    ofString text = ⟨v, none⟩ := by
  rw [ofString_eq h, hv]
  simp

theorem ofString_of_refused {text : String} {bare : List Char}
    (h : Text.Trimmed text.toList bare) (hnone : Address.ofChars? bare = none) :
    ofString text = ⟨0, some bare⟩ := by
  rw [ofString_eq h, hnone]

/-- The two ways in which a text is read. -/
theorem ofString_cases {text : String} {bare : List Char} (h : Text.Trimmed text.toList bare) :
    (∃ v : UInt8, Address.Written bare v.toNat ∧ ofString text = ⟨v, none⟩) ∨
      ofString text = ⟨0, some bare⟩ := by
  cases hbare : Address.ofChars? bare with
  | none => exact .inr (ofString_of_refused h hbare)
  | some n =>
    obtain ⟨hbyte, hwritten⟩ := Address.ofChars?_eq_some_iff.mp hbare
    have hn : n.toUInt8.toNat = n := Nat.mod_eq_of_lt hbyte
    refine .inl ⟨n.toUInt8, hn.symm ▸ hwritten, ?_⟩
    rw [ofString_eq h, hbare]

/-- A text is read as a byte just if it is written so without the blanks around it. -/
theorem ofString_eq_iff {text : String} {bare : List Char} (h : Text.Trimmed text.toList bare)
    (v : UInt8) : ofString text = ⟨v, none⟩ ↔ Address.Written bare v.toNat := by
  constructor
  · intro hread
    obtain ⟨w, hwritten, hw⟩ | hrefused := ofString_cases h
    · cases hread.symm.trans hw
      exact hwritten
    · cases hread.symm.trans hrefused
  · intro hwritten
    exact ofString_of_ofChars? h (Address.ofChars?_eq_some_iff.mpr ⟨v.toNat_lt, hwritten⟩)

/-- Any other text is refused. -/
theorem ofString_refused_iff {text : String} {bare : List Char}
    (h : Text.Trimmed text.toList bare) :
    ofString text = ⟨0, some bare⟩ ↔ ∀ v : UInt8, ¬ Address.Written bare v.toNat := by
  constructor
  · intro hrefused v hwritten
    cases hrefused.symm.trans ((ofString_eq_iff h v).mpr hwritten)
  · intro hno
    obtain ⟨v, hwritten, -⟩ | hrefused := ofString_cases h
    · exact absurd hwritten (hno v)
    · exact hrefused

section Updates

variable {σ : Type} [SerialHost σ] {image : Image} {timing : Timing}

/-- An update first notes what it read, then whom it is for. -/
theorem body_notes (reading : AddressReading) {run : Run σ Channel}
    (hclear : run.command.encrypted = false) :
    Ends (Update.body timing image reading) run fun _ t _ => ∃ rest : Trace, t =
      reading.notes.map .noted ++ .noted (.updating reading.value run.session.port) :: rest := by
  have hsteps : ∀ run' : Run σ Channel, run.OnlyLine run' →
      Ends (do Run.note (.updating reading.value (← get).session.port); Update.steps timing image)
        run' fun _ t _ => ∃ rest : Trace,
          t = .noted (.updating reading.value run.session.port) :: rest := by
    intro run' hrun
    rw [← hrun.name]
    refine Ends.read (run_noted fun run'' hrun' => ?_)
    have hready : run''.command.address = run''.command.address ∧
        run''.command.encrypted = false := by
      refine ⟨rfl, ?_⟩
      rw [hrun'.command, hrun.command]
      exact hclear
    exact (Update.steps_runs (Channel.conversation run''.command.address image) timing rfl
      hready).weaken fun _ t _ _ => ⟨t, rfl⟩
  unfold Update.body
  split
  · next text htext =>
    refine run_noted fun run' hrun => (hsteps run' hrun).weaken ?_
    rintro _ _ _ ⟨rest, rfl⟩
    refine ⟨rest, ?_⟩
    rw [notes, htext]
    rfl
  · next hnone =>
    refine (hsteps run (.refl run)).weaken ?_
    rintro _ _ _ ⟨rest, rfl⟩
    refine ⟨rest, ?_⟩
    rw [notes, Option.eq_none_iff_forall_ne_some.mpr hnone]
    rfl

/-- Every text has one form without the blanks around it. It is read as a byte, with nothing said,
just if that form is a way to write the byte: decimal, or hexadecimal behind its mark, with a plus
sign or without, and with any zeros in front. Every other text is refused and read as 0: so is what
is empty, has no figure, a minus sign, a blank inside or a second mark, and what is too large for a
byte. An update notes the refused text once, and nothing else, before it names the address. -/
theorem ofString_reads (text : String) : ∃ bare,
    (∀ cs, Text.Trimmed text.toList cs ↔ cs = bare) ∧
    (∀ v : UInt8, ofString text = ⟨v, none⟩ ↔ Address.Written bare v.toNat) ∧
    (ofString text = ⟨0, some bare⟩ ↔ ∀ v : UInt8, ¬ Address.Written bare v.toNat) ∧
    (Address.Unfit bare → ofString text = ⟨0, some bare⟩) ∧
    ∀ {σ : Type} [SerialHost σ] (u : Updater σ Channel) (image : Image) (port : String),
      ∃ rest : Trace, (u.update image port text).2.line.history = u.line.history ++
        ((ofString text).notes.map .noted ++
          .noted (.updating (ofString text).value port) :: rest) := by
  have htrimmed := Text.trimmed_trimBlanks text.toList
  refine ⟨Text.trimBlanks text.toList, fun cs => Text.trimmed_iff, ofString_eq_iff htrimmed,
    ofString_refused_iff htrimmed, fun hunfit => ofString_of_refused htrimmed hunfit.refused, ?_⟩
  intro σ _ u image port
  obtain ⟨t, last, ⟨rest, rfl⟩, -, hleads⟩ := update_ends u image port text
    (body_notes (ofString text) rfl)
  refine ⟨rest ++ last, ?_⟩
  rw [hleads.history, List.append_assoc, List.cons_append]
  rfl

/-- A byte with everything around it that is allowed, and a mark too many. -/
theorem ofString_reads_marked :
    ofString "\u3000 0X+00fF\n" = ⟨255, none⟩ ∧
      ofString "0x+0X1f" = ⟨0, some ['0', 'x', '+', '0', 'X', '1', 'f']⟩ := by
  constructor
  · obtain ⟨bare, hbare, hread, -⟩ := ofString_reads "\u3000 0X+00fF\n"
    obtain rfl := (hbare ['0', 'X', '+', '0', '0', 'f', 'F']).mp
      ⟨⟨['\u3000', ' '], ['\n'], rfl, by simp [Text.isBlank], by simp [Text.isBlank]⟩,
        by simp [Text.isBlank], by simp [Text.isBlank]⟩
    have hfigures : Address.Figures 16
        ([Nat.digitChar 0] ++ [Nat.digitChar 0] ++ [Nat.digitChar 15] ++
          [(Nat.digitChar 15).toUpper]) (16 * (16 * (16 * 0 + 0) + 15) + 15) :=
      .more (.more (.more (.one (.lower (by decide))) (.lower (by decide))) (.lower (by decide)))
        (.upper (by decide))
    exact (hread 255).mpr (.hexadecimal (.inr rfl) (.signed hfigures))
  · obtain ⟨bare, hbare, -, -, hrefused, -⟩ := ofString_reads "0x+0X1f"
    obtain rfl := (hbare ['0', 'x', '+', '0', 'X', '1', 'f']).mp
      ⟨⟨[], [], rfl, by simp, by simp⟩, by simp [Text.isBlank], by simp [Text.isBlank]⟩
    exact hrefused (.marked (.inl rfl) (.inr rfl) (by decide))

end Updates

end AddressReading

end SspUpdate
