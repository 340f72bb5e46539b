import SspUpdate.Config

/-!
# Remembered devices as text

The text that remembers devices is read back as just these devices, with
nothing said about the connection. It is read line by line: each device begins
one more table, and its two numbers are put into that.
-/

namespace SspUpdate

namespace Toml

theorem isDigit_of_mem_toDigits {n : Nat} {c : Char} (h : c ∈ Nat.toDigits 10 n) :
    isDigit c = true :=
  Nat.isDigit_of_mem_toDigits (by decide) (by decide) h

/-- A decimal numeral does not begin with a zero, except that of zero. -/
theorem head?_toDigits (n : Nat) (h : n ≠ 0) : (Nat.toDigits 10 n).head? ≠ some '0' := by
  induction n using Nat.strongRecOn with
  | ind n ih =>
    by_cases hsmall : n < 10
    · have hdigit : ∀ m < 10, m ≠ 0 → Nat.digitChar m ≠ '0' := by decide
      rw [Nat.toDigits_of_lt_base hsmall]
      simpa using hdigit n hsmall h
    · obtain ⟨c, rest, hcs⟩ := List.exists_cons_of_ne_nil
        (Nat.toDigits_ne_nil (b := 10) (n := n / 10))
      have hc := ih (n / 10) (by omega) (by omega)
      rw [hcs] at hc
      rw [Nat.toDigits_of_base_le (by decide) (by omega), hcs]
      exact hc

/-- A digit is no other character. -/
theorem ne_of_isDigit {c : Char} (h : isDigit c = true) {x : Char} (hx : isDigit x = false) :
    c ≠ x := by
  rintro rfl
  rw [h] at hx
  cases hx

theorem grouped_of_digits {cs : List Char} (hne : cs ≠ []) (h : ∀ c ∈ cs, isDigit c = true) :
    grouped isDigit cs = true := by
  induction cs with
  | nil => exact absurd rfl hne
  | cons c rest ih =>
    have hc : isDigit c = true := h c List.mem_cons_self
    cases rest with
    | nil => exact hc
    | cons c' more =>
      have hmark : c' ≠ '_' := ne_of_isDigit (h c' (by simp)) rfl
      have hrest := ih (by simp) fun c hc => h c (List.mem_cons_of_mem _ hc)
      rw [grouped, hc, hrest]
      · rfl
      · exact List.cons_ne_nil c' more
      · exact fun rest heq => hmark (List.cons.inj heq).1

theorem numeral_eq_ofDigitChars {cs : List Char} (h : ∀ c ∈ cs, isDigit c = true) :
    numeral 10 cs = Nat.ofDigitChars 10 cs 0 := by
  unfold numeral Nat.ofDigitChars
  generalize 0 = start
  induction cs generalizing start with
  | nil => rfl
  | cons c rest ih =>
    have hc : '0' ≤ c ∧ c ≤ '9' := by
      simpa [isDigit] using h c List.mem_cons_self
    have hdigit : Address.hexDigit? c = some (c.toNat - '0'.toNat) := if_pos hc
    rw [List.foldl_cons, List.foldl_cons, hdigit]
    exact ih (fun c hc => h c (List.mem_cons_of_mem _ hc)) _

theorem isDecimal_toDigits (n : Nat) : isDecimal (Nat.toDigits 10 n) = true := by
  have hgrouped : grouped isDigit (Nat.toDigits 10 n) = true :=
    grouped_of_digits Nat.toDigits_ne_nil fun _ => isDigit_of_mem_toDigits
  rw [isDecimal, hgrouped]
  by_cases hn : n = 0
  · rw [hn]
    rfl
  · simp [head?_toDigits n hn]

/-- Digits have no sign. -/
theorem unsigned_of_isDigit {c : Char} (h : isDigit c = true) (rest : List Char) :
    unsigned (c :: rest) = (none, c :: rest) := by
  unfold unsigned
  split
  · next heq => exact absurd (List.cons.inj heq).1 (ne_of_isDigit h rfl)
  · next heq => exact absurd (List.cons.inj heq).1 (ne_of_isDigit h rfl)
  · rfl

theorem integer?_toDigits {n : Nat} (h : inRange n = true) :
    integer? (Nat.toDigits 10 n) = some (n : Int) := by
  by_cases hn : n = 0
  · rw [hn]
    rfl
  · obtain ⟨c, rest, hcs⟩ := List.exists_cons_of_ne_nil (Nat.toDigits_ne_nil (b := 10) (n := n))
    have hzero : c ≠ '0' := by
      have hhead := head?_toDigits n hn
      rw [hcs] at hhead
      simpa using hhead
    have hdigit : isDigit c = true := isDigit_of_mem_toDigits (hcs ▸ List.mem_cons_self)
    have hdecimal := isDecimal_toDigits n
    have hvalue : numeral 10 (Nat.toDigits 10 n) = n := by
      rw [numeral_eq_ofDigitChars fun _ => isDigit_of_mem_toDigits]
      exact Nat.ofDigitChars_toDigits (by decide) (by decide)
    rw [hcs] at hdecimal hvalue ⊢
    unfold integer?
    split
    · next heq => exact absurd (List.cons.inj heq).1 hzero
    · next heq => exact absurd (List.cons.inj heq).1 hzero
    · next heq => exact absurd (List.cons.inj heq).1 hzero
    · simp [unsigned_of_isDigit hdigit, hdecimal, hvalue, h]

theorem wordValue?_toDigits {n : Nat} (h : inRange n = true) :
    wordValue? (Nat.toDigits 10 n) = some (.integer n) := by
  obtain ⟨c, rest, hcs⟩ := List.exists_cons_of_ne_nil (Nat.toDigits_ne_nil (b := 10) (n := n))
  have hdigit : isDigit c = true := isDigit_of_mem_toDigits (hcs ▸ List.mem_cons_self)
  have hword (first : Char) (more : List Char) (hfirst : isDigit first = false) :
      Nat.toDigits 10 n ≠ first :: more := by
    rw [hcs]
    exact fun heq => ne_of_isDigit hdigit hfirst (List.cons.inj heq).1
  rw [wordValue?, if_neg (hword 't' _ rfl), if_neg (hword 'f' _ rfl), integer?_toDigits h]

/-- A numeral at the end of a line is read as its number. -/
theorem value?_toDigits {n : Nat} (h : inRange n = true) (fuel depth : Nat) (rest : List Char) :
    value? (fuel + 1) depth (Nat.toDigits 10 n ++ '\n' :: rest) =
      some (.integer n, '\n' :: rest) := by
  have hword : word (Nat.toDigits 10 n ++ '\n' :: rest) = (Nat.toDigits 10 n, '\n' :: rest) := by
    have htake : (Nat.toDigits 10 n ++ '\n' :: rest).takeWhile isWordChar =
        Nat.toDigits 10 n := by
      rw [List.takeWhile_append_of_pos]
      · simp [isWordChar, isBareKey, isDigit]
      · intro c hc
        simp [isWordChar, isBareKey, isDigit_of_mem_toDigits hc]
    simp only [word, htake, List.drop_left]
    rfl
  obtain ⟨c, more, hcs⟩ := List.exists_cons_of_ne_nil (Nat.toDigits_ne_nil (b := 10) (n := n))
  have hdigit : isDigit c = true := isDigit_of_mem_toDigits (hcs ▸ List.mem_cons_self)
  have hfirst (first : Char) (rest' : List Char) (hfirst : isDigit first = false) :
      Nat.toDigits 10 n ++ '\n' :: rest = first :: rest' → False := by
    rw [hcs]
    exact fun heq => ne_of_isDigit hdigit hfirst (List.cons.inj heq).1
  rw [value?, hword]
  · simp [wordValue?_toDigits h]
  · exact fun rest' => hfirst '[' rest' rfl
  · exact fun rest' => hfirst '\x7b' rest' rfl
  · exact fun rest' => hfirst '"' rest' rfl
  · exact fun rest' => hfirst '\'' rest' rfl

namespace Draft

theorem lines_nil (fuel : Nat) (d : Draft) : lines fuel d [] = d.settle := by
  cases fuel <;> rfl

theorem lines_of_line {fuel : Nat} {d next : Draft} {cs rest : List Char} (hcs : cs ≠ [])
    (h : d.line cs = some (next, rest)) : lines (fuel + 1) d cs = lines fuel next rest := by
  rw [lines, h]
  · rfl
  · exact hcs

/-- A line that sets one of the two keys to a number. -/
theorem line_number (root current : Entries) (path : List String) (inList : Bool) {key : String}
    (hkey : key = "vid" ∨ key = "pid") {n : Nat} (h : inRange n = true)
    (hnew : current.get? key = none) (rest : List Char) :
    line ⟨root, path, inList, current⟩
        (key.toList ++ (" = ".toList ++ (Nat.toDigits 10 n ++ '\n' :: rest))) =
      some (⟨root, path, inList, current ++ [(key, .integer n)]⟩, rest) := by
  have hline (d : Draft) (cs : List Char) : d.line (key.toList ++ (" = ".toList ++ cs)) =
      (value? (2 * (' ' :: cs).length + 2) 0 (skipSpaces cs)).bind fun found =>
        (lineEnd? found.2).bind fun rest =>
          (d.add [key] found.1).bind fun next => some (next, rest) := by
    rcases hkey with rfl | rfl <;> rfl
  obtain ⟨c, more, hcs⟩ := List.exists_cons_of_ne_nil (Nat.toDigits_ne_nil (b := 10) (n := n))
  have hdigit : isDigit c = true := isDigit_of_mem_toDigits (hcs ▸ List.mem_cons_self)
  have hskip : skipSpaces (Nat.toDigits 10 n ++ '\n' :: rest) =
      Nat.toDigits 10 n ++ '\n' :: rest := by
    have hspace : isSpace c = false := by
      simp [isSpace, ne_of_isDigit hdigit (x := ' ') rfl, ne_of_isDigit hdigit (x := '\t') rfl]
    rw [hcs, List.cons_append, skipSpaces, List.dropWhile_cons, hspace]
    rfl
  have hadd : add ⟨root, path, inList, current⟩ [key] (.integer n) =
      some ⟨root, path, inList, current ++ [(key, .integer n)]⟩ := by
    have hfind : current.find? (fun e => e.1 = key) = none := by
      simpa [Entries.get?] using hnew
    simp [add, Entries.addDotted, Entries.descend, hnew, Entries.put, hfind]
  have hend : lineEnd? ('\n' :: rest) = some rest := rfl
  rw [hline, hskip, value?_toDigits h, Option.bind_some, hend, Option.bind_some, hadd]
  rfl

end Draft

/-- The table of a device. -/
def entriesOf (device : UsbDevice) : Entries :=
  [("vid", .integer device.vid.toNat), ("pid", .integer device.pid.toNat)]

def tablesOf (devices : List UsbDevice) : List Value :=
  devices.map fun device => .table .header (entriesOf device)

/-- The document of some devices; without any of them it has no list. -/
def rootOf (devices : List UsbDevice) : Entries :=
  ("connection", .table .header []) ::
    if devices = [] then [] else [("usb_device", .tables (tablesOf devices))]

theorem listed?_rootOf (devices : List UsbDevice) :
    Draft.listed? ((rootOf devices).get? "usb_device") = some (tablesOf devices) := by
  by_cases h : devices = []
  · subst h
    rfl
  · simp [rootOf, h, Entries.get?, Draft.listed?]

theorem put_rootOf (devices : List UsbDevice) (device : UsbDevice) :
    (rootOf devices).put "usb_device" (.tables (tablesOf devices ++ tablesOf [device])) =
      rootOf (devices ++ [device]) := by
  by_cases h : devices = []
  · subst h
    rfl
  · simp [rootOf, h, Entries.put, tablesOf]

/-- The text of a device and the empty line before it. -/
def blockOf (device : UsbDevice) : List Char := '\n' :: device.render.toList

theorem toList_toString (n : UInt16) : (toString n).toList = Nat.toDigits 10 n.toNat :=
  Nat.toList_repr

theorem blockOf_eq (device : UsbDevice) : blockOf device = '\n' :: ("[[usb_device]]\n".toList ++
    ("vid".toList ++ (" = ".toList ++ (Nat.toDigits 10 device.vid.toNat ++ '\n' ::
      ("pid".toList ++ (" = ".toList ++ (Nat.toDigits 10 device.pid.toNat ++ ['\n']))))))) := by
  have hrender : device.render = "[[usb_device]]\nvid = " ++ toString device.vid ++ "\npid = " ++
      toString device.pid ++ "\n" := rfl
  rw [blockOf, hrender]
  simp only [String.toList_append, toList_toString, List.append_assoc]
  rfl

theorem inRange_toNat (n : UInt16) : inRange (n.toNat : Int) = true := by
  have hn := n.toNat_lt
  have hmin : Int64.minValue.toInt = -9223372036854775808 := rfl
  have hmax : Int64.maxValue.toInt = 9223372036854775807 := rfl
  simp only [inRange, hmin, hmax, Bool.and_eq_true, decide_eq_true_eq]
  omega

/-- Four lines of a document add one device to it. -/
theorem lines_blockOf {d : Draft} {devices : List UsbDevice} (h : d.settle = some (rootOf devices))
    (device : UsbDevice) : ∃ next : Draft, next.settle = some (rootOf (devices ++ [device])) ∧
      ∀ fuel rest, Draft.lines (fuel + 4) d (blockOf device ++ rest) =
        Draft.lines fuel next rest := by
  have hblank (rest : List Char) : d.line ('\n' :: rest) = some (d, rest) := rfl
  have hheader (rest : List Char) : d.line ("[[usb_device]]\n".toList ++ rest) =
      some (⟨rootOf devices, ["usb_device"], true, []⟩, rest) := by
    have hline : d.line ("[[usb_device]]\n".toList ++ rest) =
        (d.startListed ["usb_device"]).bind fun next => some (next, rest) := rfl
    have hstart : d.startListed ["usb_device"] =
        some ⟨rootOf devices, ["usb_device"], true, []⟩ := by
      simp [Draft.startListed, h, Entries.descend, listed?_rootOf]
    rw [hline, hstart]
    rfl
  have hvid (rest : List Char) := Draft.line_number (rootOf devices) [] ["usb_device"] true
    (.inl rfl) (inRange_toNat device.vid) rfl rest
  have hpid (rest : List Char) := Draft.line_number (rootOf devices)
    [("vid", .integer device.vid.toNat)] ["usb_device"] true (.inr rfl)
    (inRange_toNat device.pid) rfl rest
  refine ⟨⟨rootOf devices, ["usb_device"], true, entriesOf device⟩, ?_, fun fuel rest => ?_⟩
  · have hput := put_rootOf devices device
    simp only [tablesOf, List.map_cons, List.map_nil] at hput
    simp [Draft.settle, Entries.descend, listed?_rootOf, tablesOf, hput]
  · rw [blockOf_eq]
    simp only [List.cons_append, List.append_assoc, List.nil_append]
    rw [Draft.lines_of_line (by simp) (hblank _), Draft.lines_of_line (by simp) (hheader _),
      Draft.lines_of_line (by simp) (hvid _), List.nil_append,
      Draft.lines_of_line (by simp) (hpid _)]
    rfl

/-- The run: all devices are added, in order. -/
theorem lines_flatMap_blockOf {d : Draft} {devices : List UsbDevice}
    (h : d.settle = some (rootOf devices)) (more : List UsbDevice) {fuel : Nat}
    (hfuel : 4 * more.length ≤ fuel) :
    Draft.lines fuel d (more.flatMap blockOf) = some (rootOf (devices ++ more)) := by
  induction more generalizing d devices fuel with
  | nil =>
    rw [List.flatMap_nil, Draft.lines_nil, h, List.append_nil]
  | cons device more ih =>
    obtain ⟨next, hnext, hlines⟩ := lines_blockOf h device
    rw [List.length_cons] at hfuel
    obtain ⟨spare, rfl⟩ : ∃ spare, fuel = spare + 4 := ⟨fuel - 4, by omega⟩
    rw [List.flatMap_cons, hlines, ih hnext (by omega), List.append_assoc]
    rfl

/-- A numeral takes at least one character, and so do the line ends. -/
theorem length_flatMap_blockOf (devices : List UsbDevice) :
    4 * devices.length ≤ (devices.flatMap blockOf).length := by
  induction devices with
  | nil => simp
  | cons device devices ih =>
    have hblock : 4 ≤ (blockOf device).length := by
      rw [blockOf_eq]
      simp
    rw [List.flatMap_cons, List.length_append, List.length_cons]
    omega

end Toml

namespace PortConfig

open Toml

theorem toList_renderDevices {devices : List UsbDevice} (h : devices ≠ []) :
    (renderDevices devices).toList = "[connection]\n".toList ++ devices.flatMap blockOf := by
  have hempty : devices.isEmpty = false := by simpa using h
  have hblock : devices.flatMap blockOf =
      (devices.map fun device => "\n" ++ device.render).flatMap String.toList := by
    rw [List.flatMap_map]
    congr 1
    funext device
    rw [blockOf, String.toList_append]
    rfl
  rw [renderDevices, hempty, hblock, ← String.toList_join]
  exact String.toList_append

theorem ofValue?_entriesOf (device : UsbDevice) :
    UsbDevice.ofValue? (.table .header (entriesOf device)) = some device := by
  have hnumber (n : UInt16) : natural? 0xFFFF (.integer n.toNat) = some n.toNat := by
    have hn := n.toNat_lt
    simp only [natural?]
    rw [if_pos (by omega)]
    simp
  simp [UsbDevice.ofValue?, structure?, entriesOf, Entries.get?, hnumber]

theorem list?_tablesOf (devices : List UsbDevice) :
    list? UsbDevice.ofValue? (.tables (tablesOf devices)) = some devices := by
  rw [list?]
  induction devices with
  | nil => rfl
  | cons device devices ih =>
    rw [tablesOf, List.map_cons, List.mapM_cons, ofValue?_entriesOf]
    rw [tablesOf] at ih
    rw [ih]
    rfl

theorem ofEntries?_rootOf (devices : List UsbDevice) :
    ofEntries? (rootOf devices) = some { usbDevices := devices } := by
  have hconnection : (rootOf devices).withDefault? "connection" {} Connection.ofValue? =
      some {} := rfl
  have hdevices : (rootOf devices).withDefault? "usb_device" [] (list? UsbDevice.ofValue?) =
      some devices := by
    by_cases h : devices = []
    · subst h
      rfl
    · have hget : (rootOf devices).get? "usb_device" = some (.tables (tablesOf devices)) := by
        simp [rootOf, h, Entries.get?]
      rw [Entries.withDefault?, hget]
      exact list?_tablesOf devices
  rw [ofEntries?, hconnection, hdevices]
  rfl

/-- What is written for some devices is read back as these devices and an empty connection. -/
theorem parse?_renderDevices (devices : List UsbDevice) :
    parse? (renderDevices devices) = some { usbDevices := devices } := by
  by_cases h : devices = []
  · subst h
    decide +kernel
  · have hlength := length_flatMap_blockOf devices
    have hroot : Draft.settle ⟨[], ["connection"], false, []⟩ = some (rootOf []) := rfl
    have hfuel : 4 * devices.length ≤
        ("[connection]\n".toList ++ devices.flatMap blockOf).length := by
      rw [List.length_append]
      omega
    have hlines := lines_flatMap_blockOf hroot devices hfuel
    have hparse : Toml.parse? (renderDevices devices) = some (rootOf devices) := by
      rw [Toml.parse?, toList_renderDevices h]
      have hfirst (rest : List Char) : Draft.empty.line ("[connection]\n".toList ++ rest) =
          some (⟨[], ["connection"], false, []⟩, rest) := rfl
      exact (Draft.lines_of_line (by simp) (hfirst _)).trans hlines
    rw [parse?, hparse]
    exact ofEntries?_rootOf devices

end PortConfig

end SspUpdate
