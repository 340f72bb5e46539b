import Mathlib.Data.List.Induction
import SspUpdate.Files

/-!
# What a tree of files holds

A path is read by going along its names from directory to directory. Writing a
file changes what is read at its own place and at no other. Making directories
changes what is read nowhere, as nothing is in a new directory; only a path
that goes up from it again can come through it to a file that is elsewhere.
-/

namespace SspUpdate

namespace Bytes

theorem toList_eq (bytes : ByteArray) : bytes.toList = bytes.data.toList := by
  have hloop (i : Nat) (before : List UInt8) : ByteArray.toList.loop bytes i before =
      before.reverse ++ bytes.data.toList.drop i := by
    fun_induction ByteArray.toList.loop bytes i before with
    | case1 i before h ih =>
      have hi : i < bytes.data.toList.length := h
      have hget : bytes.get! i = bytes.data.toList[i] := getElem!_pos bytes.data i hi
      rw [ih, List.drop_eq_getElem_cons hi, hget, List.reverse_cons, List.append_assoc]
      rfl
    | case2 i before h =>
      have hi : bytes.data.toList.length ≤ i := Nat.not_lt.mp h
      rw [List.drop_eq_nil_of_le hi, List.append_nil]
  exact hloop 0 []

/-- The bytes of a text are that text. -/
theorem text?_ofText (text : String) : (ofText text).text? = some text := by
  have hbytes : (⟨text.toUTF8.toList.toArray⟩ : ByteArray) = text.toByteArray := by
    rw [toList_eq]
    rfl
  rw [Bytes.text?, ofText, hbytes, String.fromUTF8?, dif_pos text.isValidUTF8]
  rfl

end Bytes

namespace Text

theorem splitAt_ne_nil (separator : Char) (cs : List Char) : splitAt separator cs ≠ [] := by
  cases cs with
  | nil => simp [splitAt]
  | cons c rest =>
    rw [splitAt]
    split
    · simp
    · split <;> simp

theorem splitAt_of_not_mem {separator : Char} {cs : List Char} (h : separator ∉ cs) :
    splitAt separator cs = [cs] := by
  induction cs with
  | nil => rfl
  | cons c rest ih =>
    have hc : c ≠ separator := fun hc => h (hc ▸ List.mem_cons_self)
    have hrest : separator ∉ rest := fun hrest => h (List.mem_cons_of_mem c hrest)
    rw [splitAt, if_neg hc, ih hrest]

theorem splitAt_append (separator : Char) (before after : List Char) :
    splitAt separator (before ++ separator :: after) =
      splitAt separator before ++ splitAt separator after := by
  induction before with
  | nil => simp [splitAt]
  | cons c rest ih =>
    obtain ⟨part, parts, hparts⟩ := List.exists_cons_of_ne_nil (splitAt_ne_nil separator rest)
    by_cases hc : c = separator
    · simp [splitAt, hc, ih]
    · simp [splitAt, hc, ih, hparts]

end Text

namespace Path

/-- A name that something can have in a directory. -/
structure IsName (name : String) : Prop where
  nonempty : name.toList ≠ []
  noSlash : '/' ∉ name.toList
  notHere : name ≠ "."
  notUp : name ≠ ".."

/-- The last name of a path. -/
def EndsIn (path name : String) : Prop := (names path).getLast? = some name

/-- The names between slashes. -/
def parts (cs : List Char) : List String :=
  ((Text.splitAt '/' cs).filter (· ≠ [])).map String.ofList

theorem names_eq (path : String) : names path = parts path.toList ++
    if (Text.splitAt '/' path.toList).getLast? = some [] then ["."] else [] := by
  simp only [names]
  split
  · rfl
  · exact (List.append_nil _).symm

theorem parts_append (before after : List Char) :
    parts (before ++ '/' :: after) = parts before ++ parts after := by
  simp [parts, Text.splitAt_append]

theorem IsName.splitAt_eq {name : String} (h : IsName name) :
    Text.splitAt '/' name.toList = [name.toList] := Text.splitAt_of_not_mem h.noSlash

theorem IsName.parts_eq {name : String} (h : IsName name) : parts name.toList = [name] := by
  simp [parts, h.splitAt_eq, h.nonempty]

theorem names_ne_nil (path : String) : names path ≠ [] := by
  have hparts := Text.splitAt_ne_nil '/' path.toList
  rw [names_eq]
  split
  · simp
  · next hlast =>
    have hmem := List.getLast_mem hparts
    rw [List.getLast?_eq_some_getLast hparts] at hlast
    have hne : (Text.splitAt '/' path.toList).getLast hparts ≠ [] := fun h => hlast (by rw [h])
    intro hnil
    rw [List.append_nil, parts, List.map_eq_nil_iff, List.filter_eq_nil_iff] at hnil
    exact hnil _ hmem (by simpa using hne)

/-- A name behind a slash comes behind the names before it. -/
theorem IsName.names_behind {path name : String} {before : List Char} (h : IsName name)
    (hpath : path.toList = before ++ '/' :: name.toList) :
    names path = parts before ++ [name] := by
  have hlast : (Text.splitAt '/' path.toList).getLast? ≠ some [] := by
    rw [hpath, Text.splitAt_append, h.splitAt_eq, List.getLast?_concat]
    simpa using h.nonempty
  rw [names_eq, if_neg hlast, List.append_nil, hpath, parts_append, h.parts_eq]

theorem IsName.names_self {name : String} (h : IsName name) : names name = [name] := by
  have hlast : (Text.splitAt '/' name.toList).getLast? ≠ some [] := by
    rw [h.splitAt_eq]
    simpa using h.nonempty
  rw [names_eq, if_neg hlast, List.append_nil, h.parts_eq]

theorem IsName.isAbsolute_eq {name : String} (h : IsName name) : isAbsolute name = false := by
  obtain ⟨c, rest, hc⟩ := List.exists_cons_of_ne_nil h.nonempty
  have hslash : c ≠ '/' := fun hc' => h.noSlash (by rw [hc, hc']; exact List.mem_cons_self)
  simp [isAbsolute, hc, hslash]

/-- What is joined to a directory comes last, behind names of the directory. -/
theorem IsName.names_join {name : String} (h : IsName name) (dir : String) :
    ∃ above, names (join dir name) = above ++ [name] ∧ above <+: names dir := by
  rw [join, h.isAbsolute_eq, Bool.false_or]
  split
  · exact ⟨[], h.names_self, List.nil_prefix⟩
  · split
    · next hslash =>
      obtain ⟨before, hbefore⟩ := List.getLast?_eq_some_iff.mp hslash
      refine ⟨parts before, h.names_behind (by simp [hbefore]), ?_⟩
      rw [names_eq, hbefore, parts_append, List.append_assoc]
      exact List.prefix_append _ _
    · refine ⟨parts dir.toList, h.names_behind (by simp), ?_⟩
      rw [names_eq]
      exact List.prefix_append _ _

theorem IsName.isAbsolute_join {name : String} (h : IsName name) (dir : String) :
    isAbsolute (join dir name) = isAbsolute dir := by
  rw [join, h.isAbsolute_eq, Bool.false_or]
  split
  · next hempty =>
    rw [String.isEmpty_iff.mp hempty, h.isAbsolute_eq]
    rfl
  · next hempty =>
    obtain ⟨c, rest, hc⟩ := List.exists_cons_of_ne_nil fun hnil =>
      hempty (String.isEmpty_iff.mpr (String.toList_eq_nil_iff.mp hnil))
    split <;> simp [isAbsolute, hc]

theorem IsName.endsIn_self {name : String} (h : IsName name) : EndsIn name name := by
  rw [EndsIn, h.names_self]
  rfl

theorem IsName.endsIn_join {name : String} (h : IsName name) (dir : String) :
    EndsIn (join dir name) name := by
  obtain ⟨above, hnames, -⟩ := h.names_join dir
  rw [EndsIn, hnames, List.getLast?_concat]

end Path

namespace Files

/-- Whether a path can lead to a place at all. -/
def Sound (path : String) : Prop :=
  path ≠ "" ∧ '\x00' ∉ path.toList ∧ path.utf8ByteSize < 4096

instance (path : String) : Decidable (Sound path) := inferInstanceAs (Decidable (_ ∧ _ ∧ _))

/-- Where the names of a path are looked up from. -/
def start (f : Files) (path : String) : List String := if Path.isAbsolute path then [] else f.cwd

/-- The bytes of the file at a place. -/
def held? (f : Files) (place : List String) : Option Bytes :=
  match f.node? place with
  | some (.file data) => some data
  | _ => none

/-- The bytes of the file at a path, if there is one. -/
def data? (f : Files) (path : String) : Option Bytes := (f.read path).toOption

/-- The text of the file at a path, if there is one. -/
def text? (f : Files) (path : String) : Option String := (f.readText path).toOption

theorem place_toOption (f : Files) (path : String) : (f.place path).toOption =
    if Sound path then (f.walk (f.start path) (Path.names path)).toOption else none := by
  unfold Files.place Sound start
  by_cases hempty : path = ""
  · simp [hempty, Except.toOption]
  · by_cases hnul : '\x00' ∈ path.toList
    · simp [hempty, hnul, Except.toOption]
    · by_cases hlong : 4096 ≤ path.utf8ByteSize
      · simp [hempty, hnul, hlong, Nat.not_lt.mpr hlong, Except.toOption]
      · simp [hempty, hnul, hlong]

theorem data?_eq (f : Files) (path : String) :
    f.data? path = (f.place path).toOption.bind f.held? := by
  unfold data? read find
  cases f.place path with
  | error e => rfl
  | ok place =>
    simp only [Except.toOption, Option.bind_some, held?]
    cases f.node? place with
    | none => rfl
    | some node => cases node <;> rfl

theorem text?_eq (f : Files) (path : String) : f.text? path = (f.data? path).bind Bytes.text? := by
  unfold text? readText data?
  cases f.read path with
  | error e => rfl
  | ok data =>
    simp only [Except.toOption, Option.bind_some]
    cases data.text? <;> rfl

/-- Wherever a walk goes on from is a directory. -/
theorem walk_cons (f : Files) (place : List String) (name : String) (rest : List String) :
    (f.walk place (name :: rest)).toOption =
      if f.node? place = some .directory ∧ name.utf8ByteSize ≤ 255 then
        (f.walk (if name = "." then place else if name = ".." then place.dropLast
          else place ++ [name]) rest).toOption
      else none := by
  rw [walk]
  cases hnode : f.node? place with
  | none => simp [Except.toOption]
  | some node =>
    cases node with
    | file data => simp [Except.toOption]
    | directory =>
      by_cases hlong : 255 < name.utf8ByteSize
      · simp [hlong, Nat.not_le.mpr hlong, Except.toOption]
      · simp only [if_neg hlong, Nat.not_lt.mp hlong, and_self, if_true]
        split
        · rfl
        · split <;> rfl

/-- Names go up only from directories that are there. -/
def Climbs (f : Files) (start names : List String) : Prop :=
  ∀ above below, names = above ++ ".." :: below →
    (f.walk start above).toOption.bind f.node? = some .directory

theorem climbs_of_up_not_mem {f : Files} {names : List String} (h : ".." ∉ names)
    (start : List String) : f.Climbs start names := by
  rintro above below rfl
  exact absurd (List.mem_append_right above List.mem_cons_self) h

theorem walk_absent {f : Files} {place : List String} (hplace : f.node? place = none)
    (names : List String) {α : Type} (what? : List String → Option α) (hwhat : what? place = none) :
    (f.walk place names).toOption.bind what? = none := by
  cases names with
  | nil => simpa [walk, Except.toOption] using hwhat
  | cons name rest => simp [walk_cons, hplace]

/-- From where nothing is, names can not go up. -/
theorem Climbs.up_not_mem {f : Files} {start names : List String} (h : f.Climbs start names)
    (hstart : f.node? start = none) : ".." ∉ names := by
  intro hup
  obtain ⟨above, below, hnames⟩ := List.append_of_mem hup
  have hthere := h above below hnames
  rw [walk_absent hstart above _ hstart] at hthere
  cases hthere

theorem Climbs.rest {f : Files} {start rest : List String} {name : String}
    (h : f.Climbs start (name :: rest))
    (hstart : f.node? start = some .directory ∧ name.utf8ByteSize ≤ 255) :
    f.Climbs (if name = "." then start else if name = ".." then start.dropLast
      else start ++ [name]) rest := by
  rintro above below rfl
  have hthere := h (name :: above) below rfl
  rwa [walk_cons, if_pos hstart] at hthere

/-- What a walk comes to, it still comes to when something is put where no directory is. -/
theorem walk_put_of_ok {f : Files} {place start names there : List String}
    (hplace : f.node? place ≠ some .directory) (node : FileNode)
    (h : (f.walk start names).toOption = some there) :
    ((f.put place node).walk start names).toOption = some there := by
  induction names generalizing start with
  | nil => exact h
  | cons name rest ih =>
    rw [walk_cons] at h ⊢
    split at h
    · next hhere =>
      have hstart : start ≠ place := fun heq => hplace (heq ▸ hhere.1)
      rw [node?_put_of_ne f node hstart, if_pos hhere]
      exact ih h
    · cases h

/-- What leads to a directory still does when something is put where no directory is. -/
theorem walk_put_of_directory {f : Files} {place start names : List String}
    (hplace : f.node? place ≠ some .directory) (node : FileNode)
    (h : (f.walk start names).toOption.bind f.node? = some .directory) :
    ((f.put place node).walk start names).toOption.bind (f.put place node).node? =
      some .directory := by
  obtain ⟨there, hthere, hnode⟩ := Option.bind_eq_some_iff.mp h
  have hne : there ≠ place := fun heq => hplace (heq ▸ hnode)
  rw [walk_put_of_ok hplace node hthere, Option.bind_some, node?_put_of_ne f node hne, hnode]

theorem Climbs.put {f : Files} {place start names : List String} (h : f.Climbs start names)
    (hplace : f.node? place ≠ some .directory) (node : FileNode) :
    (f.put place node).Climbs start names :=
  fun above below hnames => walk_put_of_directory hplace node (h above below hnames)

/-- A single name does not go up. -/
theorem climbs_name {name : String} (h : Path.IsName name) (f : Files) (start : List String) :
    f.Climbs start (Path.names name) := by
  refine climbs_of_up_not_mem ?_ start
  rw [h.names_self, List.mem_singleton]
  exact h.notUp.symm

/-- A path with a name behind it goes up where it did before. -/
theorem Climbs.join {f : Files} {dir name : String}
    (h : f.Climbs (f.start dir) (Path.names dir)) (hname : Path.IsName name) :
    f.Climbs (f.start (Path.join dir name)) (Path.names (Path.join dir name)) := by
  obtain ⟨dirs, hnames, more, hmore⟩ := hname.names_join dir
  have hstart : f.start (Path.join dir name) = f.start dir := by
    rw [start, start, hname.isAbsolute_join]
  rw [hstart, hnames]
  intro above below hup
  rcases List.eq_nil_or_concat below with rfl | ⟨below', last, rfl⟩
  · have hlast := (List.append_inj' hup rfl).2
    exact absurd (List.singleton_inj.mp hlast) hname.notUp
  · rw [List.concat_eq_append, ← List.cons_append, ← List.append_assoc] at hup
    refine h above (below' ++ more) ?_
    rw [← hmore, (List.append_inj' hup rfl).1, List.append_assoc, List.cons_append]

theorem write_eq_ok {f g : Files} {path : String} {data : Bytes} (h : f.write path data = .ok g) :
    ∃ place, f.place path = .ok place ∧ f.node? place ≠ some .directory ∧
      g = f.put place (.file data) := by
  unfold write update at h
  split at h
  · cases h
  · next place hplace =>
    refine ⟨place, hplace, ?_⟩
    split at h
    · cases h
    · next data' hnode =>
      cases h
      exact ⟨by simp [hnode], rfl⟩
    · next hnode =>
      cases h
      exact ⟨by simp [hnode], rfl⟩

theorem ne_nil_of_node? {f : Files} {place : List String} (h : f.node? place ≠ some .directory) :
    place ≠ [] := by
  rintro rfl
  exact h rfl

/-- A file that is written lets no walk through, as before. -/
theorem walk_put_file {f : Files} {place : List String} (h : f.node? place ≠ some .directory)
    (data : Bytes) (start names : List String) :
    ((f.put place (.file data)).walk start names).toOption = (f.walk start names).toOption := by
  induction names generalizing start with
  | nil => rfl
  | cons name rest ih =>
    rw [walk_cons, walk_cons]
    by_cases hstart : start = place
    · rw [hstart, node?_put_self f _ (ne_nil_of_node? h)]
      simp [h]
    · rw [node?_put_of_ne f _ hstart, ih]

theorem place_put_file {f : Files} {place : List String} (h : f.node? place ≠ some .directory)
    (data : Bytes) (path : String) :
    ((f.put place (.file data)).place path).toOption = (f.place path).toOption := by
  rw [place_toOption, place_toOption, walk_put_file h]
  rfl

/-- What has been written is read. -/
theorem text?_write_self {f g : Files} {path : String} {data : Bytes}
    (h : f.write path data = .ok g) : g.text? path = data.text? := by
  obtain ⟨place, hplace, hnode, rfl⟩ := write_eq_ok h
  rw [text?_eq, data?_eq, place_put_file hnode, hplace]
  simp [Except.toOption, held?, node?_put_self f _ (ne_nil_of_node? hnode)]

/-- Writing changes nothing of what is read elsewhere. -/
theorem text?_write_of_ne {f g : Files} {path other : String} {data : Bytes}
    (h : f.write path data = .ok g)
    (hother : ∀ place, f.place path = .ok place → f.place other ≠ .ok place) :
    g.text? other = f.text? other := by
  obtain ⟨place, hplace, hnode, rfl⟩ := write_eq_ok h
  rw [text?_eq, text?_eq, data?_eq, data?_eq, place_put_file hnode]
  cases hto : f.place other with
  | error e => rfl
  | ok there =>
    have hne : there ≠ place := fun heq => hother place hplace (heq ▸ hto)
    simp [Except.toOption, held?, node?_put_of_ne f _ hne]

/-- The place a walk comes to has the last name walked. -/
theorem getLast?_walk {f : Files} {start above place : List String} {name : String}
    (hname : Path.IsName name) (h : (f.walk start (above ++ [name])).toOption = some place) :
    place.getLast? = some name := by
  induction above generalizing start with
  | nil =>
    rw [List.nil_append, walk_cons, if_neg hname.notHere, if_neg hname.notUp] at h
    split at h
    · cases h
      exact List.getLast?_concat
    · cases h
  | cons first rest ih =>
    rw [List.cons_append, walk_cons] at h
    split at h
    · exact ih h
    · cases h

theorem getLast?_place {f : Files} {path name : String} {place : List String}
    (hname : Path.IsName name) (hpath : Path.EndsIn path name) (h : f.place path = .ok place) :
    place.getLast? = some name := by
  obtain ⟨above, habove⟩ := List.getLast?_eq_some_iff.mp hpath
  have hplace := place_toOption f path
  rw [h, habove] at hplace
  split at hplace
  · exact getLast?_walk hname hplace.symm
  · cases hplace

/-- Writing changes nothing of what is read under another name. -/
theorem text?_write_of_endsIn {f g : Files} {path other name name' : String} {data : Bytes}
    (h : f.write path data = .ok g) (hname : Path.IsName name) (hname' : Path.IsName name')
    (hpath : Path.EndsIn path name) (hother : Path.EndsIn other name') (hne : name ≠ name') :
    g.text? other = f.text? other := by
  refine text?_write_of_ne h fun place hplace hplace' => hne ?_
  exact Option.some.inj
    ((getLast?_place hname hpath hplace).symm.trans (getLast?_place hname' hother hplace'))

/-- Whatever there is, is in a directory. -/
def Closed (f : Files) : Prop :=
  ∀ place name, f.node? (place ++ [name]) ≠ none → f.node? place = some .directory

/-- It is enough that everything listed is in a directory. -/
theorem closed_of_nodes {f : Files}
    (h : ∀ n ∈ f.nodes, n.1 ≠ [] → f.node? n.1.dropLast = some .directory) : f.Closed := by
  intro place name hthere
  rw [node?, if_neg (by simp), ne_eq, Option.map_eq_none_iff, List.find?_eq_none] at hthere
  simp only [decide_eq_true_eq, not_forall, not_not] at hthere
  obtain ⟨n, hn, heq⟩ := hthere
  have hdirectory := h n hn (by simp [heq])
  rwa [heq, List.dropLast_concat] at hdirectory

/-- Nothing is below a place where nothing is. -/
theorem Closed.nothing_below {f : Files} (h : f.Closed) {place : List String}
    (hplace : f.node? place = none) (below : List String) : f.node? (place ++ below) = none := by
  induction below using List.reverseRecOn with
  | nil => rwa [List.append_nil]
  | append_singleton below name ih =>
    rw [← List.append_assoc]
    by_cases hthere : f.node? (place ++ below ++ [name]) = none
    · exact hthere
    · have hdirectory := h _ _ hthere
      rw [ih] at hdirectory
      cases hdirectory

theorem Closed.dropLast {f : Files} (h : f.Closed) {place : List String}
    (hplace : f.node? place = some .directory) : f.node? place.dropLast = some .directory := by
  by_cases hroot : place = []
  · rw [hroot]
    rfl
  · refine h place.dropLast (place.getLast hroot) ?_
    rw [List.dropLast_concat_getLast, hplace]
    simp

/-- Where something is in a directory, or can be put into one. -/
def Attached (f : Files) (place : List String) : Prop :=
  f.node? place = some .directory ∨
    ∃ above name, place = above ++ [name] ∧ f.node? above = some .directory

theorem Closed.attached_walk {f : Files} (h : f.Closed) {start names place : List String}
    (hstart : names = [] → f.Attached start) (hwalk : (f.walk start names).toOption = some place) :
    f.Attached place := by
  induction names generalizing start with
  | nil =>
    cases hwalk
    exact hstart rfl
  | cons name rest ih =>
    rw [walk_cons] at hwalk
    split at hwalk
    · next hhere =>
      refine ih (fun _ => ?_) hwalk
      split
      · exact .inl hhere.1
      · split
        · exact .inl (h.dropLast hhere.1)
        · exact .inr ⟨start, name, rfl, hhere.1⟩
    · cases hwalk

theorem Closed.attached_place {f : Files} (h : f.Closed) {path : String} {place : List String}
    (hplace : f.place path = .ok place) : f.Attached place := by
  have hwalk := place_toOption f path
  rw [hplace] at hwalk
  split at hwalk
  · exact h.attached_walk (fun hnames => absurd hnames (Path.names_ne_nil path)) hwalk.symm
  · cases hwalk

/-- A tree stays one when something is put into a directory of it, and not over a directory. -/
theorem Closed.put {f : Files} (h : f.Closed) {place : List String} (hattached : f.Attached place)
    (hplace : f.node? place ≠ some .directory) (node : FileNode) : (f.put place node).Closed := by
  intro above name hthere
  by_cases hself : above ++ [name] = place
  · obtain hdirectory | ⟨above', name', hself', hdirectory⟩ := hattached
    · exact absurd hdirectory hplace
    · rw [← hself] at hself'
      have habove : above ≠ place := fun heq => by simp [heq] at hself
      rw [node?_put_of_ne f _ habove, (List.append_inj' hself' rfl).1, hdirectory]
  · rw [node?_put_of_ne f _ hself] at hthere
    have hdirectory := h above name hthere
    have habove : above ≠ place := fun heq => hplace (heq ▸ hdirectory)
    rwa [node?_put_of_ne f _ habove]

theorem makeDirectory_eq_ok {f g : Files} {path : String} (h : f.makeDirectory path = .ok g) :
    ∃ place, f.place path = .ok place ∧ f.node? place = none ∧ g = f.put place .directory := by
  unfold makeDirectory at h
  split at h
  · cases h
  · next place hplace =>
    split at h
    · cases h
    · next hnode =>
      cases h
      exact ⟨place, hplace, hnode, rfl⟩

/-- No file is in a new directory. -/
theorem Closed.held?_below {f : Files} (h : f.Closed) {place : List String}
    (hplace : f.node? place = none) (below : List String) :
    (f.put place .directory).held? (place ++ below) = none := by
  by_cases hbelow : below = []
  · have hroot : place ≠ [] := ne_nil_of_node? (by rw [hplace]; simp)
    rw [hbelow, List.append_nil, held?, node?_put_self f _ hroot]
  · rw [held?, node?_put_of_ne f _ (by simpa using hbelow), h.nothing_below hplace]

/-- Names that do not go up lead to no file from a new directory. -/
theorem Closed.walk_below {f : Files} (h : f.Closed) {place names : List String}
    (hplace : f.node? place = none) (hup : ".." ∉ names) (below : List String) :
    ((f.put place .directory).walk (place ++ below) names).toOption.bind
      (f.put place .directory).held? = none := by
  induction names generalizing below with
  | nil => exact h.held?_below hplace below
  | cons name rest ih =>
    have hname : name ≠ ".." := fun hname => hup (hname ▸ List.mem_cons_self)
    have hrest : ".." ∉ rest := fun hrest => hup (List.mem_cons_of_mem _ hrest)
    rw [walk_cons, if_neg hname]
    split
    · split
      · exact ih hrest below
      · rw [List.append_assoc]
        exact ih hrest (below ++ [name])
    · rfl

/-- A new directory changes nothing of what names lead to that go up only from directories which
are there. -/
theorem Closed.walk_put_directory {f : Files} (h : f.Closed) {place start names : List String}
    (hplace : f.node? place = none) (hclimbs : f.Climbs start names) :
    ((f.put place .directory).walk start names).toOption.bind (f.put place .directory).held? =
      (f.walk start names).toOption.bind f.held? := by
  have hnew : ∀ names, f.Climbs place names →
      ((f.put place .directory).walk place names).toOption.bind (f.put place .directory).held? =
        (f.walk place names).toOption.bind f.held? := by
    intro names hclimbs
    have hbelow := h.walk_below hplace (hclimbs.up_not_mem hplace) []
    rw [List.append_nil] at hbelow
    rw [hbelow, walk_absent hplace names f.held? (by simp [held?, hplace])]
  induction names generalizing start with
  | nil =>
    by_cases hstart : start = place
    · rw [hstart]
      exact hnew [] (hstart ▸ hclimbs)
    · simp [walk, Except.toOption, held?, node?_put_of_ne f _ hstart]
  | cons name rest ih =>
    by_cases hstart : start = place
    · rw [hstart]
      exact hnew (name :: rest) (hstart ▸ hclimbs)
    · rw [walk_cons, walk_cons, node?_put_of_ne f _ hstart]
      split
      · next hhere => exact ih (hclimbs.rest hhere)
      · rfl

/-- What making directories keeps: the tree stays one, and each path that goes up only from
directories which are there is read as before. -/
structure Extends (f g : Files) : Prop where
  closed : g.Closed
  cwd : g.cwd = f.cwd
  climbs : ∀ start names, f.Climbs start names → g.Climbs start names
  data : ∀ path, f.Climbs (f.start path) (Path.names path) → g.data? path = f.data? path

theorem Extends.text {f g : Files} (h : f.Extends g) (path : String)
    (hclimbs : f.Climbs (f.start path) (Path.names path)) : g.text? path = f.text? path := by
  rw [text?_eq, text?_eq, h.data path hclimbs]

theorem Closed.extends_self {f : Files} (h : f.Closed) : f.Extends f :=
  ⟨h, rfl, fun _ _ hclimbs => hclimbs, fun _ _ => rfl⟩

/-- The step: one directory is made. -/
theorem Extends.makeDirectory {f g k : Files} {path : String} (h : f.Extends g)
    (hmake : g.makeDirectory path = .ok k) : f.Extends k := by
  obtain ⟨place, hplace, hnode, rfl⟩ := makeDirectory_eq_ok hmake
  have hnot : g.node? place ≠ some .directory := by simp [hnode]
  refine ⟨h.closed.put (h.closed.attached_place hplace) hnot _, h.cwd,
    fun start names hclimbs => (h.climbs start names hclimbs).put hnot _, ?_⟩
  intro other hclimbs
  have hstart : g.start other = f.start other := by rw [start, start, h.cwd]
  have hclimbs' := h.climbs _ _ hclimbs
  rw [← h.data other hclimbs, data?_eq, data?_eq, place_toOption, place_toOption]
  split
  · rw [← hstart] at hclimbs'
    exact h.closed.walk_put_directory hnode hclimbs'
  · rfl

/-- What making one directory keeps, making a whole path of them keeps. -/
theorem makeDirectories_keeps {Holds : Files → Prop}
    (hstep : ∀ {g k path}, Holds g → g.makeDirectory path = .ok k → Holds k) {depth : Nat}
    {f g : Files} {path : String} (h : Holds f) (hmake : makeDirectories depth f path = .ok g) :
    Holds g := by
  induction depth generalizing f g path with
  | zero =>
    cases hmake
    exact h
  | succ depth ih =>
    rw [Files.makeDirectories] at hmake
    split at hmake
    · cases hmake
      exact h
    · split at hmake
      · next made hmade =>
        cases hmake
        exact hstep h hmade
      · split at hmake
        · cases hmake
        · next parent hparent =>
          split at hmake
          · cases hmake
          · next above habove =>
            have habove := ih h habove
            split at hmake
            · next made hmade =>
              cases hmake
              exact hstep habove hmade
            · split at hmake
              · cases hmake
                exact habove
              · cases hmake
      · split at hmake
        · cases hmake
          exact h
        · cases hmake

theorem Closed.ensureDirectory {f g : Files} (h : f.Closed) {path : String}
    (hmake : f.ensureDirectory path = .ok g) : f.Extends g :=
  makeDirectories_keeps (fun hext => hext.makeDirectory) h.extends_self hmake

end Files

end SspUpdate
