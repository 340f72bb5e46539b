import Mathlib.Data.List.Infix
import Mathlib.Logic.Function.Iterate
import SspUpdate.Program.Completions
import SspUpdate.Proofs.FileChanges
import SspUpdate.Proofs.Messages

/-!
# The line in the startup file

Installing completions for zsh adds a line to the startup file of the shell,
unless the line is there. It is looked for in the text of the file. So it is
added once to a file that is a text, but to one that is not it is added by
every run.
-/

namespace SspUpdate

namespace Bytes

theorem ofText_eq (text : String) : ofText text = text.toByteArray.data.toList := toList_eq _

theorem ofText_append (a b : String) : ofText (a ++ b) = ofText a ++ ofText b := by
  rw [ofText_eq, ofText_eq, ofText_eq, String.toByteArray_append, ByteArray.data_append,
    Array.toList_append]

theorem text?_eq_some_iff {data : Bytes} {text : String} :
    data.text? = some text ↔ data = ofText text := by
  constructor
  · intro h
    rw [Bytes.text?, String.fromUTF8?] at h
    split at h
    · cases h
      rw [ofText_eq]
      rfl
    · cases h
  · rintro rfl
    exact text?_ofText text

theorem eq_empty_of_ofText {text : String} (h : ofText text = []) : text = "" := by
  rw [ofText_eq] at h
  have hsize : text.utf8ByteSize = 0 := by
    rw [← String.size_toByteArray]
    exact congrArg List.length h
  exact String.utf8ByteSize_eq_zero_iff.mp hsize

/-- A text can be cut off from a text. -/
theorem text?_append_ofText (data : Bytes) (tail : String) :
    (data ++ ofText tail).text? = data.text?.map (· ++ tail) := by
  cases hdata : data.text? with
  | some text =>
    rw [text?_eq_some_iff.mp hdata, ← ofText_append, text?_ofText]
    rfl
  | none =>
    rw [Option.map_none, Option.eq_none_iff_forall_ne_some]
    intro whole hwhole
    have hbytes := text?_eq_some_iff.mp hwhole
    have harray : whole.toByteArray = ⟨data.toArray⟩ ++ tail.toByteArray := by
      refine ByteArray.ext (Array.toList_inj.mp ?_)
      rw [ByteArray.data_append, Array.toList_append, ← ofText_eq, ← ofText_eq, ← hbytes]
    have hsize : whole.utf8ByteSize = data.length + tail.toByteArray.size := by
      rw [← String.size_toByteArray, harray, ByteArray.size_append]
      rfl
    have htail : whole.toByteArray.extract data.length whole.utf8ByteSize = tail.toByteArray := by
      rw [harray, hsize]
      exact ByteArray.extract_append_eq_right rfl rfl
    have hvalid : (⟨data.length⟩ : String.Pos.Raw).IsValid whole := by
      rw [String.Pos.Raw.isValid_iff_isValidUTF8_extract_utf8ByteSize, htail]
      refine ⟨?_, tail.isValidUTF8⟩
      rw [String.Pos.Raw.le_iff, String.byteIdx_rawEndPos, hsize]
      exact Nat.le_add_right _ _
    obtain ⟨before, behind, rfl, hp⟩ := String.Pos.Raw.isValid_iff_exists_append.mp hvalid
    have hlength : data.length = (ofText before).length := by
      rw [ofText_eq]
      exact congrArg String.Pos.Raw.byteIdx hp
    rw [ofText_append] at hbytes
    rw [text?_eq_some_iff.mpr (List.append_inj hbytes hlength).1] at hdata
    cases hdata

end Bytes

namespace Program

variable {content : Bytes} {text : String}

/-- Whether the line is in a startup file with this content. -/
def hasLine (content : Bytes) : Bool :=
  match content.text? with
  | some text => Text.occursIn fpathLine.toList text.toList
  | none => false

/-- The content of the startup file after a run. -/
def withLine (content : Bytes) : Bytes :=
  if hasLine content then content else content ++ Bytes.ofText fpathLines

theorem hasLine_of_text (h : content.text? = some text) :
    hasLine content = true ↔ fpathLine.toList <:+: text.toList := by
  rw [hasLine, h]
  exact Text.occursIn_iff _ _

theorem hasLine_of_not_text (h : content.text? = none) : hasLine content = false := by
  rw [hasLine, h]

theorem hasLine_nil : hasLine [] = false := by decide

theorem fpathLine_infix_fpathLines : fpathLine.toList <:+: fpathLines.toList := by
  unfold fpathLines
  generalize fpathLine = line
  rw [String.toList_append, String.toList_append]
  exact List.infix_append _ _ _

theorem withLine_of_hasLine (h : hasLine content = true) : withLine content = content := if_pos h

/-- A text has the line after a run. -/
theorem hasLine_withLine (h : content.text? = some text) : hasLine (withLine content) = true := by
  unfold withLine
  split
  · assumption
  · have hmore : (content ++ Bytes.ofText fpathLines).text? = some (text ++ fpathLines) := by
      rw [Bytes.text?_append_ofText, h]
      rfl
    rw [hasLine_of_text hmore, String.toList_append]
    exact fpathLine_infix_fpathLines.trans (List.suffix_append _ _).isInfix

/-- What several runs make of a text, one makes of it. -/
theorem withLine_iterate_of_text (h : content.text? = some text) (n : Nat) :
    withLine^[n + 1] content = withLine content :=
  Function.iterate_fixed (withLine_of_hasLine (hasLine_withLine h)) n

/-- What is no text is added to by each run. -/
theorem withLine_iterate_of_not_text (h : content.text? = none) (n : Nat) :
    withLine^[n] content = content ++ (List.replicate n (Bytes.ofText fpathLines)).flatten := by
  induction n generalizing content with
  | zero => exact (List.append_nil content).symm
  | succ n ih =>
    have hmore : (content ++ Bytes.ofText fpathLines).text? = none := by
      rw [Bytes.text?_append_ofText, h]
      rfl
    have hrun : withLine content = content ++ Bytes.ofText fpathLines := by
      rw [withLine, hasLine_of_not_text h]
      rfl
    rw [Function.iterate_succ_apply, hrun, ih hmore, List.replicate_succ, List.flatten_cons,
      List.append_assoc]

theorem prefix_withLine (content : Bytes) : content <+: withLine content := by
  unfold withLine
  split
  · exact List.prefix_refl content
  · exact List.prefix_append _ _

theorem prefix_withLine_iterate (content : Bytes) (n : Nat) : content <+: withLine^[n] content := by
  induction n with
  | zero => exact List.prefix_refl content
  | succ n ih =>
    rw [Function.iterate_succ_apply']
    exact ih.trans (prefix_withLine _)

theorem infix_ofText {part whole : String} (h : part.toList <:+: whole.toList) :
    Bytes.ofText part <:+: Bytes.ofText whole := by
  obtain ⟨before, behind, hwhole⟩ := h
  have htext : String.ofList before ++ part ++ String.ofList behind = whole := by
    rw [← String.toList_inj]
    simpa using hwhole
  exact ⟨_, _, by rw [← Bytes.ofText_append, ← Bytes.ofText_append, htext]⟩

theorem infix_withLine (content : Bytes) : Bytes.ofText fpathLine <:+: withLine content := by
  unfold withLine
  split
  · next hline =>
    cases htext : content.text? with
    | none => simp [hasLine_of_not_text htext] at hline
    | some text =>
      rw [Bytes.text?_eq_some_iff.mp htext]
      exact infix_ofText ((hasLine_of_text htext).mp hline)
  · exact (infix_ofText fpathLine_infix_fpathLines).trans (List.suffix_append _ _).isInfix

theorem ofText_fpathLines_ne : Bytes.ofText fpathLines ≠ [] :=
  mt Bytes.eq_empty_of_ofText (by decide +kernel)

/-- More runs make no difference to one just if the content is a text. -/
theorem withLine_settles_iff (content : Bytes) :
    (∀ n, withLine^[n + 1] content = withLine content) ↔ content.text?.isSome := by
  cases htext : content.text? with
  | some text => exact iff_of_true (withLine_iterate_of_text htext) rfl
  | none =>
    refine iff_of_false (fun h => ?_) (by simp)
    have htwice := (withLine_iterate_of_not_text htext 2).symm.trans
      ((h 1).trans (withLine_iterate_of_not_text htext 1))
    exact ofText_fpathLines_ne (by simpa using htwice)

/-- The startup file of zsh. -/
def startupFile (home : String) : String := Path.join home ".zshrc"

/-- Where zsh is made to look for scripts. -/
def scriptsDirectory (home : String) : String := Path.join home Shell.zshFunctions

/-- The file of the script for zsh. -/
def scriptFile (home : String) : String := Path.join (scriptsDirectory home) Shell.zsh.scriptName

variable {home : String}

theorem scriptPath?_zsh {env : Environment} (h : env.home? = some home) :
    Shell.zsh.scriptPath? env = some (scriptFile home) := by
  simp only [Shell.scriptPath?, Environment.configDirectory?, Environment.dataDirectory?,
    Environment.directory?, h]
  rfl

theorem isName_zshrc : Path.IsName ".zshrc" :=
  ⟨by decide, by decide, by decide, by decide⟩

theorem isName_scriptName : Path.IsName Shell.zsh.scriptName :=
  ⟨by decide, by decide, by decide, by decide⟩

theorem toList_scriptsDirectory (home : String) :
    ∃ before, (scriptsDirectory home).toList = before ++ ['.', 'z', 'f', 'u', 'n', 'c'] := by
  have habsolute : Path.isAbsolute Shell.zshFunctions = false := by decide
  have hname : Shell.zshFunctions.toList = ['.', 'z', 'f', 'u', 'n', 'c'] := by decide
  rw [scriptsDirectory, Path.join, habsolute, Bool.false_or]
  split
  · exact ⟨[], hname⟩
  · split
    · exact ⟨_, by rw [String.toList_append, hname]⟩
    · exact ⟨_, by rw [String.toList_append, hname]⟩

theorem scriptFile_eq (home : String) :
    scriptFile home = scriptsDirectory home ++ "/" ++ Shell.zsh.scriptName := by
  obtain ⟨before, hbefore⟩ := toList_scriptsDirectory home
  have hempty : (scriptsDirectory home).isEmpty = false := by
    rw [Bool.eq_false_iff, ne_eq, String.isEmpty_iff, ← String.toList_eq_nil_iff, hbefore]
    simp
  rw [scriptFile, Path.join, isName_scriptName.isAbsolute_eq, hempty, hbefore]
  simp

theorem parent?_scriptFile (home : String) :
    Path.parent? (scriptFile home) = some (scriptsDirectory home) := by
  obtain ⟨before, hbefore⟩ := toList_scriptsDirectory home
  have hname : Shell.zsh.scriptName.toList =
    ['_', 's', 's', 'p', 'f', 'l', 'a', 's', 'h'] := by decide
  have hdirectory : String.ofList (before ++ ['.', 'z', 'f', 'u', 'n', 'c']) =
      scriptsDirectory home := by
    rw [← hbefore, String.ofList_toList]
  rw [Path.parent?, scriptFile_eq, String.toList_append, String.toList_append, hbefore, hname,
    ← hdirectory]
  simp [Path.trimReversed, Path.lastReversed]

/-- Nothing stands in the way of installing, and this is in the startup file. -/
structure Ready (files : Files) (home : String) (content : Bytes) : Prop where
  directory : files.isDirectory (scriptsDirectory home) = true
  script : ∃ place, files.Opens (scriptFile home) place
  startup : ∃ place, files.Opens (startupFile home) place
  content : (files.data? (startupFile home)).getD [] = content

namespace Ready

variable {f : Files}

/-- Writing the script changes nothing of the startup file. -/
theorem write (h : Ready f home content) (data : Bytes) :
    ∃ g, f.write (scriptFile home) data = .ok g ∧ Ready g home content := by
  obtain ⟨place, hscript⟩ := h.script
  obtain ⟨there, hstartup⟩ := h.startup
  have hfree := hscript.free
  have hne : there ≠ place := by
    rintro rfl
    have hlast := (Files.getLast?_place isName_zshrc (isName_zshrc.endsIn_join home)
      hstartup.leads).symm.trans (Files.getLast?_place isName_scriptName
        (isName_scriptName.endsIn_join (scriptsDirectory home)) hscript.leads)
    exact absurd hlast (by decide)
  refine ⟨_, hscript.update _, Files.isDirectory_put_file h.directory hfree _,
    ⟨place, hscript.put_file hfree _⟩, ⟨there, hstartup.put_file hfree _⟩, ?_⟩
  rw [(hstartup.put_file hfree _).data?, Files.held?_put_of_ne f _ hne, ← hstartup.data?,
    h.content]

theorem append (h : Ready f home content) (data : Bytes) :
    ∃ g, f.append (startupFile home) data = .ok g ∧ Ready g home (content ++ data) := by
  obtain ⟨place, hscript⟩ := h.script
  obtain ⟨there, hstartup⟩ := h.startup
  have hfree := hstartup.free
  refine ⟨_, hstartup.update _, Files.isDirectory_put_file h.directory hfree _,
    ⟨place, hscript.put_file hfree _⟩, ⟨there, hstartup.put_file hfree _⟩, ?_⟩
  rw [(hstartup.put_file hfree _).data?, Files.held?_put_self f _ (Files.ne_nil_of_node? hfree),
    ← hstartup.data?, h.content]
  rfl

theorem read (h : Ready f home content) (hne : content ≠ []) :
    f.read (startupFile home) = .ok content := by
  have hcontent := h.content
  unfold Files.data? at hcontent
  cases hread : f.read (startupFile home) with
  | error e =>
    rw [hread] at hcontent
    exact absurd hcontent.symm hne
  | ok data =>
    rw [hread] at hcontent
    exact congrArg _ hcontent

theorem hasFpath_eq (h : Ready f home content) :
    hasFpath f (startupFile home) = hasLine content := by
  rw [hasFpath, ← h.content, hasLine, Files.data?, Files.readText]
  cases f.read (startupFile home) with
  | error e => exact hasLine_nil.symm
  | ok data =>
    simp only [Except.toOption, Option.getD_some]
    cases data.text? <;> rfl

end Ready

/-- A station where nothing stands in the way of installing. -/
structure Prepared {δ : Type} (home : String) (content : Bytes) (s : Station δ) : Prop where
  env : s.env.home? = some home
  files : Ready s.files home content

variable {δ : Type} {s s' : Station δ}

theorem Prepared.wrote {serial : Serial.Attached δ} (h : Prepared home content s)
    (hw : s.Wrote serial s') : Prepared home content s' := by
  obtain ⟨hhome, hfiles⟩ := h
  rw [← hw.env_eq] at hhome
  rw [← hw.files_eq] at hfiles
  exact ⟨hhome, hfiles⟩

theorem changeFiles_ok {change : Files → Except FileFault Files} {g : Files} (context : String)
    (h : change s.files = .ok g) :
    changeFiles context change s = .ok () { s with files := g } := by
  have hchange : Station.within context (Station.ofExcept (fun e : FileFault => .other e.message)
      (change s.files)) s = Station.finished s (.ok g) := by
    rw [h]
    rfl
  exact Station.bind_ok hchange _

/-- The startup file is seen to. -/
theorem ensureFpath_ends (h : Prepared home content s) :
    ∃ u s', ensureFpath s = .ok u s' ∧ Prepared home (withLine content) s' := by
  have hread : (get : StationM δ (Station δ)) s = Station.finished s (.ok s) := rfl
  rw [ensureFpath, Station.bind_ok hread, h.env]
  dsimp only
  rw [← startupFile, h.files.hasFpath_eq]
  cases hline : hasLine content with
  | true =>
    rw [withLine_of_hasLine hline]
    exact ⟨(), s, rfl, h⟩
  | false =>
    obtain ⟨g, happend, hready⟩ := h.files.append (Bytes.ofText fpathLines)
    have hmissing : withLine content = content ++ Bytes.ofText fpathLines := by
      rw [withLine, hline]
      rfl
    have hadded : Station.within ("Failed to update " ++ startupFile home)
        (Station.ofExcept (fun e : FileFault => .other e.message) (.ok g)) s =
          Station.finished s (.ok g) := rfl
    let s₁ : Station δ := { s with files := g }
    have hchanged : (modify fun s => { s with files := g } : StationM δ PUnit) s =
      Station.finished s₁ (.ok ()) := rfl
    rw [happend, Bool.not_false, if_pos rfl, Station.bind_ok hadded, Station.bind_ok hchanged,
      hmissing]
    have hprepared : Prepared home (content ++ Bytes.ofText fpathLines) s₁ := ⟨h.env, hready⟩
    refine (Station.paint_gives _ _ s₁).ends fun s₂ h₂ => ?_
    refine (Station.paint_gives _ _ s₂).ends fun s₃ h₃ => ?_
    obtain ⟨s₄, hsay, h₄⟩ := Station.say_gives _ s₃
    exact ⟨(), s₄, hsay, ((hprepared.wrote h₂).wrote h₃).wrote h₄⟩

/-- One run, where the directory of the scripts can be made. -/
theorem completions_ends {made : Files} (hhome : s.env.home? = some home)
    (hmake : s.files.ensureDirectory (scriptsDirectory home) = .ok made)
    (h : Ready made home content) :
    ∃ u s', completions (some .zsh) true s = .ok u s' ∧ Prepared home (withLine content) s' := by
  obtain ⟨g, hwrite, hready⟩ := h.write (Bytes.ofText Shell.zsh.script)
  have hread : (get : StationM δ (Station δ)) s = Station.finished s (.ok s) := rfl
  have hshell : (some Shell.zsh <|> Shell.detect? s.env) = some Shell.zsh := rfl
  rw [completions, if_pos rfl, installCompletions, Station.bind_ok hread]
  simp only [hshell, pure_bind, scriptPath?_zsh hhome, parent?_scriptFile]
  rw [Station.bind_ok (changeFiles_ok _ hmake), Station.bind_ok (changeFiles_ok _ hwrite)]
  let s₁ : Station δ := { s with files := g }
  have hprepared : Prepared home content s₁ := ⟨hhome, hready⟩
  refine (Station.paint_gives _ _ s₁).ends fun s₂ h₂ => ?_
  refine (Station.paint_gives _ _ s₂).ends fun s₃ h₃ => ?_
  refine (Station.paint_gives _ _ s₃).ends fun s₄ h₄ => ?_
  refine (Station.say_gives _ s₄).ends fun s₅ h₅ => ?_
  refine (Station.say_gives _ s₅).ends fun s₆ h₆ => ?_
  have hw := (((h₂.more h₃).more h₄).more h₅).more h₆
  obtain ⟨u, s₇, hfpath, hdone⟩ := ensureFpath_ends (hprepared.wrote hw)
  rw [explain, Station.bind_ok hfpath]
  refine (Station.paint_gives _ _ s₇).ends fun s₈ h₈ => ?_
  obtain ⟨s₉, hsay, h₉⟩ := Station.say_gives _ s₈
  exact ⟨(), s₉, hsay, (hdone.wrote h₈).wrote h₉⟩

/-- Installs the completions for zsh several times. -/
def installs : Nat → StationM δ Unit
  | 0 => pure ()
  | n + 1 => do
    installs n
    completions (some .zsh) true

/-- What installing for zsh needs: its directory can be made, and then the script and the startup
file can be opened. -/
structure Installable (files made : Files) (home : String) : Prop where
  directory : files.ensureDirectory (scriptsDirectory home) = .ok made
  script : ∃ place, made.Opens (scriptFile home) place
  startup : ∃ place, made.Opens (startupFile home) place

theorem scriptsDirectory_ne (home : String) : scriptsDirectory home ≠ "" := by
  obtain ⟨before, hbefore⟩ := toList_scriptsDirectory home
  intro hempty
  rw [hempty] at hbefore
  simp at hbefore

theorem Installable.ready {files made : Files} (h : Installable files made home) :
    Ready made home ((made.data? (startupFile home)).getD []) :=
  ⟨Files.isDirectory_ensureDirectory (scriptsDirectory_ne home) h.directory, h.script, h.startup,
    rfl⟩

/-- The run: each installation finds what the ones before it have left. -/
theorem installs_ends {made : Files} (hhome : s.env.home? = some home)
    (h : Installable s.files made home) (n : Nat) :
    ∃ u s', installs (n + 1) s = .ok u s' ∧
      Prepared home (withLine^[n + 1] ((made.data? (startupFile home)).getD [])) s' := by
  induction n with
  | zero => exact completions_ends hhome h.directory h.ready
  | succ n ih =>
    obtain ⟨u, s₁, hearlier, hprepared⟩ := ih
    have hmade := Files.ensureDirectory_self hprepared.files.directory
    rw [Function.iterate_succ_apply', installs, Station.bind_ok hearlier]
    exact completions_ends hprepared.env hmade hprepared.files

/-- Making the directory opens no way to another startup file, if the path to the home goes up only
from directories that are there. -/
theorem data?_startupFile {files made : Files} (hclosed : files.Closed)
    (hclimbs : files.Climbs (files.start home) (Path.names home))
    (hmake : files.ensureDirectory (scriptsDirectory home) = .ok made) :
    made.data? (startupFile home) = files.data? (startupFile home) :=
  (hclosed.ensureDirectory hmake).data _ (hclimbs.join isName_zshrc)

/-- Installing the completions again leaves the startup file as it is just if it was a text.
However often it is done, what was in the file stays in front, and the line is there; but to a file
that is no text the lines are added each time. -/
theorem installs_settle_iff {made : Files} (hhome : s.env.home? = some home)
    (h : Installable s.files made home) :
    let found := (made.data? (startupFile home)).getD []
    (∀ data, s.files.data? (startupFile home) = some data → found = data) ∧
      (s.files.Closed → s.files.Climbs (s.files.start home) (Path.names home) →
        found = (s.files.data? (startupFile home)).getD []) ∧
      ∃ after : Nat → Bytes,
        (∀ n, ∃ u s', installs (n + 1) s = .ok u s' ∧
          s'.files.read (startupFile home) = .ok (after n)) ∧
        (∀ n, found <+: after n ∧ Bytes.ofText fpathLine <:+: after n) ∧
        ((∀ n, after n = after 0) ↔ found.text?.isSome) ∧
        (found.text? = none → ∀ n,
          after n = found ++ (List.replicate (n + 1) (Bytes.ofText fpathLines)).flatten) := by
  intro found
  have hline (n : Nat) : Bytes.ofText fpathLine <:+: withLine^[n + 1] found := by
    rw [Function.iterate_succ_apply']
    exact infix_withLine _
  refine ⟨fun data hdata => ?_, fun hclosed hclimbs => ?_, fun n => withLine^[n + 1] found,
    fun n => ?_, fun n => ⟨prefix_withLine_iterate found _, hline n⟩, withLine_settles_iff found,
    fun htext n => withLine_iterate_of_not_text htext _⟩
  · exact congrArg (Option.getD · []) (Files.data?_ensureDirectory hdata h.directory)
  · exact congrArg (Option.getD · []) (data?_startupFile hclosed hclimbs h.directory)
  · obtain ⟨u, s', hruns, hprepared⟩ := installs_ends hhome h n
    refine ⟨u, s', hruns, hprepared.files.read fun hempty => ?_⟩
    have hnone := hline n
    rw [hempty, List.infix_nil] at hnone
    exact absurd (Bytes.eq_empty_of_ofText hnone) (by decide)

end Program

/-- A station with a home in the working directory, and this in the startup file there. -/
def Station.household (content : Bytes) : Station Unit where
  env := [("HOME", "/work/home")]
  files :=
    { cwd := ["work"]
      nodes := [(["work"], .directory), (["work", "home"], .directory),
        (["work", "home", ".zshrc"], .file content)] }
  serial := .idle () false
  ports := .ok []
  terminal := none
  colors := false
  patience := 0
  output := []

namespace Program

theorem installable_household (content : Bytes) :
    let files := (Station.household content).files
    Installable files (files.put ["work", "home", ".zfunc"] .directory) "/work/home" := by
  intro files
  exact ⟨rfl, ⟨["work", "home", ".zfunc", "_sspflash"], rfl, nofun⟩,
    ⟨["work", "home", ".zshrc"], rfl, nofun⟩⟩

/-- To a startup file that ends without a line break, the lines are added once. -/
theorem installs_settle_household :
    let s := Station.household (Bytes.ofText "bindkey -e")
    ∃ content, (∃ u s', installs 1 s = .ok u s' ∧
        s'.files.read (startupFile "/work/home") = .ok content) ∧
      (∃ u s', installs 3 s = .ok u s' ∧
        s'.files.read (startupFile "/work/home") = .ok content) ∧
      Bytes.ofText "bindkey -e" <+: content ∧ Bytes.ofText fpathLine <:+: content := by
  intro s
  obtain ⟨hfound, -, after, hruns, hholds, hsettles, -⟩ :=
    installs_settle_iff (s := s) rfl (installable_household (Bytes.ofText "bindkey -e"))
  rw [hfound (Bytes.ofText "bindkey -e") rfl, Bytes.text?_ofText] at hsettles
  rw [hfound (Bytes.ofText "bindkey -e") rfl] at hholds
  have hthird := hruns 2
  rw [hsettles.mpr rfl 2] at hthird
  exact ⟨after 0, hruns 0, hthird, hholds 0⟩

/-- A startup file that is no text is longer after two runs than after one. -/
theorem installs_grow :
    let s := Station.household [0xFF]
    ∃ once twice, (∃ u s', installs 1 s = .ok u s' ∧
        s'.files.read (startupFile "/work/home") = .ok once) ∧
      (∃ u s', installs 2 s = .ok u s' ∧
        s'.files.read (startupFile "/work/home") = .ok twice) ∧ once.length < twice.length := by
  intro s
  have hruns (n : Nat) : ∃ u s', installs (n + 1) s = .ok u s' ∧
      Prepared "/work/home" (withLine^[n + 1] [0xFF]) s' :=
    installs_ends rfl (installable_household [0xFF]) n
  have hnot : Bytes.text? [0xFF] = none := by decide
  obtain ⟨u₁, s₁, hone, h₁⟩ := hruns 0
  obtain ⟨u₂, s₂, htwo, h₂⟩ := hruns 1
  rw [withLine_iterate_of_not_text hnot] at h₁ h₂
  refine ⟨_, _, ⟨u₁, s₁, hone, h₁.files.read (by simp)⟩,
    ⟨u₂, s₂, htwo, h₂.files.read (by simp)⟩, ?_⟩
  have hpos := List.length_pos_of_ne_nil ofText_fpathLines_ne
  simp only [List.length_append, List.length_flatten, List.map_replicate, List.sum_replicate_nat]
  omega

end Program

end SspUpdate
