import Mathlib.Control.Monad.Basic
import SspUpdate.Program
import SspUpdate.Proofs.Course
import SspUpdate.Proofs.DriverCalls
import SspUpdate.Proofs.Selection
import SspUpdate.Serial.Bench

/-!
# The program and the library agree

Updating a device with the program, where the command line names port and
address and nothing else has a say, is updating it with the library: the
driver is called in the same way, nothing is asked, and the exit code is the
code of the outcome. What the program does besides is to write messages.
-/

namespace SspUpdate

namespace Serial

/-- A call that a driver got, with its answer. -/
inductive Call where
  | openDevice (settings : Settings) (answer : Except String Unit)
  | release
  | setTimeout (ms : Nat) (answer : Except String Unit)
  | setBaud (baud : UInt32) (answer : Except String Unit)
  | bytesToRead (answer : Except String Nat)
  | clear (answer : Except String Unit)
  | read (count : Nat) (answer : Except IoError Bytes)
  | write (data : Bytes) (answer : Except IoError Nat)
  | flush (answer : Except IoError Unit)
  | sleep (ms : Nat)

/-- A driver with the calls that it got, newest first. -/
structure Recorder (δ : Type) where
  driver : δ
  calls : List Call := []

namespace Recorder

variable {δ : Type}

/-- Has a call answered by the driver, and keeps it. -/
def record {α : Type} (entry : α → Call) (act : δ → α × δ) (r : Recorder δ) : α × Recorder δ :=
  let (answer, driver) := act r.driver
  (answer, ⟨driver, entry answer :: r.calls⟩)

instance [Driver δ] : Driver (Recorder δ) where
  openDevice settings := record (.openDevice settings) (Driver.openDevice settings)
  release r := ⟨Driver.release r.driver, .release :: r.calls⟩
  setTimeout ms := record (.setTimeout ms) (Driver.setTimeout ms)
  setBaud baud := record (.setBaud baud) (Driver.setBaud baud)
  bytesToRead := record .bytesToRead Driver.bytesToRead
  clear := record .clear Driver.clear
  read count := record (.read count) (Driver.read count)
  write data := record (.write data) (Driver.write data)
  flush := record .flush Driver.flush
  clock r := Driver.clock r.driver
  lastInstant r := Driver.lastInstant r.driver
  sleep ms r := ⟨Driver.sleep ms r.driver, .sleep ms :: r.calls⟩

end Recorder

namespace Attached

variable {δ : Type} {s s' : Attached δ}

theorem stop_of_onDriver {ε ε' α : Type} {wrap : ε → ε'} {act : δ → Except ε α × δ}
    {answer : Except ε' α} (h : onDriver wrap act s = (answer, s')) : s'.stop = s.stop := by
  unfold onDriver at h
  split at h <;> cases h <;> rfl

variable [Driver δ]

theorem stop_openPort (port : String) (baud : UInt32) (s : Attached δ) :
    (openPort port baud s).2.stop = s.stop := by
  have hopen : ∀ settings, (openWith settings s).2.stop = s.stop := by
    intro settings
    unfold openWith
    split
    · next h => exact (stop_of_onDriver h :)
    · next h => exact stop_of_onDriver h
  have hsame := hopen { port, baud }
  unfold openPort
  split <;> simp_all

theorem stop_close (s : Attached δ) : (close s).2.stop = s.stop := by
  unfold close
  split <;> rfl

theorem stop_setBaud (baud : UInt32) (s : Attached δ) : (setBaud baud s).2.stop = s.stop := by
  unfold setBaud
  split
  · split
    · next h => exact (stop_of_onDriver h :)
    · next h => exact stop_of_onDriver h
  · rfl

theorem stop_write (data : Bytes) (s : Attached δ) : (write data s).2.stop = s.stop := by
  unfold write
  split
  · exact stop_of_onDriver rfl
  · rfl

theorem stop_flush (s : Attached δ) : (flush s).2.stop = s.stop := by
  unfold flush
  split
  · exact stop_of_onDriver rfl
  · rfl

theorem stop_readWithin (patience ms : Nat) (s : Attached δ) :
    (readWithin patience ms s).2.stop = s.stop := by
  obtain ⟨d, hread⟩ := readWithin_snd patience ms s
  rw [hread]

/-- Whether somebody asked to stop is the same after any call. -/
theorem stop_of_moves {patience : Nat} {e : Entry} (h : e.Moves patience s s') :
    s'.stop = s.stop := by
  cases e with
  | opened port baud answer => exact (congrArg (·.2.stop) h).symm.trans (stop_openPort port baud s)
  | closed _ answer => exact (congrArg (·.2.stop) h).symm.trans (stop_close s)
  | switched baud answer => exact (congrArg (·.2.stop) h).symm.trans (stop_setBaud baud s)
  | wrote data answer => exact (congrArg (·.2.stop) h).symm.trans (stop_write data s)
  | flushed answer => exact (congrArg (·.2.stop) h).symm.trans (stop_flush s)
  | received ms answer =>
    exact (congrArg (·.2.stop) h).symm.trans (stop_readWithin patience ms s)
  | slept ms => exact (congrArg stop h).symm
  | stopAsked answer => exact (congrArg (·.2.stop) h).symm
  | progressed progress => exact (congrArg stop h).symm
  | noted note => exact (congrArg stop h).symm

theorem stop_of_path {patience : Nat} {t : Trace} (h : Path patience s t s') :
    s'.stop = s.stop := by
  induction h with
  | nil => rfl
  | cons head _ ih => exact ih.trans (stop_of_moves head)

end Attached

end Serial

/-- The files that a configuration would be in. -/
def Config.places (named : Option String) (env : Environment) : List String :=
  match named with
  | some path => [path]
  | none => (globalFile? env).toList ++ [localFile, localPorts] ++ (globalPorts? env).toList

/-- Only the command line has a say in the port, and nobody interferes. -/
structure Station.Undisturbed {δ : Type} (s : Station δ) (named : Option String) (port : String) :
    Prop where
  /-- There is no configuration file. -/
  unconfigured : ∀ path ∈ Config.places named s.env, s.files.exists? path = false
  /-- Nobody asks to stop. -/
  uninterrupted : s.serial.stop = false
  /-- No enumerated port has the name in letters of another case. -/
  unmistaken : ∀ p ∈ DetectedPort.ofEnumeration s.ports,
    p.name.toLower = port.toLower → p.name = port

section Choices

variable {δ : Type} {s : Station δ}

theorem Station.Undisturbed.wrote {s' : Station δ} {named : Option String} {port : String}
    (h : s.Undisturbed named port) (hw : Wrote s s.serial s') : s'.Undisturbed named port where
  unconfigured := by
    rw [hw.env_eq, hw.files_eq]
    exact h.unconfigured
  uninterrupted := hw.serial_eq ▸ h.uninterrupted
  unmistaken := hw.ports_eq ▸ h.unmistaken

theorem Config.lookup_missing {α : Type} (sort : String) (parse? : String → Option α)
    {files : Files} {path : String} (h : files.exists? path = false) :
    lookup sort parse? files path = ⟨none, []⟩ := by
  rw [lookup, h]
  rfl

theorem Config.lookupPorts_missing {files : Files} {paths : List String}
    (h : ∀ path ∈ paths, files.exists? path = false) : lookupPorts files paths = ⟨none, []⟩ := by
  induction paths with
  | nil => rfl
  | cons path paths ih =>
    rw [List.forall_mem_cons] at h
    rw [lookupPorts, lookup_missing _ _ h.1, ih h.2]
    rfl

theorem Config.loadFrom_missing {files : Files} {path : String}
    (h : files.exists? path = false) : ∃ lines, loadFrom files path = ({}, lines) := by
  rw [loadFrom, lookupConfig, lookup_missing _ _ h]
  exact ⟨_, rfl⟩

theorem Config.load_missing {files : Files} {env : Environment}
    (h : ∀ path ∈ places none env, files.exists? path = false) :
    ∃ lines, load files env = ({}, lines) := by
  simp only [places, List.mem_append, or_imp, forall_and, Option.mem_toList, List.forall_mem_cons]
    at h
  obtain ⟨⟨hglobal, hlocal, hports, -⟩, hglobalPorts⟩ := h
  have hfound : lookupPorts files (localPorts :: (globalPorts? env).toList) = ⟨none, []⟩ :=
    lookupPorts_missing (List.forall_mem_cons.mpr ⟨hports, by simpa using hglobalPorts⟩)
  have hlookup : lookupConfig files localFile = ⟨none, []⟩ := lookup_missing _ _ hlocal
  rw [load, hfound, hlookup]
  cases hfile : globalFile? env with
  | none => exact ⟨_, rfl⟩
  | some path =>
    have hmissing : lookupConfig files path = ⟨none, []⟩ := lookup_missing _ _ (hglobal path hfile)
    simp only [hmissing]
    exact ⟨_, rfl⟩

/-- Without a configuration file the configuration is empty. -/
theorem Station.loadConfig_gives {named : Option String}
    (h : ∀ path ∈ Config.places named s.env, s.files.exists? path = false) :
    Gives (loadConfig named) s (.ok {}) s.serial := by
  refine Gives.read ?_
  cases named with
  | some path =>
    obtain ⟨lines, hload⟩ := Config.loadFrom_missing (h path (List.mem_singleton_self _))
    simp only [hload]
    exact (logAll_gives lines s).first fun s' _ => .value _ s'
  | none =>
    obtain ⟨lines, hload⟩ := Config.load_missing h
    simp only [hload]
    exact (logAll_gives lines s).first fun s' _ => .value _ s'

/-- A name that is the only one of its letters stays as it was given. -/
theorem PortChoice.name_byName {port : String} {ports : List DetectedPort}
    (h : ∀ p ∈ ports, p.name.toLower = port.toLower → p.name = port) :
    (byName port ports).port.name = port := by
  unfold byName
  dsimp only
  split
  · next found hfound =>
    rw [Option.orElse_eq_orElse, Option.orElse_eq_or, Option.or_eq_some_iff] at hfound
    obtain hsame | ⟨-, hlike⟩ := hfound
    · simpa using List.find?_some hsame
    · exact h found (List.mem_of_find?_eq_some hlike) (by simpa using List.find?_some hlike)
  · rfl

/-- A port that is named is taken without a question. -/
theorem PortChoice.portName_gives {request : PortRequest} {port : String} (config : Config)
    (hport : request.port = some port)
    (h : ∀ p ∈ DetectedPort.ofEnumeration s.ports, p.name.toLower = port.toLower → p.name = port) :
    Station.Gives (portName config request) s (.ok (port, config)) s.serial := by
  have hnamed : named config request = some port := by rw [named, hport, Option.some_or]
  have hname : Station.Gives (portName config request) s
      (.ok ((byName port s.detected).port.name, config)) s.serial := by
    refine (select_named hnamed s).first fun s' _ => ?_
    rw [hport, Option.isNone_some, Bool.and_false, if_neg Bool.false_ne_true]
    exact .value _ s'
  rwa [Station.detected, name_byName h] at hname

end Choices

namespace Program

variable {δ : Type} {s : Station δ}

theorem announce_gives (options : Options) (style : Text.Style) (sign text : String)
    (s : Station δ) : Station.Gives (announce options style sign text) s (.ok ()) s.serial := by
  unfold announce
  split
  · exact (Station.paint_gives style sign s).first fun s' _ => Station.say_gives _ s'
  · exact .value () s

theorem openLog_gives (options : Options) (s : Station δ) :
    Station.Gives (openLog options) s (.ok ()) s.serial :=
  Station.Gives.read ((Station.forM_gives (fun _ => Station.say_gives _) _ s).first
    fun s' _ => Station.log_gives _ _ _ s')

theorem farewell_gives (f : Failure) (s : Station δ) :
    Station.Gives (farewell f) s (.ok ()) s.serial :=
  (Station.paint_gives _ _ s).first fun s' _ => Station.say_gives _ s'

theorem loadImage_gives {firmware : String} {image : Image}
    (h : Image.load s.files firmware = .ok image) :
    Station.Gives (loadImage firmware) s (.ok image) s.serial := by
  refine Station.Gives.read ?_
  rw [h]
  exact (Station.logAll_gives _ s).first fun s' _ => .value image s'

theorem loadImage_fails {firmware : String} {e : Error}
    (h : Image.load s.files firmware = .error e) :
    Station.Gives (loadImage firmware) s
      (.error ((Failure.library e).within ("Failed to load firmware " ++ firmware))) s.serial := by
  refine Station.Gives.read ?_
  rw [h]
  exact (Station.logAll_gives _ s).first fun s' _ => ⟨s', rfl, .refl s'⟩

/-- What the program makes of the end of an update. -/
def reported : Except Halt Unit → Except Failure Unit
  | .ok () => .ok ()
  | .error (.unfinished cut) => .error (.ofHalt (.unfinished cut))
  | .error (.failed e) =>
    .error ((Failure.library e).within ("Update failed [" ++ e.outcome.text ++ "]"))

def exitCode : Except Failure Unit → Nat
  | .ok () => 0
  | .error f => f.exitCode

theorem exitCode_reported {r : Except Halt Unit} {o : Outcome} (h : Outcome.ofHalt? r = some o) :
    exitCode (reported r) = o.code := by
  rcases r with (e | _) | _ <;> cases h <;> rfl

/-- The updater that the station's serial port is used with. -/
def updaterOf (s : Station δ) (timing : Timing) : Updater (Serial.Attached δ) Channel :=
  ⟨⟨s.serial, [], s.patience⟩, .new, timing⟩

theorem updaterOf_eq {s' : Station δ} (h : Station.Wrote s s.serial s') (timing : Timing) :
    updaterOf s' timing = updaterOf s timing := by
  rw [updaterOf, h.serial_eq, h.patience_eq, updaterOf]

variable [Serial.Driver δ]

/-- The host goes along a path in an update. -/
theorem updaterOf_leads (s : Station δ) (timing : Timing) (image : Image) (port address : String) :
    ∃ t, (updaterOf s timing).line.Leads t
      ((updaterOf s timing).update image port address).2.line := by
  obtain ⟨size, t, last, -, -, -, -, hleads⟩ :=
    update_runs (Channel.conversation (AddressReading.ofString address).value image)
      (updaterOf s timing) port address ⟨rfl, rfl⟩
  exact ⟨_, hleads⟩

theorem stop_update (s : Station δ) (timing : Timing) (image : Image) (port address : String) :
    ((updaterOf s timing).update image port address).2.line.host.stop = s.serial.stop := by
  obtain ⟨t, hleads⟩ := updaterOf_leads s timing image port address
  exact Serial.Attached.stop_of_path hleads.path

theorem runUpdate_gives (timing : Timing) (image : Image) (port address : String)
    (s : Station δ) : Station.Gives (runUpdate timing image port address) s
      (.ok ((updaterOf s timing).update image port address).1)
      ((updaterOf s timing).update image port address).2.line.host := by
  obtain ⟨t, hleads⟩ := updaterOf_leads s timing image port address
  have hrun : runUpdate timing image port address s =
      .ok ((updaterOf s timing).update image port address).1
        { s with
          serial := ((updaterOf s timing).update image port address).2.line.host
          patience := ((updaterOf s timing).update image port address).2.line.patience
          output := ((((updaterOf s timing).update image port address).2.line.history.filterMap
            Entry.logLine?).map Output.log).reverse ++ s.output } := rfl
  rw [hleads.patience] at hrun
  exact ⟨_, hrun, _, rfl, fun _ => Station.not_isPrompt_of_mem_log⟩

section Agreement

variable {options : Options} {firmware port address : String}

/-- What the program makes of an update from a file with the default timing. -/
def resultOf (s : Station δ) (firmware port address : String) : Except Failure Unit :=
  match Image.load s.files firmware with
  | .error e => .error ((Failure.library e).within ("Failed to load firmware " ++ firmware))
  | .ok image => reported ((updaterOf s {}).update image port address).1

/-- What the library makes of it, called for the outcome only. -/
def libraryOf (s : Station δ) (firmware port address : String) :
    Option Outcome × Line (Serial.Attached δ) :=
  updateDevice ⟨s.serial, [], s.patience⟩ s.files firmware port address

theorem resultOf_of_error {e : Error} (h : Image.load s.files firmware = .error e)
    (port address : String) : resultOf s firmware port address =
      .error ((Failure.library e).within ("Failed to load firmware " ++ firmware)) := by
  rw [resultOf, h]

theorem resultOf_of_ok {image : Image} (h : Image.load s.files firmware = .ok image)
    (port address : String) : resultOf s firmware port address =
      reported ((updaterOf s {}).update image port address).1 := by
  rw [resultOf, h]

theorem libraryOf_of_error {e : Error} (h : Image.load s.files firmware = .error e)
    (port address : String) :
    libraryOf s firmware port address = (some e.outcome, ⟨s.serial, [], s.patience⟩) := by
  simp only [libraryOf, updateDevice, Updater.updateFile, h, Outcome.ofHalt?]

theorem libraryOf_of_ok {image : Image} (h : Image.load s.files firmware = .ok image)
    (port address : String) : libraryOf s firmware port address =
      (Outcome.ofHalt? ((updaterOf s {}).update image port address).1,
        ((updaterOf s {}).update image port address).2.line) := by
  simp only [libraryOf, updateDevice, Updater.updateFile, h, updaterOf]

theorem exitCode_resultOf {o : Outcome} (h : (libraryOf s firmware port address).1 = some o) :
    exitCode (resultOf s firmware port address) = o.code := by
  cases hload : Image.load s.files firmware with
  | error e =>
    rw [libraryOf_of_error hload] at h
    rw [resultOf_of_error hload]
    cases h
    rfl
  | ok image =>
    rw [libraryOf_of_ok hload] at h
    rw [resultOf_of_ok hload]
    exact exitCode_reported h

theorem resultOf_eq {s' : Station δ} (h : Station.Wrote s s.serial s')
    (firmware port address : String) :
    resultOf s' firmware port address = resultOf s firmware port address := by
  rw [resultOf, h.files_eq, updaterOf_eq h, resultOf]

theorem libraryOf_eq {s' : Station δ} (h : Station.Wrote s s.serial s')
    (firmware port address : String) :
    libraryOf s' firmware port address = libraryOf s firmware port address := by
  rw [libraryOf, h.serial_eq, h.patience_eq, h.files_eq, libraryOf]

/-- The subcommand does on the serial port what the library does. -/
theorem update_gives (hport : options.port = some port) (haddress : options.address = some address)
    (h : s.Undisturbed options.config port) :
    Station.Gives (update options {} firmware none false) s (resultOf s firmware port address)
      (libraryOf s firmware port address).2.host := by
  cases hload : Image.load s.files firmware with
  | error e =>
    rw [libraryOf_of_error hload, resultOf_of_error hload]
    exact (announce_gives _ _ _ _ s).first fun s₁ h₁ =>
      (loadImage_fails (h₁.files_eq ▸ hload)).failed _
  | ok image =>
    rw [libraryOf_of_ok hload, resultOf_of_ok hload]
    refine (announce_gives _ _ _ _ s).andThen fun s₁ h₁ => ?_
    refine (loadImage_gives (h₁.files_eq ▸ hload)).andThen fun s₂ h₂ => ?_
    refine (announce_gives _ _ _ _ s₂).andThen fun s₃ h₃ => ?_
    have hw₃ := (h₁.more h₂).more h₃
    refine (PortChoice.portName_gives {} hport (h.wrote hw₃).unmistaken).andThen fun s₄ h₄ => ?_
    have hw₄ := hw₃.more h₄
    refine (Station.ensureNotInterrupted_gives (h.wrote hw₄).uninterrupted).andThen fun s₅ h₅ => ?_
    refine (announce_gives _ _ _ _ s₅).andThen fun s₆ h₆ => ?_
    refine (announce_gives _ _ _ _ s₆).andThen fun s₇ h₇ => ?_
    have hw₇ := ((hw₄.more h₅).more h₆).more h₇
    have hrun := runUpdate_gives {} image port address s₇
    have haddr : addressOf options {} = address := by
      rw [addressOf, haddress]
      rfl
    have htiming : timingOf {} none false = {} := rfl
    rw [updaterOf_eq hw₇] at hrun
    rw [haddr, htiming]
    refine hrun.andThen fun s₈ h₈ => ?_
    have hstop₈ : s₈.serial.stop = false := by
      rw [h₈.serial_eq, stop_update, h.uninterrupted]
    rw [← h₈.serial_eq]
    generalize ((updaterOf s {}).update image port address).1 = result
    rcases result with (e | _) | _
    · refine (Station.ensureNotInterrupted_gives hstop₈).first fun s₉ _ => ?_
      exact .raised _ s₉
    · exact .raised _ s₈
    · dsimp only
      split
      · exact (Station.paint_gives _ _ s₈).first fun s₉ _ => Station.say_gives _ s₉
      · exact .value () s₈

omit [Serial.Driver δ] in
theorem after_wrote {act : StationM δ Unit} {serial : Serial.Attached δ}
    (h : Station.Gives act s (.ok ()) serial) : Station.Wrote s serial (after act s) := by
  obtain ⟨s', he, hw⟩ := h
  rw [after, he]
  exact hw

/-- A run that is carried out ends with the code of its result. -/
theorem main_wrote {args : List String} {i : Invocation} {serial : Serial.Attached δ}
    {r : Except Failure Unit} (hargs : CommandLine.parse args s.env = .ok i)
    (hrun : ∀ s', Station.Wrote s s.serial s' → Station.Gives (run i) s' r serial) :
    Station.Wrote s serial (main args s).station ∧ (main args s).code = exitCode r := by
  have hlog := after_wrote (openLog_gives i.options s)
  obtain ⟨s₁, he, hw⟩ := hrun _ hlog
  unfold main
  rw [hargs]
  simp only [he]
  cases r with
  | ok _ => exact ⟨hlog.trans hw, rfl⟩
  | error f =>
    have hsaid := after_wrote (farewell_gives f s₁)
    rw [hw.serial_eq] at hsaid
    exact ⟨(hlog.trans hw).trans hsaid, rfl⟩

theorem run_gives (hport : options.port = some port) (haddress : options.address = some address)
    (h : s.Undisturbed options.config port) :
    Station.Gives (run ⟨options, .update firmware none false⟩) s
      (resultOf s firmware port address) (libraryOf s firmware port address).2.host := by
  refine (Station.loadConfig_gives h.unconfigured).andThen fun s₁ hw => ?_
  rw [← resultOf_eq hw, ← libraryOf_eq hw]
  exact update_gives hport haddress (h.wrote hw)

/-- With port and address on the command line and nothing else that has a say, the program calls
the driver as the library does, asks nothing, and ends with the code of the outcome. -/
theorem main_agrees {δ : Type} [Serial.Driver δ] {args : List String}
    {s : Station (Serial.Recorder δ)}
    (hargs : CommandLine.parse args s.env = .ok ⟨options, .update firmware none false⟩)
    (hport : options.port = some port) (haddress : options.address = some address)
    (h : s.Undisturbed options.config port) :
    (main args s).station.serial = (libraryOf s firmware port address).2.host ∧
      (∀ o, (libraryOf s firmware port address).1 = some o → (main args s).code = o.code) ∧
      (main args s).station.terminal = s.terminal ∧
      ∃ said, (main args s).station.output = said ++ s.output ∧ ∀ o ∈ said, ¬ o.IsPrompt := by
  have hrun : ∀ s', Station.Wrote s s.serial s' →
      Station.Gives (run ⟨options, .update firmware none false⟩) s'
        (resultOf s firmware port address) (libraryOf s firmware port address).2.host := by
    intro s' hw
    rw [← resultOf_eq hw, ← libraryOf_eq hw]
    exact run_gives hport haddress (h.wrote hw)
  obtain ⟨hwrote, hcode⟩ := main_wrote hargs hrun
  refine ⟨hwrote.serial_eq, fun o ho => hcode.trans (exitCode_resultOf ho), hwrote.terminal_eq, ?_⟩
  obtain ⟨said, hstation, hsaid⟩ := hwrote
  exact ⟨said, congrArg Station.output hstation, hsaid⟩

end Agreement

end Program

/-- A device that takes the small image in blocks of two, with the bytes it answers after each
number of bytes it was sent. -/
def Serial.Bench.rehearsed : Serial.Bench where
  devices :=
    let reply (sequence : Bool) (data : Bytes) := Packet.framed ⟨Channel.seqAddr sequence 0, data⟩
    [{ name := "COM1"
       script := [(6, reply true [0xF0]), (13, reply false [0xF0, 2, 0]), (146, reply true [0xF0]),
         (148, [3]), (149, [0x32]), (277, [0x32]), (280, [7]), (281, [5]), (287, reply true [0xF0])]
       openErrors := [] }]

/-- A station with that device, and the small image in a file. -/
def Station.rehearsed : Station (Serial.Recorder Serial.Bench) where
  env := []
  files := ⟨[], [(["fw.bin"], .file Image.small.bytes)]⟩
  serial := .idle ⟨.rehearsed, []⟩ false
  ports := .ok [.unknown "COM1", .unknown "COM2"]
  terminal := none
  colors := false
  patience := 50
  output := []

namespace Program

def rehearsedArgs : List String := ["--port", "COM1", "--address", "0", "update", "fw.bin"]

theorem main_agrees_rehearsed :
    (libraryOf Station.rehearsed "fw.bin" "COM1" "0").1 = some .ok ∧
      (main rehearsedArgs Station.rehearsed).station.serial =
        (libraryOf Station.rehearsed "fw.bin" "COM1" "0").2.host ∧
      (main rehearsedArgs Station.rehearsed).code = 0 := by
  let options : Options := { port := some "COM1", address := some "0" }
  have hargs : CommandLine.parse rehearsedArgs Station.rehearsed.env =
      .ok ⟨options, .update "fw.bin" none false⟩ := by decide +kernel
  have hundisturbed : Station.rehearsed.Undisturbed options.config "COM1" :=
    ⟨by decide +kernel, rfl, by decide +kernel⟩
  have hok : (libraryOf Station.rehearsed "fw.bin" "COM1" "0").1 = some .ok := by decide +kernel
  obtain ⟨hserial, hcode, -⟩ := main_agrees hargs rfl rfl hundisturbed
  exact ⟨hok, hserial, hcode .ok hok⟩

end Program

end SspUpdate
