import SspUpdate.Proofs.DevicesText
import SspUpdate.Proofs.Precedence

/-!
# Remembering a device

A device is written to a file of ports together with all devices that are
known, and this file is the one that is read from then on, whichever it was
before. So the next configuration knows the same devices in the same order,
and the new one behind them; an attempt that fails changes nothing of what is
read. The file says nothing about the connection: what the file of ports said
before is forgotten, and all else is kept.
-/

namespace SspUpdate

namespace PortConfig

theorem prefix_foldl_addDevice (devices more : List UsbDevice) :
    devices <+: more.foldl addDevice devices := by
  induction more generalizing devices with
  | nil => exact List.prefix_refl devices
  | cons d more ih =>
    refine List.IsPrefix.trans ?_ (ih (addDevice devices d))
    rw [addDevice]
    split
    · exact List.prefix_refl devices
    · exact List.prefix_append devices [d]

theorem nodup_addDevice {devices : List UsbDevice} (h : devices.Nodup) (d : UsbDevice) :
    (addDevice devices d).Nodup := by
  rw [addDevice]
  split
  · exact h
  · next hd =>
    refine List.nodup_append.mpr ⟨h, by simp, fun x hx y hy => ?_⟩
    rw [List.mem_singleton.mp hy]
    exact ne_of_mem_of_not_mem hx hd

theorem nodup_foldl_addDevice {devices : List UsbDevice} (h : devices.Nodup)
    (more : List UsbDevice) : (more.foldl addDevice devices).Nodup := by
  induction more generalizing devices with
  | nil => exact h
  | cons d more ih => exact ih (nodup_addDevice h d)

theorem foldl_addDevice_of_subset {devices more : List UsbDevice} (h : more ⊆ devices) :
    more.foldl addDevice devices = devices := by
  induction more with
  | nil => rfl
  | cons d more ih =>
    obtain ⟨hd, hmore⟩ := List.cons_subset.mp h
    rw [List.foldl_cons, addDevice, if_pos hd, ih hmore]

theorem foldl_addDevice_of_nodup {devices more : List UsbDevice}
    (h : (devices ++ more).Nodup) : more.foldl addDevice devices = devices ++ more := by
  induction more generalizing devices with
  | nil => exact (List.append_nil devices).symm
  | cons d more ih =>
    have hd : d ∉ devices := fun hd =>
      (List.nodup_append.mp h).2.2 d hd d List.mem_cons_self rfl
    rw [List.append_cons] at h
    rw [List.foldl_cons, addDevice, if_neg hd, ih h, ← List.append_cons]

/-- Devices of which the first ones are there already are added behind these, in their order. -/
theorem foldl_addDevice_of_prefix {devices all : List UsbDevice} (h : devices <+: all)
    (hall : all.Nodup) : all.foldl addDevice devices = all := by
  obtain ⟨more, rfl⟩ := h
  rw [List.foldl_append, foldl_addDevice_of_subset (List.Subset.refl devices),
    foldl_addDevice_of_nodup hall]

end PortConfig

namespace Sources

theorem nodup_usbDevices_overlay {c : Config} (h : c.port.usbDevices.Nodup)
    (later : Option Config) : (c.overlay later).port.usbDevices.Nodup := by
  cases later with
  | none => exact h
  | some later => exact PortConfig.nodup_foldl_addDevice h later.port.usbDevices

theorem nodup_usbDevices_base (s : Sources) : s.base.port.usbDevices.Nodup :=
  nodup_usbDevices_overlay (nodup_usbDevices_overlay List.nodup_nil s.globalConfig) s.localConfig

/-- No device is known twice. -/
theorem nodup_usbDevices_config (s : Sources) : s.config.port.usbDevices.Nodup :=
  nodup_usbDevices_overlay s.nodup_usbDevices_base _

theorem usbDevices_config_of_ports {s : Sources} {ports : PortConfig} (h : s.ports = some ports) :
    s.config.port.usbDevices =
      ports.usbDevices.foldl PortConfig.addDevice s.base.port.usbDevices := by
  rw [config, h]
  rfl

theorem base_prefix_config (s : Sources) :
    s.base.port.usbDevices <+: s.config.port.usbDevices := by
  cases h : s.ports with
  | none =>
    rw [config, h]
    exact List.prefix_refl _
  | some ports =>
    rw [usbDevices_config_of_ports h]
    exact PortConfig.prefix_foldl_addDevice _ _

/-- Files after devices have been written: the configurations are as before, and the file of
ports that is read has these devices and nothing else. -/
structure Rewritten (s : Sources) (devices : List UsbDevice) (after : Sources) : Prop where
  globalConfig : after.globalConfig = s.globalConfig
  localConfig : after.localConfig = s.localConfig
  ports : after.ports = some { usbDevices := devices }

theorem Rewritten.usbDevices_config {s after : Sources} {devices : List UsbDevice}
    (h : s.Rewritten devices after) (hahead : s.config.port.usbDevices <+: devices)
    (hdevices : devices.Nodup) : after.config.port.usbDevices = devices := by
  have hbase : after.base = s.base := by rw [base, base, h.globalConfig, h.localConfig]
  rw [usbDevices_config_of_ports h.ports, hbase]
  exact PortConfig.foldl_addDevice_of_prefix (s.base_prefix_config.trans hahead) hdevices

/-- Without a connection in the file of ports, the configurations decide. -/
theorem Rewritten.get?_config {s after : Sources} {devices : List UsbDevice}
    (h : s.Rewritten devices after) (x : Setting) : after.config.get? x = s.configured x := by
  have hports : PortConfig.get? { usbDevices := devices } x = none := by cases x <;> rfl
  rw [Sources.get?_config, chosen, h.ports, Option.bind_some, hports, Option.orElse_eq_orElse,
    Option.orElse_none]
  rw [configured, configured, h.globalConfig, h.localConfig]

/-- The setting belongs to the connection, and the file of ports that is read sets it to
something else than the configurations do. -/
def Forgotten (s : Sources) (x : Setting) : Prop :=
  (x = .serial ∨ x = .address) ∧
    ∃ v, s.ports.bind (·.get? x) = some v ∧ s.configured x ≠ some v

theorem configured_eq_chosen_iff (s : Sources) (x : Setting) :
    s.configured x = s.chosen x ↔ ¬ s.Forgotten x := by
  rw [chosen, Forgotten]
  cases hv : s.ports.bind (·.get? x) with
  | none => simp
  | some v =>
    obtain ⟨ports, -, hsets⟩ := Option.bind_eq_some_iff.mp hv
    simp [PortConfig.eq_of_get? hsets]

end Sources

namespace Files

theorem text?_of_not_exists {f : Files} {path : String} (h : f.exists? path = false) :
    f.text? path = none := by
  unfold exists? at h
  unfold text? readText read
  cases hfind : f.find path with
  | error e => rfl
  | ok node => simp [hfind, Except.toOption] at h

end Files

namespace Config

theorem isName_config : Path.IsName "config.toml" :=
  ⟨by decide, by decide, by decide, by decide⟩

theorem isName_ports : Path.IsName "ports.toml" :=
  ⟨by decide, by decide, by decide, by decide⟩

theorem isName_localFile : Path.IsName localFile :=
  ⟨by decide, by decide, by decide, by decide⟩

theorem isName_localPorts : Path.IsName localPorts :=
  ⟨by decide, by decide, by decide, by decide⟩

/-- The tree is one, and the path of the user's directory goes up only from directories that are
there. Otherwise making it could open a way to files that could not be read before. -/
structure Steady (files : Files) (env : Environment) : Prop where
  closed : files.Closed
  climbs : ∀ dir ∈ env.ownDirectory?, files.Climbs (files.start dir) (Path.names dir)

theorem steady_rehearsed (here own : List (String × String)) :
    Steady (Files.rehearsed here own) [("HOME", "/work/home")] := by
  refine ⟨Files.closed_rehearsed here own, fun dir hdir => ?_⟩
  obtain rfl : "/work/home/.config/sspflash" = dir := Option.some.inj hdir
  exact Files.climbs_of_up_not_mem (by decide) _

/-- The file is the local one, or the user's if there is no local one. -/
theorem portsFile_eq_ok {files made : Files} {env : Environment} {path : String}
    (h : portsFile files env = .ok (path, made)) :
    (path = localPorts ∧ made = files) ∨
      ∃ dir, env.ownDirectory? = some dir ∧ files.exists? localPorts = false ∧
        files.ensureDirectory dir = .ok made ∧ path = Path.join dir "ports.toml" := by
  unfold portsFile at h
  split at h
  · cases h
    exact .inl ⟨rfl, rfl⟩
  · next hlocal =>
    split at h
    · cases h
      exact .inl ⟨rfl, rfl⟩
    · next dir hdir =>
      split at h
      · cases h
      · next made' hmake =>
        cases h
        rw [Bool.or_eq_true, not_or, Bool.not_eq_true] at hlocal
        exact .inr ⟨dir, hdir, hlocal.1, hmake, rfl⟩

/-- A file of ports has another name than a configuration. -/
theorem endsIn_of_portsFile {files made : Files} {env : Environment} {path : String}
    (hfile : portsFile files env = .ok (path, made)) :
    ∃ name, Path.IsName name ∧ Path.EndsIn path name ∧ name ≠ "config.toml" ∧
      name ≠ localFile := by
  obtain ⟨rfl, -⟩ | ⟨dir, -, -, -, rfl⟩ := portsFile_eq_ok hfile
  · exact ⟨localPorts, isName_localPorts, isName_localPorts.endsIn_self, by decide, by decide⟩
  · exact ⟨"ports.toml", isName_ports, isName_ports.endsIn_join dir, by decide, by decide⟩

namespace Steady

variable {files made after : Files} {env : Environment} {path : String}

/-- A directory that is made for the file changes nothing of what is read. -/
theorem text?_of_portsFile (h : Steady files env)
    (hfile : portsFile files env = .ok (path, made)) {name : String} (hname : Path.IsName name) :
    made.text? name = files.text? name ∧
      ∀ dir ∈ env.ownDirectory?,
        made.text? (Path.join dir name) = files.text? (Path.join dir name) := by
  obtain ⟨-, rfl⟩ | ⟨dir, -, -, hmake, -⟩ := portsFile_eq_ok hfile
  · exact ⟨rfl, fun _ _ => rfl⟩
  · have hextends := h.closed.ensureDirectory hmake
    exact ⟨hextends.text name (Files.climbs_name hname files _),
      fun dir hdir => hextends.text _ ((h.climbs dir hdir).join hname)⟩

theorem sources_of_portsFile (h : Steady files env)
    (hfile : portsFile files env = .ok (path, made)) : sources made env = sources files env := by
  have hconfig := (h.text?_of_portsFile hfile isName_config).2
  have hports := (h.text?_of_portsFile hfile isName_ports).2
  have hlocalFile := (h.text?_of_portsFile hfile isName_localFile).1
  have hlocalPorts := (h.text?_of_portsFile hfile isName_localPorts).1
  unfold sources globalFile? globalPorts?
  rw [hlocalFile, hlocalPorts]
  cases hdir : env.ownDirectory? with
  | none => rfl
  | some dir =>
    simp only [Option.map_some, Option.bind_some, hconfig dir hdir, hports dir hdir]

/-- What is written is read next, and the configurations are read as before. -/
theorem rewritten (h : Steady files env) {devices : List UsbDevice}
    (hfile : portsFile files env = .ok (path, made))
    (hwrite : made.write path (Bytes.ofText (PortConfig.renderDevices devices)) = .ok after) :
    (sources files env).Rewritten devices (sources after env) := by
  obtain ⟨written, hwritten, hends, hconfig, hlocal⟩ := endsIn_of_portsFile hfile
  have hread : (after.text? path).bind PortConfig.parse? = some { usbDevices := devices } := by
    rw [Files.text?_write_self hwrite, Bytes.text?_ofText, Option.bind_some,
      PortConfig.parse?_renderDevices]
  have hmade := h.sources_of_portsFile hfile
  refine ⟨?_, ?_, ?_⟩
  · rw [← hmade]
    simp only [sources, globalFile?]
    cases env.ownDirectory? with
    | none => rfl
    | some dir =>
      have hkept := Files.text?_write_of_endsIn hwrite hwritten isName_config hends
        (isName_config.endsIn_join dir) hconfig
      simp only [Option.map_some, Option.bind_some, hkept]
  · rw [← hmade]
    have hkept := Files.text?_write_of_endsIn hwrite hwritten isName_localFile hends
      isName_localFile.endsIn_self hlocal
    simp only [sources, hkept]
  · obtain ⟨rfl, -⟩ | ⟨dir, hdir, habsent, -, rfl⟩ := portsFile_eq_ok hfile
    · simp [Sources.ports, sources, hread]
    · have hkept := Files.text?_write_of_endsIn hwrite isName_ports isName_localPorts
        (isName_ports.endsIn_join dir) isName_localPorts.endsIn_self (by decide)
      rw [(h.text?_of_portsFile hfile isName_localPorts).1,
        Files.text?_of_not_exists habsent] at hkept
      simp [Sources.ports, sources, hkept, globalPorts?, hdir, hread]

end Steady

/-- What can come of an attempt to remember a device. -/
inductive Remembers (c : Config) (files : Files) (env : Environment) (device : UsbDevice) :
    Except FileFault Unit → Files → Prop where
  | known (hknown : device ∈ c.port.usbDevices) : Remembers c files env device (.ok ()) files
  | noFile {e : FileFault} (hnew : device ∉ c.port.usbDevices)
      (hfile : portsFile files env = .error e) : Remembers c files env device (.error e) files
  | notWritten {path : String} {made : Files} {e : FileFault} (hnew : device ∉ c.port.usbDevices)
      (hfile : portsFile files env = .ok (path, made))
      (hwrite : made.write path (Bytes.ofText
        (PortConfig.renderDevices (c.port.usbDevices ++ [device]))) = .error e) :
      Remembers c files env device (.error e) made
  | written {path : String} {made after : Files} (hnew : device ∉ c.port.usbDevices)
      (hfile : portsFile files env = .ok (path, made))
      (hwrite : made.write path (Bytes.ofText
        (PortConfig.renderDevices (c.port.usbDevices ++ [device]))) = .ok after) :
      Remembers c files env device (.ok ()) after

theorem remembers_remember (c : Config) (files : Files) (env : Environment) (device : UsbDevice) :
    Remembers c files env device (remember c files env device).result
      (remember c files env device).files := by
  unfold remember
  split
  · next hknown => exact .known hknown
  · next hnew =>
    split
    · next e hfile => exact .noFile hnew hfile
    · next path made hfile =>
      dsimp only
      split
      · next e hwrite => exact .notWritten hnew hfile hwrite
      · next after hwrite => exact .written hnew hfile hwrite

/-- One run of the program: it loads its configuration and remembers a device. -/
def round (env : Environment) (files : Files) (device : UsbDevice) : Remembered :=
  remember (load files env).1 files env device

variable {files : Files} {env : Environment} {device : UsbDevice}

/-- A failure changes nothing of what is read. -/
theorem Steady.sources_of_error (h : Steady files env) {e : FileFault}
    (herror : (Config.round env files device).result = .error e) :
    sources (Config.round env files device).files env = sources files env := by
  have hstep := remembers_remember (load files env).1 files env device
  rw [← Config.round, herror] at hstep
  generalize (Config.round env files device).files = after at hstep ⊢
  cases hstep with
  | noFile hnew hfile => rfl
  | notWritten hnew hfile hwrite => exact h.sources_of_portsFile hfile

/-- After a success the device is known already, or written behind the known ones. -/
theorem Steady.sources_of_ok (h : Steady files env)
    (hok : (Config.round env files device).result = .ok ()) :
    let known := (load files env).1.port.usbDevices
    let after := sources (Config.round env files device).files env
    (device ∈ known ∧ after = sources files env) ∨
      (device ∉ known ∧ (sources files env).Rewritten (known ++ [device]) after) := by
  have hstep := remembers_remember (load files env).1 files env device
  rw [← Config.round, hok] at hstep
  generalize (Config.round env files device).files = after at hstep ⊢
  cases hstep with
  | known hknown => exact .inl ⟨hknown, rfl⟩
  | written hnew hfile hwrite => exact .inr ⟨hnew, h.rewritten hfile hwrite⟩

theorem nodup_usbDevices_load (files : Files) (env : Environment) :
    (load files env).1.port.usbDevices.Nodup := by
  rw [load_eq]
  exact (sources files env).nodup_usbDevices_config

/-- The step: a device is added if its round succeeds. -/
theorem Steady.usbDevices_round (h : Steady files env) (device : UsbDevice) :
    (load (Config.round env files device).files env).1.port.usbDevices =
      match (Config.round env files device).result with
      | .ok () => PortConfig.addDevice (load files env).1.port.usbDevices device
      | .error _ => (load files env).1.port.usbDevices := by
  cases hresult : (Config.round env files device).result with
  | error e => rw [load_eq, h.sources_of_error hresult, ← load_eq]
  | ok success =>
    have hnodup := PortConfig.nodup_addDevice (nodup_usbDevices_load files env) device
    dsimp only
    rw [PortConfig.addDevice] at hnodup ⊢
    obtain ⟨hd, hsame⟩ | ⟨hd, hrewritten⟩ := h.sources_of_ok hresult
    · rw [if_pos hd, load_eq, hsame, ← load_eq]
    · rw [if_neg hd] at hnodup ⊢
      rw [load_eq (Config.round env files device).files]
      refine hrewritten.usbDevices_config ?_ hnodup
      rw [← load_eq]
      exact List.prefix_append _ [device]

/-- No device is known twice. Once a device is remembered, the next configuration knows the same
devices in the same order, and behind them the new one if it was not known. -/
theorem remember_appends (files : Files) (env : Environment) (device : UsbDevice) :
    let known := (load files env).1.port.usbDevices
    let remembered := remember (load files env).1 files env device
    known.Nodup ∧ (Steady files env → remembered.result = .ok () →
      (load remembered.files env).1.port.usbDevices =
        if device ∈ known then known else known ++ [device]) := by
  intro known remembered
  refine ⟨nodup_usbDevices_load files env, fun h hok => ?_⟩
  have hstep := h.usbDevices_round device
  rw [Config.round, hok] at hstep
  exact hstep

/-- The local file of ports takes the place of the user's, and its devices are kept. -/
theorem remember_appends_rehearsed :
    let files := Files.rehearsed [("sspflash.toml", "[[port.usb_device]]\nvid = 1\npid = 2\n")]
      [("ports.toml", "[[usb_device]]\nvid = 3\npid = 4\n")]
    let env : Environment := [("HOME", "/work/home")]
    Steady files env ∧ (load files env).1.port.usbDevices = [⟨1, 2⟩, ⟨3, 4⟩] ∧
      (remember (load files env).1 files env ⟨5, 6⟩).result = .ok () ∧
      (load (remember (load files env).1 files env ⟨5, 6⟩).files env).1.port.usbDevices =
        [⟨1, 2⟩, ⟨3, 4⟩, ⟨5, 6⟩] := by
  intro files env
  have hsteady : Steady files env := steady_rehearsed _ _
  have hknown : (load files env).1.port.usbDevices = [⟨1, 2⟩, ⟨3, 4⟩] := by decide +kernel
  have hok : (remember (load files env).1 files env ⟨5, 6⟩).result = .ok () := by decide +kernel
  refine ⟨hsteady, hknown, hok, ?_⟩
  rw [(remember_appends files env ⟨5, 6⟩).2 hsteady hok, hknown]
  decide

/-- The path of the user's directory goes up from a directory that is not there. Making it lets
the user's configuration be read, which has one more device. -/
theorem remember_uncovers :
    let files := Files.rehearsed []
      [("config.toml", "[[port.usb_device]]\nvid = 1\npid = 2\n")]
    let env : Environment := [("HOME", "new/../home")]
    let known := (load files env).1.port.usbDevices
    let remembered := remember (load files env).1 files env ⟨5, 6⟩
    let next := (load remembered.files env).1.port.usbDevices
    files.Closed ∧ remembered.result = .ok () ∧ known = [] ∧ next = [⟨1, 2⟩, ⟨5, 6⟩] ∧
      next ≠ if ⟨5, 6⟩ ∈ known then known else known ++ [⟨5, 6⟩] :=
  ⟨Files.closed_rehearsed _ _, by decide +kernel⟩

/-- Remembering a device keeps a setting, unless the device is new and the file of ports that is
read sets the setting to something else than the configurations do. -/
theorem remember_keeps_iff (h : Steady files env)
    (hok : (remember (load files env).1 files env device).result = .ok ()) (x : Setting) :
    (load (remember (load files env).1 files env device).files env).1.get? x =
        (load files env).1.get? x ↔
      device ∈ (load files env).1.port.usbDevices ∨ ¬ (sources files env).Forgotten x := by
  rw [← Config.round] at hok ⊢
  obtain ⟨hd, hsame⟩ | ⟨hd, hrewritten⟩ := h.sources_of_ok hok
  · rw [load_eq, hsame, ← load_eq]
    exact iff_of_true rfl (.inl hd)
  · rw [load_eq (Config.round env files device).files, hrewritten.get?_config x,
      load_eq files env, Sources.get?_config, Sources.configured_eq_chosen_iff,
      or_iff_right (by rwa [← load_eq])]

/-- The local file of ports is rewritten without its connection, of which the local configuration
has the port but not the address. -/
theorem remember_keeps_rehearsed :
    let files := Files.rehearsed
      [("sspflash.toml", "[port.connection]\nserial = \"COM1\"\n"),
        ("sspflash_ports.toml", "[connection]\nserial = \"COM1\"\naddress = \"16\"\n")] []
    let env : Environment := [("HOME", "/work/home")]
    let remembered := remember (load files env).1 files env ⟨5, 6⟩
    Steady files env ∧ remembered.result = .ok () ∧
      (load remembered.files env).1.get? .serial = (load files env).1.get? .serial ∧
      (load remembered.files env).1.get? .address ≠ (load files env).1.get? .address := by
  intro files env remembered
  have hsteady : Steady files env := steady_rehearsed _ _
  have hok : remembered.result = .ok () := by decide +kernel
  have hnew : ⟨5, 6⟩ ∉ (load files env).1.port.usbDevices := by decide +kernel
  refine ⟨hsteady, hok, (remember_keeps_iff hsteady hok .serial).mpr (.inr ?_), fun hkept => ?_⟩
  · rintro ⟨-, v, hports, hconfigured⟩
    have hserial : (sources files env).ports.bind (·.get? .serial) =
      (sources files env).configured .serial := by decide +kernel
    exact hconfigured (hserial ▸ hports)
  · refine ((remember_keeps_iff hsteady hok .address).mp hkept).elim hnew fun hforgotten => ?_
    exact hforgotten ⟨.inr rfl, "16", by decide +kernel, by decide +kernel⟩

/-- The file of ports names a port. Once a device is remembered, no port is named any more. -/
theorem remember_forgets_serial :
    let files := Files.rehearsed [("sspflash_ports.toml", "[connection]\nserial = \"COM1\"\n")] []
    let env : Environment := [("HOME", "/work/home")]
    let remembered := remember (load files env).1 files env ⟨1, 2⟩
    remembered.result = .ok () ∧ (load files env).1.get? .serial = some "COM1" ∧
      remembered.config.get? .serial = some "COM1" ∧
      (load remembered.files env).1.get? .serial = none := by
  decide +kernel

end Config

end SspUpdate
