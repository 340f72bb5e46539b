import SspUpdate.Proofs.Remembering

/-!
# Saves that fail

A device that is in memory is known, and is not written again. It comes into
memory before it is written. So an attempt that finds no file to write to
leaves no trace and can be made again, while after one that could not write
every other attempt is said to succeed, and writes nothing.
-/

namespace SspUpdate

namespace Config

variable {c : Config} {files : Files} {env : Environment} {device : UsbDevice}

/-- The configuration with one more device. -/
def withDevice (c : Config) (device : UsbDevice) : Config :=
  { c with port := { c.port with usbDevices := c.port.usbDevices ++ [device] } }

theorem withDevice_ne (c : Config) (device : UsbDevice) : c.withDevice device ≠ c := by
  intro h
  have hlength := congrArg (fun c : Config => c.port.usbDevices.length) h
  simp [withDevice] at hlength

theorem mem_withDevice (c : Config) (device : UsbDevice) :
    device ∈ (c.withDevice device).port.usbDevices :=
  List.mem_append_right _ List.mem_cons_self

/-- The directory of the file of ports cannot be made. -/
def NoFile (files : Files) (env : Environment) : Prop := ∃ e, portsFile files env = .error e

theorem remember_known (h : device ∈ c.port.usbDevices) (files : Files) (env : Environment) :
    remember c files env device = ⟨.ok (), c, files, []⟩ := by
  rw [remember, if_pos h]

theorem remember_noFile {e : FileFault} (hnew : device ∉ c.port.usbDevices)
    (h : portsFile files env = .error e) :
    remember c files env device = ⟨.error e, c, files, []⟩ := by
  rw [remember, if_neg hnew, h]

/-- With a file to write to, the device comes into memory, whether it is written or not. -/
theorem config_remember (hnew : device ∉ c.port.usbDevices) (h : ¬ NoFile files env) :
    (remember c files env device).config = c.withDevice device := by
  rw [remember, if_neg hnew]
  split
  · next e hfile => exact absurd ⟨e, hfile⟩ h
  · dsimp only
    split <;> rfl

/-- An attempt succeeds if and only if it writes the device. -/
def Saves (c : Config) (device : UsbDevice) : Prop :=
  ∀ files env, (remember c files env device).result = .ok () ↔
    ∃ path made after, portsFile files env = .ok (path, made) ∧
      made.write path (Bytes.ofText (PortConfig.renderDevices
        (PortConfig.addDevice c.port.usbDevices device))) = .ok after ∧
      (remember c files env device).files = after

/-- Only a device that is not in memory is written. -/
theorem saves_iff : Saves c device ↔ device ∉ c.port.usbDevices := by
  constructor
  · intro h hknown
    obtain ⟨path, made, after, -, hwrite, hafter⟩ :=
      (h ⟨[], []⟩ []).mp (by rw [remember_known hknown])
    obtain ⟨place, -, -, rfl⟩ := Files.write_eq_ok hwrite
    rw [remember_known hknown] at hafter
    exact absurd (congrArg Files.nodes hafter) (List.cons_ne_nil _ _).symm
  · intro hnew files env
    rw [PortConfig.addDevice, if_neg hnew]
    constructor
    · intro hok
      have hstep := remembers_remember c files env device
      rw [hok] at hstep
      generalize (remember c files env device).files = after at hstep ⊢
      cases hstep with
      | known hknown => exact absurd hknown hnew
      | written _ hfile hwrite => exact ⟨_, _, after, hfile, hwrite, rfl⟩
    · rintro ⟨path, made, after, hfile, hwrite, -⟩
      rw [remember, if_neg hnew, hfile]
      dsimp only
      rw [hwrite]

/-- Attempts at one device, each on the files and in the environment that it finds. -/
def attempts (device : UsbDevice) : Config → List (Files × Environment) → List Remembered
  | _, [] => []
  | c, (files, env) :: later =>
    let remembered := remember c files env device
    remembered :: attempts device remembered.config later

/-- Once the device is in memory, attempts succeed and leave the files as they are. -/
theorem attempts_known (h : device ∈ c.port.usbDevices) (later : List (Files × Environment)) :
    attempts device c later = later.map fun (files, _) => ⟨.ok (), c, files, []⟩ := by
  induction later with
  | nil => rfl
  | cons attempt later ih => rw [attempts, remember_known h, ih, List.map_cons]

/-- Attempts without a file leave no trace. -/
theorem attempts_noFile (hnew : device ∉ c.port.usbDevices)
    (before later : List (Files × Environment))
    (h : ∀ attempt ∈ before, NoFile attempt.1 attempt.2) :
    attempts device c (before ++ later) =
      (before.map fun (files, env) => remember c files env device) ++ attempts device c later := by
  induction before with
  | nil => rfl
  | cons attempt before ih =>
    obtain ⟨hfirst, hbefore⟩ := List.forall_mem_cons.mp h
    obtain ⟨e, hfile⟩ := hfirst
    have hkept : (remember c attempt.1 attempt.2 device).config = c := by
      rw [remember_noFile hnew hfile]
    rw [List.cons_append, attempts, hkept, ih hbefore]
    rfl

/-- Of any attempts, only the first that has a file counts. -/
theorem attempts_split (hnew : device ∉ c.port.usbDevices)
    (before later : List (Files × Environment))
    (hbefore : ∀ attempt ∈ before, NoFile attempt.1 attempt.2) (hfirst : ¬ NoFile files env) :
    attempts device c (before ++ (files, env) :: later) =
      (before.map fun (files, env) => remember c files env device) ++
        remember c files env device ::
          later.map fun (files, _) => ⟨.ok (), c.withDevice device, files, []⟩ := by
  rw [attempts_noFile hnew before _ hbefore, attempts, config_remember hnew hfirst,
    attempts_known (c.mem_withDevice device)]

/-- An attempt that fails leaves no trace in memory just if there was no file to write to. Then
the next attempt goes as if it were the first. Otherwise the device stays in memory, and all other
attempts succeed without writing it. -/
theorem failed_save_iff {e : FileFault} (h : (remember c files env device).result = .error e) :
    let failed := remember c files env device
    (failed.config = c ↔ NoFile files env) ∧ (Saves failed.config device ↔ NoFile files env) ∧
      (NoFile files env → ∀ later, attempts device c ((files, env) :: later) =
        failed :: attempts device c later) ∧
      (¬ NoFile files env → ∀ later, attempts device c ((files, env) :: later) =
        failed :: later.map fun (files, _) => ⟨.ok (), c.withDevice device, files, []⟩) := by
  intro failed
  have hnew : device ∉ c.port.usbDevices := by
    intro hknown
    rw [remember_known hknown] at h
    cases h
  have hkept (hfile : NoFile files env) : failed.config = c := by
    obtain ⟨e, he⟩ := hfile
    exact congrArg Remembered.config (remember_noFile hnew he)
  have hadded (hfile : ¬ NoFile files env) : failed.config = c.withDevice device :=
    config_remember hnew hfile
  refine ⟨⟨fun hsame => ?_, hkept⟩, ⟨fun hsaves => ?_, fun hfile => ?_⟩, ?_, ?_⟩
  · by_contra hfile
    exact c.withDevice_ne device ((hadded hfile).symm.trans hsame)
  · by_contra hfile
    rw [saves_iff, hadded hfile] at hsaves
    exact hsaves (c.mem_withDevice device)
  · rwa [hkept hfile, saves_iff]
  · intro hfile later
    exact attempts_noFile hnew [(files, env)] later (by simpa using hfile)
  · intro hfile later
    exact attempts_split hnew [] later (by simp) hfile

/-- The local file of ports is a directory, so that there is a file but it cannot be written. -/
theorem failed_save_iff_directory :
    let files := (Files.rehearsed [] []).put ["work", localPorts] .directory
    let env : Environment := [("HOME", "/work/home")]
    let failed := remember {} files env ⟨1, 2⟩
    failed.result = .error .isDirectory ∧ ¬ NoFile files env ∧ failed.config ≠ {} ∧
      ¬ Saves failed.config ⟨1, 2⟩ ∧ ∀ later, attempts ⟨1, 2⟩ {} ((files, env) :: later) =
        failed :: later.map fun (files, _) => ⟨.ok (), withDevice {} ⟨1, 2⟩, files, []⟩ := by
  intro files env failed
  have herror : failed.result = .error .isDirectory := by decide +kernel
  have hfile : ¬ NoFile files env := by
    rintro ⟨e, he⟩
    have hthere : files.exists? localPorts = true := by decide +kernel
    rw [portsFile, hthere] at he
    cases he
  obtain ⟨hkept, hsaves, -, hothers⟩ := failed_save_iff herror
  exact ⟨herror, hfile, mt hkept.mp hfile, mt hsaves.mp hfile, hothers hfile⟩

/-- The local file of ports is a directory. The device stays in memory, and once the directory has
gone, saving the device succeeds without a file. -/
theorem failed_write_known :
    let files := Files.rehearsed [] []
    let env : Environment := [("HOME", "/work/home")]
    let failed := remember {} (files.put ["work", localPorts] .directory) env ⟨1, 2⟩
    let again := remember failed.config files env ⟨1, 2⟩
    failed.result = .error .isDirectory ∧ failed.config ≠ {} ∧ again.result = .ok () ∧
      again.files.exists? localPorts = false ∧
      again.files.exists? "/work/home/.config/sspflash/ports.toml" = false := by
  decide +kernel

end Config

end SspUpdate
