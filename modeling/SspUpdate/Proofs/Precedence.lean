import SspUpdate.Config.Store
import SspUpdate.Proofs.FileTree

/-!
# Which file a setting comes from

Four files can set something: a configuration and a file of remembered ports,
both in the working directory and in the user's. Of the files of ports only
one is read, the local one if it is valid, and it goes over both
configurations. So local files go before the user's in all but one case: what
the user's file of ports sets goes over the local configuration if there is no
valid local file of ports.
-/

namespace SspUpdate

/-- What configuration files can set. -/
inductive Setting where
  | serial
  | address
  | resyncTimeoutSecs
  | reopenDelayMs
  | ackTimeoutMs
  deriving DecidableEq, Repr

/-- The connection is told in text, times in numbers. -/
abbrev Setting.Value : Setting → Type
  | serial => String
  | address => String
  | resyncTimeoutSecs => Nat
  | reopenDelayMs => Nat
  | ackTimeoutMs => Nat

def Config.get? (c : Config) : (x : Setting) → Option x.Value
  | .serial => c.port.connection.serial
  | .address => c.port.connection.address
  | .resyncTimeoutSecs => c.update.resyncTimeoutSecs
  | .reopenDelayMs => c.update.reopenDelayMs
  | .ackTimeoutMs => c.update.ackTimeoutMs

/-- What a file of ports sets. -/
def PortConfig.get? (ports : PortConfig) (x : Setting) : Option x.Value :=
  Config.get? { port := ports } x

/-- A file of ports sets nothing but the connection. -/
theorem PortConfig.eq_of_get? {ports : PortConfig} {x : Setting} {v : x.Value}
    (h : ports.get? x = some v) : x = .serial ∨ x = .address := by
  cases x with
  | serial => exact .inl rfl
  | address => exact .inr rfl
  | resyncTimeoutSecs => cases h
  | reopenDelayMs => cases h
  | ackTimeoutMs => cases h

/-- What the four files say, each as far as it is valid. -/
structure Sources where
  globalConfig : Option Config
  localConfig : Option Config
  localPorts : Option PortConfig
  globalPorts : Option PortConfig

namespace Config

/-- The configuration with one more file over it, if that is valid. -/
def overlay (c : Config) (later : Option Config) : Config := later.elim c c.merge

theorem get?_merge (c later : Config) (x : Setting) :
    (c.merge later).get? x = (later.get? x <|> c.get? x) := by
  cases x <;> rfl

theorem get?_overlay (c : Config) (later : Option Config) (x : Setting) :
    (c.overlay later).get? x = (later.bind (·.get? x) <|> c.get? x) := by
  cases later with
  | none => simp [overlay]
  | some later => exact get?_merge c later x

end Config

namespace Sources

/-- The file of ports that is read. -/
def ports (s : Sources) : Option PortConfig := s.localPorts <|> s.globalPorts

/-- What the local files give for a setting. -/
def localValues (s : Sources) (x : Setting) : List x.Value :=
  (s.localPorts.bind (·.get? x)).toList ++ (s.localConfig.bind (·.get? x)).toList

/-- What the user's files give for a setting. -/
def globalValues (s : Sources) (x : Setting) : List x.Value :=
  (s.globalPorts.bind (·.get? x)).toList ++ (s.globalConfig.bind (·.get? x)).toList

/-- A value is chosen with local files before the user's. -/
structure LocalFirst (s : Sources) (x : Setting) (chosen : Option x.Value) : Prop where
  /-- If a local file sets it, then the value is one that a local file gives. -/
  local_used : s.localValues x ≠ [] → ∃ v ∈ s.localValues x, chosen = some v
  /-- Any other value comes from a file of the user's, and no local file sets it. -/
  global_last : ∀ v, chosen = some v → v ∉ s.localValues x →
    v ∈ s.globalValues x ∧ s.localValues x = []

/-- The setting belongs to the connection, and the user's file of ports is read and sets it to
something else than the local configuration. -/
def Overridden (s : Sources) (x : Setting) : Prop :=
  (x = .serial ∨ x = .address) ∧ s.localPorts = none ∧ ∃ v w,
    s.globalPorts.bind (·.get? x) = some v ∧ s.localConfig.bind (·.get? x) = some w ∧ v ≠ w

/-- What the configurations alone give for a setting. -/
def configured (s : Sources) (x : Setting) : Option x.Value :=
  s.localConfig.bind (·.get? x) <|> s.globalConfig.bind (·.get? x)

/-- The file of ports goes first, whichever it is. -/
def chosen (s : Sources) (x : Setting) : Option x.Value :=
  s.ports.bind (·.get? x) <|> s.configured x

/-- The first of the values is chosen with local files first, if those of local files come first. -/
theorem localFirst_head? (s : Sources) (x : Setting) (others : List x.Value)
    (h : ∀ v ∈ others, v ∈ s.globalValues x) :
    s.LocalFirst x (s.localValues x ++ others).head? := by
  constructor
  · intro hlocal
    obtain ⟨v, rest, hv⟩ := List.exists_cons_of_ne_nil hlocal
    exact ⟨v, by simp [hv], by simp [hv]⟩
  · intro v hchosen hv
    cases hlocal : s.localValues x with
    | nil =>
      rw [hlocal, List.nil_append] at hchosen
      exact ⟨h v (List.mem_of_mem_head? hchosen), rfl⟩
    | cons w rest =>
      rw [hlocal, List.cons_append, List.head?_cons, Option.some.injEq] at hchosen
      exact absurd (by rw [hlocal, hchosen]; exact List.mem_cons_self) hv

theorem orElse_eq_head? {α : Type} (a b c : Option α) :
    (a <|> b <|> c) = (a.toList ++ b.toList ++ c.toList).head? := by
  cases a <;> cases b <;> cases c <;> rfl

/-- The one case in which a file of the user's goes before a local one. -/
theorem localFirst_chosen_iff (s : Sources) (x : Setting) :
    s.LocalFirst x (s.chosen x) ↔ ¬ s.Overridden x := by
  have hchosen := orElse_eq_head? (s.ports.bind (·.get? x)) (s.localConfig.bind (·.get? x))
    (s.globalConfig.bind (·.get? x))
  have hconfigs := s.localFirst_head? x (s.globalConfig.bind (·.get? x)).toList
    fun v hv => List.mem_append_right _ hv
  rw [chosen, configured, hchosen]
  cases hlocal : s.localPorts with
  | some own =>
    have hnot : ¬ s.Overridden x := by simp [Overridden, hlocal]
    have hports : s.ports = s.localPorts := by simp [ports, hlocal]
    rw [hports]
    exact iff_of_true hconfigs hnot
  | none =>
    have hports : s.ports = s.globalPorts := by simp [ports, hlocal]
    have hvalues : s.localValues x = (s.localConfig.bind (·.get? x)).toList := by
      simp [localValues, hlocal]
    rw [hports, ← hvalues]
    cases hv : s.globalPorts.bind (·.get? x) with
    | none => exact iff_of_true hconfigs (by simp [Overridden, hv])
    | some v =>
      cases hw : s.localConfig.bind (·.get? x) with
      | none =>
        have hfirst := s.localFirst_head? x [v] (by simp [globalValues, hv])
        rw [hvalues, hw] at hfirst
        exact iff_of_true hfirst (by simp [Overridden, hw])
      | some w =>
        have hfirst : s.LocalFirst x (some v) ↔ v = w := by
          constructor
          · intro h
            obtain ⟨u, hu, hvu⟩ := h.local_used (by simp [hvalues, hw])
            rw [hvalues, hw, Option.toList_some, List.mem_singleton] at hu
            exact (Option.some.inj hvu).trans hu
          · rintro rfl
            have h := s.localFirst_head? x [] (by simp)
            rwa [hvalues, hw] at h
        obtain ⟨own, -, hsets⟩ := Option.bind_eq_some_iff.mp hv
        rw [Overridden]
        simp [hlocal, hv, hw, hfirst, PortConfig.eq_of_get? hsets]

/-- What the configurations come to without a file of ports. -/
def base (s : Sources) : Config := (Config.overlay {} s.globalConfig).overlay s.localConfig

/-- The configuration that the four files come to. -/
def config (s : Sources) : Config :=
  s.base.overlay (s.ports.map fun ports => { port := ports })

theorem get?_config (s : Sources) (x : Setting) : s.config.get? x = s.chosen x := by
  have hempty : Config.get? {} x = none := by cases x <;> rfl
  have hports : (s.ports.map fun ports => ({ port := ports } : Config)).bind (·.get? x) =
      s.ports.bind (·.get? x) := by
    cases s.ports <;> rfl
  rw [config, base, Config.get?_overlay, Config.get?_overlay, Config.get?_overlay, hempty, hports]
  simp [chosen, configured]

end Sources

namespace Config

/-- Whatever is the matter with a file, it says nothing then. -/
theorem value_lookup {α : Type} (sort : String) (parse? : String → Option α) (files : Files)
    (path : String) : (lookup sort parse? files path).value = (files.text? path).bind parse? := by
  unfold lookup Files.text? Files.exists?
  cases hfind : files.find path with
  | error e => simp [Files.readText, Files.read, hfind, Except.toOption]
  | ok node =>
    cases files.readText path with
    | error e => simp [Except.toOption]
    | ok text => cases hparse : parse? text <;> simp [Except.toOption, hparse]

theorem value_lookupPorts (files : Files) (paths : List String) :
    (lookupPorts files paths).value =
      paths.findSome? fun path => (files.text? path).bind PortConfig.parse? := by
  induction paths with
  | nil => rfl
  | cons path rest ih =>
    rw [lookupPorts, List.findSome?_cons, ← value_lookup "ports"]
    split
    · next h => rw [h]
    · next h => rw [h]; exact ih

theorem mergeFound_fst (c : Config) (found : Lookup Config) (said : String) :
    (mergeFound c found said).1 = c.overlay found.value := by
  cases h : found.value <;> simp [mergeFound, h, overlay]

/-- What the four files say. -/
def sources (files : Files) (env : Environment) : Sources where
  globalConfig := (globalFile? env).bind fun path => (files.text? path).bind Config.parse?
  localConfig := (files.text? localFile).bind Config.parse?
  localPorts := (files.text? localPorts).bind PortConfig.parse?
  globalPorts := (globalPorts? env).bind fun path => (files.text? path).bind PortConfig.parse?

theorem load_eq (files : Files) (env : Environment) :
    (load files env).1 = (sources files env).config := by
  have hports : (lookupPorts files (localPorts :: (globalPorts? env).toList)).value =
      (sources files env).ports := by
    rw [value_lookupPorts, List.findSome?_cons]
    simp only [Sources.ports, sources]
    cases hown : (files.text? localPorts).bind PortConfig.parse? <;>
      cases globalPorts? env <;> simp
  have hglobal : (sources files env).globalConfig =
      (globalFile? env).bind fun path => (lookupConfig files path).value := by
    simp [sources, lookupConfig, value_lookup]
  have hempty (c : Config) (ports : PortConfig) :
      ({ c with port := c.port.merge ports } : Config) = c.merge { port := ports } := by
    simp [merge, UpdateSettings.merge]
  have hlocal : (lookupConfig files localFile).value = (sources files env).localConfig :=
    value_lookup ..
  unfold load Sources.config Sources.base
  rw [hglobal]
  simp only [hports, hlocal, mergeFound_fst, hempty]
  cases globalFile? env with
  | none => cases (sources files env).ports <;> rfl
  | some path => cases (sources files env).ports <;> simp [mergeFound_fst, overlay]

/-- A setting is chosen with local files first, unless it belongs to the connection and the
user's file of ports is read and sets it to something else than the local configuration. -/
theorem load_localFirst_iff (files : Files) (env : Environment) (x : Setting) :
    (sources files env).LocalFirst x ((load files env).1.get? x) ↔
      ¬ (sources files env).Overridden x := by
  rw [load_eq, Sources.get?_config]
  exact Sources.localFirst_chosen_iff _ x

end Config

/-- A working directory and, below its `home`, a user's directory with some texts in them. -/
def Files.rehearsed (here own : List (String × String)) : Files :=
  let user := ["work", "home", ".config", "sspflash"]
  { cwd := ["work"]
    nodes :=
      [(["work"], .directory), (["work", "home"], .directory),
        (["work", "home", ".config"], .directory), (user, .directory)] ++
      here.map (fun (name, text) => (["work", name], .file (.ofText text))) ++
      own.map (fun (name, text) => (user ++ [name], .file (.ofText text))) }

theorem Files.closed_rehearsed (here own : List (String × String)) :
    (Files.rehearsed here own).Closed := by
  refine closed_of_nodes fun n hn _ => ?_
  simp only [rehearsed, List.mem_append, List.mem_cons, List.not_mem_nil, or_false,
    List.mem_map] at hn
  obtain ((rfl | rfl | rfl | rfl) | ⟨_, -, rfl⟩) | ⟨_, -, rfl⟩ := hn <;> rfl

/-- The local configuration names a port, and the one in the user's file of ports is chosen. -/
theorem Config.globalPorts_before_localConfig :
    let files := Files.rehearsed [("sspflash.toml", "[port.connection]\nserial = \"COM1\"\n")]
      [("ports.toml", "[connection]\nserial = \"COM2\"\n")]
    let env : Environment := [("HOME", "/work/home")]
    (sources files env).localValues .serial = ["COM1"] ∧
      (load files env).1.get? .serial = some "COM2" ∧
      ¬ (sources files env).LocalFirst .serial ((load files env).1.get? .serial) := by
  intro files env
  have hlocal : (sources files env).localValues .serial = ["COM1"] := by decide +kernel
  have hload : (load files env).1.get? .serial = some "COM2" := by decide +kernel
  refine ⟨hlocal, hload, fun h => ?_⟩
  obtain ⟨v, hv, hchosen⟩ := h.local_used (by rw [hlocal]; simp)
  rw [hlocal, List.mem_singleton] at hv
  rw [hload, hv] at hchosen
  exact absurd hchosen (by decide)

end SspUpdate
