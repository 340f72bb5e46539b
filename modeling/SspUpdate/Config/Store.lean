import SspUpdate.Config
import SspUpdate.Environment
import SspUpdate.Files
import SspUpdate.Log

/-!
# Where configuration is kept

Configuration is read from the user's directory first, then from the working
directory, and last from the file of remembered ports, the local one before
the user's. What cannot be read or understood is passed over with a warning.
A device is remembered in the working directory if that has a configuration,
and in the user's directory otherwise.
-/

namespace SspUpdate

/-- A value that was or was not found, and what was said in looking for it. -/
structure Lookup (α : Type) where
  value : Option α
  log : List LogLine

namespace Config

def localFile : String := "sspflash.toml"

def localPorts : String := "sspflash_ports.toml"

/-- Stands for the position and cause that a parser would tell. -/
def parseFault : String := "TOML parse error"

/-- Reads a file of the given sort, if it is there. -/
def lookup {α : Type} (sort : String) (parse? : String → Option α) (files : Files)
    (path : String) : Lookup α :=
  if files.exists? path then
    match files.readText path with
    | .ok text =>
      match parse? text with
      | some value => ⟨some value, []⟩
      | none =>
        ⟨none, [⟨.warn, Target.config,
          "Failed to parse " ++ sort ++ " file " ++ path ++ ": " ++ parseFault⟩]⟩
    | .error e =>
      ⟨none, [⟨.warn, Target.config,
        "Failed to read " ++ sort ++ " file " ++ path ++ ": " ++ e.message⟩]⟩
  else ⟨none, []⟩

def lookupConfig : Files → String → Lookup Config := lookup "config" Config.parse?

/-- The remembered ports of the first file that has any. -/
def lookupPorts (files : Files) : List String → Lookup PortConfig
  | [] => ⟨none, []⟩
  | path :: rest =>
    match lookup "ports" PortConfig.parse? files path with
    | ⟨some ports, log⟩ =>
      ⟨some ports, log ++ [⟨.debug, Target.config, "Loaded ports config from " ++ path⟩]⟩
    | ⟨none, log⟩ =>
      let more := lookupPorts files rest
      ⟨more.value, log ++ more.log⟩

def globalFile? (env : Environment) : Option String :=
  env.ownDirectory?.map fun dir => Path.join dir "config.toml"

def globalPorts? (env : Environment) : Option String :=
  env.ownDirectory?.map fun dir => Path.join dir "ports.toml"

/-- Adds a found file to the configuration so far. -/
def mergeFound (config : Config) (found : Lookup Config) (said : String) :
    Config × List LogLine :=
  match found.value with
  | some later => (config.merge later, found.log ++ [⟨.debug, Target.config, said⟩])
  | none => (config, found.log)

/-- The configuration of all files, and what was said in loading it. -/
def load (files : Files) (env : Environment) : Config × List LogLine :=
  let (config, log) := match globalFile? env with
    | some path => mergeFound {} (lookupConfig files path) ("Loaded global config from " ++ path)
    | none => ({}, [])
  let (config, more) := mergeFound config (lookupConfig files localFile)
    ("Loaded local config from " ++ localFile)
  let ports := lookupPorts files (localPorts :: (globalPorts? env).toList)
  let config := match ports.value with
    | some ports => { config with port := config.port.merge ports }
    | none => config
  (config, log ++ more ++ ports.log)

/-- The configuration of one file, or the default. -/
def loadFrom (files : Files) (path : String) : Config × List LogLine :=
  let found := lookupConfig files path
  match found.value with
  | some config => (config, found.log ++ [⟨.debug, Target.config, "Loaded config from " ++ path⟩])
  | none =>
    ({}, found.log ++ [⟨.warn, Target.config,
      "Could not load config from " ++ path ++ ", using defaults"⟩])

/-- What came of an attempt to remember a device. -/
structure Remembered where
  result : Except FileFault Unit
  config : Config
  files : Files
  log : List LogLine

/-- The file that remembers devices, with the directory it needs. -/
def portsFile (files : Files) (env : Environment) : Except FileFault (String × Files) :=
  if files.exists? localPorts || files.exists? localFile then .ok (localPorts, files)
  else match env.ownDirectory? with
    | none => .ok (localPorts, files)
    | some dir =>
      match files.ensureDirectory dir with
      | .error e => .error e
      | .ok files => .ok (Path.join dir "ports.toml", files)

/-- Remembers a device that is not in the configuration yet. The configuration
has it from the moment that a file for it has been chosen. -/
def remember (config : Config) (files : Files) (env : Environment) (device : UsbDevice) :
    Remembered :=
  if device ∈ config.port.usbDevices then ⟨.ok (), config, files, []⟩
  else
    match portsFile files env with
    | .error e => ⟨.error e, config, files, []⟩
    | .ok (path, files) =>
      let devices := config.port.usbDevices ++ [device]
      let config := { config with port := { config.port with usbDevices := devices } }
      match files.write path (Bytes.ofText (PortConfig.renderDevices devices)) with
      | .error e => ⟨.error e, config, files, []⟩
      | .ok files =>
        ⟨.ok (), config, files, [⟨.info, Target.config, "Saved USB device to " ++ path⟩]⟩

end Config

end SspUpdate
