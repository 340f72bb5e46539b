import SspUpdate.Station
import SspUpdate.Text.Truncate

/-!
# Choosing a port

A port named on the command line is taken, then one named in the
configuration. Otherwise the ports of the machine are candidates, but only
the known ones if there are any. A single known candidate is taken; a single
unknown one has to be confirmed, and of several the user chooses one. Where
nothing may be asked, several candidates are a mistake of the caller.
-/

namespace SspUpdate

/-- What the caller says about the port. -/
structure PortRequest where
  port : Option String := none
  listAll : Bool := false
  nonInteractive : Bool := false
  confirmPort : Bool := false
  deriving DecidableEq, Repr

structure SelectedPort where
  port : DetectedPort
  isKnown : Bool
  deriving DecidableEq, Repr

namespace PortChoice

/-- Whether a port is recognised, or was remembered. -/
def isKnown (config : Config) (port : DetectedPort) : Bool :=
  port.device.isKnown ||
    match port.vidPid? with
    | some (vid, pid) => config.port.usbDevices.contains ⟨vid, pid⟩
    | none => false

/-- The known ports, or all if none is known or all are wanted. -/
def candidates (config : Config) (listAll : Bool) (ports : List DetectedPort) :
    List DetectedPort :=
  let known := ports.filter (isKnown config)
  if listAll || known.isEmpty then ports else known

/-- Why no port can be chosen. -/
inductive Refusal where
  | noPorts
  | noneAvailable
  | severalPorts
  deriving DecidableEq, Repr

def Refusal.failure : Refusal → Failure
  | noPorts => .usage "no serial ports found; connect the validator or pass --port"
  | noneAvailable => .usage "no serial ports available"
  | severalPorts => .usage "multiple serial ports found; pass --port to choose one"

/-- The one candidate, where nothing may be asked. -/
def sole (config : Config) : List DetectedPort → Except Refusal SelectedPort
  | [] => .error .noneAvailable
  | [port] => .ok ⟨port, isKnown config port⟩
  | _ :: _ :: _ => .error .severalPorts

/-- How a port is chosen among candidates. -/
inductive Proposal where
  | take (selected : SelectedPort)
  | confirm (port : DetectedPort)
  | menu (ports : List DetectedPort)
  | refuse (reason : Refusal)
  deriving DecidableEq, Repr

def propose (config : Config) (request : PortRequest) (ports : List DetectedPort) : Proposal :=
  if ports.isEmpty then .refuse .noPorts
  else
    let all := candidates config request.listAll ports
    if request.nonInteractive then
      match sole config all with
      | .ok selected => .take selected
      | .error reason => .refuse reason
    else match all with
      | [] => .refuse .noneAvailable
      | [port] =>
        if isKnown config port && !request.confirmPort then .take ⟨port, true⟩
        else .confirm port
      | _ :: _ :: _ => .menu all

/-- Which group of the menu a port is in. -/
inductive Group where
  | validator
  | known
  | unknown
  deriving DecidableEq, Repr

def group (config : Config) (port : DetectedPort) : Group :=
  if port.device = .itlUsb then .validator
  else if isKnown config port then .known
  else .unknown

/-- The ports of a menu: validators, then other known ports, then the rest. -/
def ordered (config : Config) (ports : List DetectedPort) : List DetectedPort :=
  [.validator, .known, .unknown].flatMap fun g => ports.filter fun p => group config p = g

/-- A port's line in the menu. -/
def label (colors : Bool) (config : Config) (port : DetectedPort) : String :=
  let name :=
    if isKnown config port then
      ({ attributes := [.bold] } : Text.Style).paint colors port.name
    else port.name
  let device :=
    if port.device.isKnown then
      " [" ++ (Text.Style.plain .yellow).paint colors port.device.name ++ "]"
    else match port.vidPid? with
      | some (vid, pid) =>
        " (" ++ Text.upperHex 4 vid.toNat ++ ":" ++ Text.upperHex 4 pid.toNat ++ ")"
      | none => ""
  let product := match port.product with
    | some text => " - " ++ ({ attributes := [.dim] } : Text.Style).paint colors text
    | none => ""
  name ++ device ++ product

variable {δ : Type}

def cancelled : Failure := .cancelled "port selection cancelled"

/-- Lets the user choose one of several ports. -/
def chooseFrom (config : Config) (ports : List DetectedPort) : StationM δ SelectedPort := do
  let terminal ← Station.requireTerminal
  let info ← Station.paint (.plain .blue) "ℹ"
  Station.say (info ++ s!" Found {ports.length} serial ports")
  Station.say (← Station.paint { attributes := [.dim] }
    "Recognised validators and USB bridges are listed first")
  let ports := ordered config ports
  let colors := (← get).colors
  let labels := ports.map fun p => Text.truncate (terminal.width - 4) (label colors config p)
  match ← Station.choose "Select the validator's serial port" labels with
  | none => Station.raise cancelled
  | some index =>
    match ports[index]? with
    | some port => return ⟨port, isKnown config port⟩
    | none => Station.raise (.other s!"Invalid port index: {index}")

/-- Asks whether to use a port that was not recognised. -/
def confirmUse (port : DetectedPort) : StationM δ SelectedPort := do
  let product := match port.product with
    | some text => " - " ++ text
    | none => ""
  if ← Station.confirm ("Use " ++ port.name ++ product ++ "?") true then
    return ⟨port, false⟩
  else Station.raise cancelled

/-- The port of a name, in these letters if there is one, or else in others of
another case; a name that is not found is taken as it is. -/
def byName (name : String) (ports : List DetectedPort) : SelectedPort :=
  let found := (ports.find? fun p => p.name = name)
    <|> (ports.find? fun p => p.name.toLower = name.toLower)
  match found with
  | some port => ⟨port, port.device.isKnown⟩
  | none => ⟨.unknown name, false⟩

/-- Chooses a port, asking if that is needed. -/
def select (config : Config) (request : PortRequest) : StationM δ SelectedPort := do
  if let some name := request.port then return byName name (← Station.detect)
  if let some name := config.port.connection.serial then
    Station.log .debug Target.serial ("Using port from config: " ++ name)
    return byName name (← Station.detect)
  match propose config request (← Station.detect) with
  | .refuse reason => Station.raise reason.failure
  | .menu ports => chooseFrom config ports
  | .confirm port => confirmUse port
  | .take selected =>
    if !request.nonInteractive then
      Station.log .info Target.serial ("Auto-selected port: " ++ selected.port.name ++ " [" ++
        selected.port.device.name ++ "]")
    return selected

/-- Offers to remember the USB device behind a port, unless it is remembered. -/
def offerToRemember (config : Config) (port : DetectedPort) : StationM δ Config := do
  match port.vidPid? with
  | none => return config
  | some (vid, pid) =>
    if config.port.usbDevices.contains ⟨vid, pid⟩ then return config
    else if !(← Station.hasTerminal) then return config
    else
      let question := "Remember USB device " ++ Text.upperHex 4 vid.toNat ++ ":" ++
        Text.upperHex 4 pid.toNat ++ " for auto-detection?"
      if ← Station.confirm question false then
        let (saved, config) ← Station.remember config ⟨vid, pid⟩
        if let .error e := saved then
          Station.log .error Target.serial ("Failed to save port configuration: " ++ e.message)
        return config
      else return config

/-- The name of the port to use, and the configuration with what was
remembered on the way. -/
def portName (config : Config) (request : PortRequest) : StationM δ (String × Config) := do
  let selected ← select config request
  if !selected.isKnown && !request.nonInteractive && request.port.isNone then
    let config ← offerToRemember config selected.port
    return (selected.port.name, config)
  else return (selected.port.name, config)

end PortChoice

end SspUpdate
