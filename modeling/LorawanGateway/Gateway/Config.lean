import LorawanGateway.Gateway.Relay
import LorawanGateway.Json.Printer
import LorawanGateway.Json.Record
import LorawanGateway.Mac.Filter
import LorawanGateway.Text.Blank
import LorawanGateway.Transmit.Beacon

/-!
The configuration of a gateway and of the services it runs, with the values that stand where
nothing is given, and the checks it has to pass.
-/

namespace LorawanGateway

/-- Where the gateway is, and whether it follows GPS time. -/
structure GpsConfig where
  enabled : Bool := false
  position : Coordinates := .zero

/-- Listening before talking, and how many channels can be reserved. -/
structure GateConfig where
  enabled : Bool := false
  slots : Nat := ListenGate.standardSlots
  deriving DecidableEq, Repr

/-- The names of the filter modes of a service. -/
structure FilterConfig where
  fPort : String := ""
  address : String := ""
  network : String := ""
  device : String := ""
  deriving DecidableEq, Repr

/-- A network server and how it is served. -/
structure ServiceConfig where
  name : String := "semtech"
  server : String := "localhost"
  portUp : UInt16 := 1700
  portDown : UInt16 := 1700
  keepaliveSeconds : UInt64 := 10
  pushTimeoutMilliseconds : UInt64 := 100
  pullTimeoutMilliseconds : UInt64 := 200
  forwardOk : Bool := true
  forwardBad : Bool := false
  forwardWithoutCrc : Bool := false
  filter : FilterConfig := {}
  inspectFrames : Bool := false
  deriving DecidableEq, Repr

/-- The configuration of a gateway. -/
structure GatewayConfig where
  identifier : String := "AA555A0000000000"
  gps : GpsConfig := {}
  chains : List TxEnvelope := [{}, {}]
  antennaGain : Int8 := 0
  defaultPower : Int8 := 14
  gate : GateConfig := {}
  beacon : BeaconConfig := {}
  relay : RelayConfig := {}
  quitThreshold : UInt32 := 0
  maxUplinks : Nat := 8
  statIntervalSeconds : UInt64 := 30
  storeFile : Option String := none
  services : List ServiceConfig := [{}]

/-- What is wrong with the text of a gateway identifier. -/
inductive IdentifierFault where
  | empty
  | badDigit
  | tooLarge
  deriving DecidableEq, Repr

def IdentifierFault.message : IdentifierFault → String
  | .empty => "cannot parse integer from empty string"
  | .badDigit => "invalid digit found in string"
  | .tooLarge => "number too large to fit in target type"

/-- What a configuration must not say. -/
inductive ConfigFault where
  | identifier (text : String) (fault : IdentifierFault)
  | noChain
  | noUplinks
  | namelessService
  | filterMode (name : String)
  | beacon (cause : RadioError)
  deriving DecidableEq, Repr

def ConfigFault.message : ConfigFault → String
  | .identifier text fault => s!"gateway_id '{text}': {fault.message}"
  | .noChain => "at least one TX chain is required"
  | .noUplinks => "max_concurrent_uplinks must be positive"
  | .namelessService => "service without a name"
  | .filterMode name => FilterMode.unknownMessage name
  | .beacon cause => cause.message

/-- Why there is no configuration: its text cannot be had, is no configuration, or says what it
must not. -/
inductive ConfigError where
  | unreadable
  | malformed
  | invalid (fault : ConfigFault)
  deriving DecidableEq, Repr

def ConfigError.message : ConfigError → String
  | .unreadable => "Cannot read configuration"
  | .malformed => "Malformed configuration"
  | .invalid fault => s!"Invalid configuration: {fault.message}"

namespace FilterConfig

def mode (name : String) : Except ConfigFault FilterMode :=
  (FilterMode.ofText name).mapError .filterMode

/-- The modes that the names stand for; the first unknown name is reported. -/
def policy (config : FilterConfig) : Except ConfigFault FilterPolicy := do
  let fPort ← mode config.fPort
  let address ← mode config.address
  let network ← mode config.network
  let device ← mode config.device
  return { fPort, address, network, device }

end FilterConfig

namespace ServiceConfig

def keepalive (config : ServiceConfig) : Span := .of config.keepaliveSeconds.toNat 0

/-- How long an acknowledgement of uplinks is waited for. -/
def pushTimeout (config : ServiceConfig) : Span :=
  .ofMilliseconds config.pushTimeoutMilliseconds.toNat

def pullTimeout (config : ServiceConfig) : Span :=
  .ofMilliseconds config.pullTimeoutMilliseconds.toNat

/-- Whether packets with an outcome of the checksum are forwarded. -/
def forwards (config : ServiceConfig) : CrcStatus → Bool
  | .ok => config.forwardOk
  | .bad => config.forwardBad
  | .absent => config.forwardWithoutCrc

def frameFilter (config : ServiceConfig) : Except ConfigFault FrameFilter := do
  return { service := config.name, policy := ← config.filter.policy }

end ServiceConfig

/-- Reads hexadecimal digits into a 64-bit word; what comes first is reported. -/
def readIdentifierDigits (value : Nat) : Octets → Except IdentifierFault UInt64
  | [] => .ok (UInt64.ofNat value)
  | octet :: rest =>
    match Hex.digitValue? octet.toNat with
    | none => .error .badDigit
    | some digit =>
      if value * 16 + digit < 0x10000000000000000 then
        readIdentifierDigits (value * 16 + digit) rest
      else .error .tooLarge

/-- Reads a 64-bit word in hexadecimal digits, which may follow a plus. -/
def readIdentifier (text : String) : Except IdentifierFault UInt64 :=
  match Octets.ofText text with
  | [] => .error .empty
  | [0x2B] => .error .badDigit
  | 0x2B :: digits => readIdentifierDigits 0 digits
  | digits => readIdentifierDigits 0 digits

namespace GatewayConfig

/-- The identifier of the gateway, blanks around it ignored. -/
def eui (config : GatewayConfig) : Except ConfigFault Eui64 :=
  match readIdentifier (Text.trim config.identifier) with
  | .ok word => .ok ⟨word⟩
  | .error fault => .error (.identifier config.identifier fault)

/-- The time between two status reports, at least a second. -/
def statInterval (config : GatewayConfig) : Span :=
  .of (max config.statIntervalSeconds.toNat 1) 0

def checkService (service : ServiceConfig) : Except ConfigFault Unit :=
  if service.name.isEmpty then .error .namelessService
  else service.filter.policy.map fun _ => ()

/-- Checks a configuration; the first fault is reported. -/
def validate (config : GatewayConfig) : Except ConfigFault Unit := do
  let _ ← config.eui
  if config.chains.isEmpty then .error .noChain
  if config.maxUplinks = 0 then .error .noUplinks
  config.services.forM checkService

end GatewayConfig

end LorawanGateway
