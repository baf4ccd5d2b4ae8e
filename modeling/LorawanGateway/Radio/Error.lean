/-!
Why a radio setting or a transmission is refused.
-/

namespace LorawanGateway

/-- A setting that has a spelling on the wire. -/
inductive WireKind where
  | spreadingFactor
  | bandwidth
  | codingRate
  | modulation
  | crcStatus
  | txMode
  | dataRate
  deriving DecidableEq, Repr

def WireKind.label : WireKind → String
  | .spreadingFactor => "SpreadingFactor"
  | .bandwidth => "Bandwidth"
  | .codingRate => "CodingRate"
  | .modulation => "Modulation"
  | .crcStatus => "CrcStatus"
  | .txMode => "TxMode"
  | .dataRate => "DataRate"

/-- A value outside what the radio can do. -/
inductive RadioParameter where
  | spreadingFactor
  | bandwidth
  | beaconDataRate
  | beaconBandwidth
  | payloadSize
  deriving DecidableEq, Repr

def RadioParameter.label : RadioParameter → String
  | .spreadingFactor => "spreading factor"
  | .bandwidth => "bandwidth"
  | .beaconDataRate => "beacon datarate"
  | .beaconBandwidth => "beacon bandwidth"
  | .payloadSize => "payload size"

/-- A refusal by the radio layer. -/
inductive RadioError where
  | unknownName (kind : WireKind) (value : String)
  | invalidParameter (parameter : RadioParameter)
  deriving DecidableEq, Repr

def RadioError.message : RadioError → String
  | .unknownName kind value => s!"Unknown {kind.label} value '{value}'"
  | .invalidParameter parameter => s!"Invalid {parameter.label}"

end LorawanGateway
