import LorawanGateway.Octets
import LorawanGateway.Radio.Modulation

/-!
Packets as the concentrator captures them and as it is asked to send them.
-/

namespace LorawanGateway

def maxPayloadLength : Nat := 256

/-- A received packet. Levels are in dBm, the ratio of signal to noise in dB. -/
structure ReceivedPacket where
  frequency : UInt32 := 868100000
  ifChain : UInt8 := 0
  rfChain : UInt8 := 0
  modem : UInt8 := 0
  counter : UInt32 := 0
  status : CrcStatus := .ok
  dataRate : DataRate := .lora .sf7 .bw125
  codingRate : CodingRate := .cr45
  channelLevel : Float32 := -60
  signalLevel : Float32 := -61
  signalToNoise : Float32 := 9.5
  frequencyOffset : Int32 := 0
  payload : Octets := []

/-- A packet to send. The counter value is that of the concentrator, in microseconds, at which the
packet leaves; the deviation is in kHz. -/
structure TransmitPacket where
  frequency : UInt32 := 868100000
  mode : TxMode := .timestamped
  counter : UInt32 := 0
  rfChain : UInt8 := 0
  power : Int8 := 14
  dataRate : DataRate := .lora .sf7 .bw125
  codingRate : CodingRate := .cr45
  invertPolarity : Bool := true
  deviation : UInt8 := 0
  preamble : UInt16 := 8
  withoutCrc : Bool := false
  withoutHeader : Bool := false
  payload : Octets := []
  deriving DecidableEq, Repr

namespace Modulation

def standardPreamble : Modulation → UInt16
  | .lora => 8
  | .fsk => 5

def minimumPreamble : Modulation → UInt16
  | .lora => 6
  | .fsk => 3

end Modulation

end LorawanGateway
