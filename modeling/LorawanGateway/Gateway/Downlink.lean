import LorawanGateway.Datagram.ServerDatagram
import LorawanGateway.Datagram.Txpk
import LorawanGateway.Gateway.Basic
import LorawanGateway.Gateway.TrafficReport
import LorawanGateway.Text.Base64
import LorawanGateway.Text.Quoted

/-!
Requests of a server to send a packet: how a request becomes a transmission, and what the server is
told about it.
-/

namespace LorawanGateway

/-- A field that a request must have, or whose value may not be supported. -/
inductive TxField where
  | counter
  | frequency
  | rfChain
  | modulation
  | dataRate
  | codingRate
  | deviation
  | size
  | data
  deriving DecidableEq, Repr

def TxField.name : TxField → String
  | .counter => "tmst"
  | .frequency => "freq"
  | .rfChain => "rfch"
  | .modulation => "modu"
  | .dataRate => "datr"
  | .codingRate => "codr"
  | .deviation => "fdev"
  | .size => "size"
  | .data => "data"

/-- Why a request cannot become a transmission. -/
inductive TxRequestError where
  | missing (field : TxField)
  | unsupported (field : TxField) (value : String)
  | badPayload
  | malformed
  | gpsUnlocked
  deriving DecidableEq, Repr

namespace TxRequestError

def message : TxRequestError → String
  | .missing field => s!"missing mandatory field \"{field.name}\""
  | .unsupported field value => s!"unsupported {field.name} \"{value}\""
  | .badPayload => "payload is not valid base64"
  | .malformed => "malformed txpk"
  | .gpsUnlocked => "no valid GPS time reference"

def acknowledged : TxRequestError → TxError
  | .gpsUnlocked => .gpsUnlocked
  | _ => .invalid

end TxRequestError

def SpelledRate.described : SpelledRate → String
  | .name text => s!"Lora({Text.quote text})"
  | .bitsPerSecond value => s!"Fsk({value.toNat})"

/-- When a packet is to leave. -/
structure TxMoment where
  packetClass : PacketClass
  counter : UInt32
  mode : TxMode
  deriving DecidableEq, Repr

/-- How a packet is modulated. -/
structure TxModulation where
  dataRate : DataRate
  codingRate : CodingRate
  deviation : UInt8
  preamble : UInt16
  deriving DecidableEq, Repr

/-- What a gateway adds to a request. -/
structure TxSettings where
  antennaGain : Int8
  defaultPower : Int8
  reference : Option TimeReference

namespace Txpk

def demand (field : TxField) : Option α → Except TxRequestError α
  | some value => .ok value
  | none => .error (.missing field)

/-- When the packet is to leave: at once, at a counter value, or at a GPS time, in this order. -/
def moment (txpk : Txpk) (reference : Option TimeReference) : Except TxRequestError TxMoment :=
  if txpk.immediate = some true then .ok ⟨.classC, 0, .immediate⟩
  else
    match txpk.counter, txpk.gpsTime with
    | some counter, _ => .ok ⟨.classA, counter, .timestamped⟩
    | none, some time =>
      match reference with
      | some reference =>
        .ok ⟨.classB, reference.counterAt (.ofMilliseconds time.toNat), .timestamped⟩
      | none => .error .gpsUnlocked
    | none, none => .error (.missing .counter)

/-- The preamble: the requested one, at least the shortest that works. -/
def preambleFor (txpk : Txpk) (modulation : Modulation) : UInt16 :=
  txpk.preamble.elim modulation.standardPreamble fun preamble =>
    max preamble modulation.minimumPreamble

/-- LoRa settings: a named data rate and a coding rate other than none. -/
def loraModulation (txpk : Txpk) (rate : SpelledRate) : Except TxRequestError TxModulation :=
  match rate with
  | .bitsPerSecond _ => .error (.unsupported .dataRate rate.described)
  | .name text => do
    let dataRate ← (DataRate.ofLoraName text).mapError fun _ => .unsupported .dataRate text
    let codr ← demand .codingRate txpk.codingRate
    match CodingRate.ofNameOrFraction codr with
    | .error _ | .ok .off => .error (.unsupported .codingRate codr)
    | .ok codingRate => .ok ⟨dataRate, codingRate, 0, txpk.preambleFor .lora⟩

/-- FSK settings: bits per second, and a deviation of at most 255 kHz. -/
def fskModulation (txpk : Txpk) (rate : SpelledRate) : Except TxRequestError TxModulation :=
  match rate with
  | .name _ => .error (.unsupported .dataRate rate.described)
  | .bitsPerSecond value => do
    let deviation ← demand .deviation txpk.deviation
    if 255 < deviation.toNat / 1000 then
      .error (.unsupported .deviation (toString deviation.toNat))
    else .ok ⟨.fsk value, .off, UInt8.ofNat (deviation.toNat / 1000), txpk.preambleFor .fsk⟩

def modulationSettings (txpk : Txpk) : Except TxRequestError TxModulation := do
  let modulation ← demand .modulation txpk.modulation
  let rate ← demand .dataRate txpk.dataRate
  match Modulation.ofName modulation with
  | .ok .lora => txpk.loraModulation rate
  | .ok .fsk => txpk.fskModulation rate
  | .error _ => .error (.unsupported .modulation modulation)

/-- The payload of a request. The stated size need not be its length, but both are limited. -/
def payload (txpk : Txpk) : Except TxRequestError Octets := do
  let size ← demand .size txpk.size
  if maxPayloadLength < size.toNat then
    .error (.unsupported .size (toString size.toNat))
  let data ← demand .data txpk.data
  match Base64.decodePayload? data with
  | none => .error .badPayload
  | some payload =>
    if maxPayloadLength < payload.length then
      .error (.unsupported .size (toString payload.length))
    else .ok payload

/-- A frequency in MHz rounded to hertz and brought into the range of a word. -/
def hertz (megahertz : Float) : UInt32 :=
  UInt32.ofNat ((Binary.ofDouble (megahertz * 1e6)).toIntWithin .halfAway 0 0xFFFFFFFF).toNat

/-- The difference of two powers, brought into the range of a signed octet. -/
def powerBelow (power gain : Int8) : Int8 :=
  Int.toInt8 (max (-128) (min 127 (power.toInt - gain.toInt)))

/-- The output power: what is asked for less the gain of the antenna, or the default power. -/
def outputPower (txpk : Txpk) (settings : TxSettings) : Int8 :=
  txpk.power.elim settings.defaultPower fun power => powerBelow power settings.antennaGain

/-- The packet that a request asks for, and its class. The first fault in the order of time,
frequency, chain, modulation and payload is reported. -/
def toTransmit (txpk : Txpk) (settings : TxSettings) :
    Except TxRequestError (TransmitPacket × PacketClass) := do
  let moment ← txpk.moment settings.reference
  let frequency ← demand .frequency txpk.frequency
  let rfChain ← demand .rfChain txpk.rfChain
  let modulation ← txpk.modulationSettings
  let payload ← txpk.payload
  return ({
    frequency := hertz frequency
    mode := moment.mode
    counter := moment.counter
    rfChain := rfChain
    power := txpk.outputPower settings
    dataRate := modulation.dataRate
    codingRate := modulation.codingRate
    invertPolarity := txpk.invertPolarity.getD false
    deviation := modulation.deviation
    preamble := modulation.preamble
    withoutCrc := txpk.withoutCrc.getD false
    withoutHeader := false
    payload := payload }, moment.packetClass)

end Txpk

namespace Gateway

def txSettings (gateway : Gateway) : TxSettings where
  antennaGain := gateway.config.antennaGain
  defaultPower := gateway.config.defaultPower
  reference := gateway.reference?

/-- Queues a packet at the present value of the counter; while it cannot be read, nothing can be
queued. -/
def enqueue (gateway : Gateway) (packet : TransmitPacket) (packetClass : PacketClass) :
    Except TxError TxAcceptance × Gateway :=
  match gateway.radio.now? with
  | none => (.error .invalid, gateway)
  | some now =>
    let (outcome, scheduler) := gateway.scheduler.enqueue now packet packetClass
    (outcome, { gateway with scheduler })

/-- The octets of payload that a request with an outcome adds. -/
def payloadAdded (packet : TransmitPacket) : Except TxError TxAcceptance → Nat
  | .ok _ => packet.payload.length
  | .error _ => 0

/-- What the server is told about the outcome of a request. -/
def statusOf : Except TxError TxAcceptance → TxAckStatus
  | .error fault => .rejected fault
  | .ok ⟨_, some power⟩ => .powerAdjusted power
  | .ok ⟨_, none⟩ => .accepted

def isAccepted : TxAckStatus → Bool
  | .rejected _ => false
  | _ => true

/-- Turns a request into a queued transmission, if it can. -/
def request (gateway : Gateway) (txpk : Txpk) (down : DownlinkCounters) :
    TxAckStatus × Gateway × DownlinkCounters :=
  match txpk.toTransmit gateway.txSettings with
  | .error fault => (.rejected fault.acknowledged, gateway, down.request false)
  | .ok (packet, packetClass) =>
    let (outcome, gateway) := gateway.enqueue packet packetClass
    let status := statusOf outcome
    let down := down.request (isAccepted status)
    (status, gateway,
      { down with payloadOctets := down.payloadOctets + payloadAdded packet outcome })

/-- Turns a request as received into a queued transmission, if it can. -/
def requestJson (gateway : Gateway) (value : Json) (down : DownlinkCounters) :
    TxAckStatus × Gateway × DownlinkCounters :=
  match Txpk.ofJson? value with
  | some txpk => gateway.request txpk down
  | none => (.rejected TxRequestError.malformed.acknowledged, gateway, down.request false)

end Gateway

end LorawanGateway
