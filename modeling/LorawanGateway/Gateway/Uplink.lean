import LorawanGateway.Datagram.PushData
import LorawanGateway.Gateway.Basic
import LorawanGateway.Gateway.TrafficReport
import LorawanGateway.Mac.Frame.Reader

/-!
The way of received packets to a network server: which packets a service forwards, how a packet is
described, and the datagram that a batch of them makes.
-/

namespace LorawanGateway

namespace Rxpk

def currentVersion : UInt8 := 1

/-- When a packet was received: by GPS time where a reference holds, else by the clock of the host,
which gives no GPS time. A reference that leads out of the calendar gives no time at all. -/
def receptionTime? (reference : Option TimeReference) (host : Instant) (counter : UInt32) :
    Option (Instant × Option UInt64) :=
  match reference with
  | none => some (host, none)
  | some reference => do
    let instant ← reference.utcAt? counter
    let gps ← reference.gpsAt? counter
    return (instant, some (UInt64.ofNat gps.milliseconds))

/-- A level rounded to tenths. -/
def toTenths (level : Float32) : Float32 := (level * 10).round / 10

/-- The description of a received packet, given when it was received. What depends on chirps is
left out for FSK. -/
def describe (packet : ReceivedPacket) (instant : Instant) (gpsTime : Option UInt64) : Rxpk :=
  let lora := packet.dataRate.modulation == .lora
  { formatVersion := currentVersion
    counter := packet.counter
    time := some instant.preciseText
    gpsTime := gpsTime
    ifChain := packet.ifChain
    rfChain := packet.rfChain
    frequency := packet.frequency.toUInt64.toFloat / 1000000.0
    modem := packet.modem
    status := packet.status.stat.toInt8
    modulation := packet.dataRate.modulation.name
    dataRate :=
      match packet.dataRate with
      | .lora .. => .name packet.dataRate.name
      | .fsk bitsPerSecond => .bitsPerSecond bitsPerSecond
    codingRate := if lora then some packet.codingRate.name else none
    signalLevel := if lora then some packet.signalLevel.round else none
    signalToNoise := if lora then some (toTenths packet.signalToNoise) else none
    frequencyOffset := packet.frequencyOffset
    channelLevel := packet.channelLevel.round
    size := UInt16.ofNat packet.payload.length
    data := Base64.encode packet.payload }

def ofPacket? (packet : ReceivedPacket) (reference : Option TimeReference) (host : Instant) :
    Option Rxpk :=
  (receptionTime? reference host packet.counter).map fun (instant, gpsTime) =>
    describe packet instant gpsTime

end Rxpk

/-- What becomes of a received packet at a service. -/
inductive Admission where
  /-- The service does not want packets with this outcome of the checksum. -/
  | skipped
  /-- The payload is a frame that the filter drops. -/
  | filtered
  /-- The packet is forwarded. -/
  | admitted
  deriving DecidableEq, Repr

/-- What becomes of a packet. A payload that is no frame is forwarded as it is. -/
def admission (service : ServiceConfig) (filter : FrameFilter) (store : Store)
    (packet : ReceivedPacket) : Admission :=
  if !service.forwards packet.status then .skipped
  else
    match Frame.ofOctets packet.payload with
    | .ok frame => if filter.drops store.contains frame.identity then .filtered else .admitted
    | .error _ => .admitted

def UplinkCounters.record (up : UplinkCounters) (status : CrcStatus) (outcome : Admission) :
    UplinkCounters :=
  let up := up.receive status
  if outcome = .filtered then up.filter else up

/-- A received packet, and what the clock of the host reads when its turn comes. -/
structure ClockedPacket where
  packet : ReceivedPacket
  host : Instant

namespace ClockedPacket

/-- The description of a packet whose turn has come. -/
def describe? (clocked : ClockedPacket) (reference : Option TimeReference) : Option Rxpk :=
  Rxpk.ofPacket? clocked.packet reference clocked.host

/-- The packets of a batch, given the readings of the clock in their turns. -/
def ofBatch (clock : Nat → Instant) (batch : List ReceivedPacket) : List ClockedPacket :=
  batch.mapIdx fun place packet => ⟨packet, clock place⟩

end ClockedPacket

/-- What a batch comes to: nothing to send, a datagram, or a packet without a reception time. -/
inductive Preparation where
  | nothing
  | ready (datagram : Octets)
  | timeless
  deriving DecidableEq, Repr

/-- A service on the way to its server: its configuration and its filter. -/
structure UplinkService where
  config : ServiceConfig
  filter : FrameFilter

namespace UplinkService

def ofConfig (config : ServiceConfig) : Except ConfigFault UplinkService := do
  return { config, filter := ← config.frameFilter }

/-- Takes one packet of a batch. One that is admitted but does not fit is left out; one without a
reception time ends the datagram. -/
def takePacket (service : UplinkService) (gateway : Gateway) (clocked : ClockedPacket)
    (push : PushData) (up : UplinkCounters) : Option PushData × UplinkCounters :=
  let packet := clocked.packet
  let outcome := admission service.config service.filter gateway.store packet
  let up := up.record packet.status outcome
  if outcome ≠ .admitted then (some push, up)
  else
    match clocked.describe? gateway.reference? with
    | none => (none, up)
    | some rxpk =>
      match push.pushPacket rxpk with
      | .ok push => (some push, up.forward packet.payload.length)
      | .error _ => (some push, up)

/-- Takes the packets of a batch in order. -/
def takeBatch (service : UplinkService) (gateway : Gateway) :
    List ClockedPacket → PushData → UplinkCounters → Option PushData × UplinkCounters
  | [], push, up => (some push, up)
  | clocked :: rest, push, up =>
    match takePacket service gateway clocked push up with
    | (none, up) => (none, up)
    | (some push, up) => takeBatch service gateway rest push up

/-- Adds a report that waits, if it fits; it is taken in either case. -/
def takeReport (push : PushData) (report : TrafficReport) : PushData × TrafficReport :=
  match report.take with
  | (none, report) => (push, report)
  | (some stat, report) => ((push.setReport stat).toOption.getD push, report)

/-- The datagram for a batch and a report that waits, if there is anything to send. -/
def prepare (service : UplinkService) (gateway : Gateway) (token : Token)
    (batch : List ClockedPacket) (report : TrafficReport) : Preparation × TrafficReport :=
  let push : PushData := { capacity := Datagram.sendCapacity, token, gateway := gateway.id }
  match takeBatch service gateway batch push report.up with
  | (none, up) => (.timeless, { report with up })
  | (some push, up) =>
    let (push, report) := takeReport push { report with up }
    if push.isEmpty then (.nothing, report)
    else
      match push.finish with
      | .ok datagram => (.ready datagram, report)
      | .error _ => (.nothing, report)

end UplinkService

end LorawanGateway
