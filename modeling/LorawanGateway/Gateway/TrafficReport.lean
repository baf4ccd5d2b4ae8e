import LorawanGateway.Datagram.Stat
import LorawanGateway.Time.Instant
import LorawanGateway.Transmit.Beacon

/-!
What a service counts, and the status report made from it. Publishing a report starts all counters
afresh and leaves the report to be sent with the next datagram. The counters are taken to grow
without bound: that a count of things leaves 32 bits, or a sum of octets or milliseconds 64, within
one period is left aside.
-/

namespace LorawanGateway

/-- What was counted on the way to the server. Round trips are in milliseconds. -/
structure UplinkCounters where
  received : Nat := 0
  receivedOk : Nat := 0
  receivedBad : Nat := 0
  receivedWithoutCrc : Nat := 0
  filtered : Nat := 0
  forwarded : Nat := 0
  payloadOctets : Nat := 0
  datagramsSent : Nat := 0
  networkOctets : Nat := 0
  acknowledged : Nat := 0
  roundTripTotal : Nat := 0
  roundTripLongest : Nat := 0
  deriving DecidableEq, Repr

namespace UplinkCounters

def acknowledge (up : UplinkCounters) (roundTrip : Nat) : UplinkCounters :=
  { up with
    acknowledged := up.acknowledged + 1
    roundTripTotal := up.roundTripTotal + roundTrip
    roundTripLongest := max up.roundTripLongest roundTrip }

/-- The mean round trip, if there was one. -/
def meanRoundTrip? (up : UplinkCounters) : Option Nat :=
  if up.acknowledged = 0 then none else some (up.roundTripTotal / up.acknowledged)

/-- One more received packet with the outcome of its checksum. -/
def receive (up : UplinkCounters) (status : CrcStatus) : UplinkCounters :=
  let up := { up with received := up.received + 1 }
  match status with
  | .ok => { up with receivedOk := up.receivedOk + 1 }
  | .bad => { up with receivedBad := up.receivedBad + 1 }
  | .absent => { up with receivedWithoutCrc := up.receivedWithoutCrc + 1 }

def filter (up : UplinkCounters) : UplinkCounters := { up with filtered := up.filtered + 1 }

/-- One more packet that is forwarded, with the length of its payload. -/
def forward (up : UplinkCounters) (size : Nat) : UplinkCounters :=
  { up with forwarded := up.forwarded + 1, payloadOctets := up.payloadOctets + size }

def send (up : UplinkCounters) (length : Nat) : UplinkCounters :=
  { up with
    datagramsSent := up.datagramsSent + 1
    networkOctets := up.networkOctets + length }

/-- The acknowledged share of the datagrams in percent; none were sent, none is missing. -/
def acknowledgedShare (up : UplinkCounters) : Float :=
  if up.datagramsSent = 0 then 0.0
  else 100.0 * up.acknowledged.toUInt64.toFloat / up.datagramsSent.toUInt64.toFloat

end UplinkCounters

/-- What was counted on the way from the server. -/
structure DownlinkCounters where
  pullsSent : Nat := 0
  acknowledged : Nat := 0
  datagramsReceived : Nat := 0
  networkOctets : Nat := 0
  payloadOctets : Nat := 0
  requested : Nat := 0
  accepted : Nat := 0
  rejected : Nat := 0
  beaconsQueued : Nat := 0
  beaconsRejected : Nat := 0
  deriving DecidableEq, Repr

namespace DownlinkCounters

def receive (down : DownlinkCounters) (length : Nat) : DownlinkCounters :=
  { down with
    datagramsReceived := down.datagramsReceived + 1
    networkOctets := down.networkOctets + length }

def request (down : DownlinkCounters) (accepted : Bool) : DownlinkCounters :=
  { down with
    requested := down.requested + 1
    accepted := down.accepted + if accepted then 1 else 0
    rejected := down.rejected + if accepted then 0 else 1 }

def fill (down : DownlinkCounters) (outcome : BeaconFill) : DownlinkCounters :=
  { down with
    beaconsQueued := down.beaconsQueued + outcome.queued
    beaconsRejected := down.beaconsRejected + outcome.rejected }

end DownlinkCounters

/-- The counters since the last report, when the server last acknowledged a datagram, and the
report that waits to be sent. -/
structure TrafficReport where
  up : UplinkCounters := {}
  down : DownlinkCounters := {}
  lastAck : Option Instant := none
  pending : Option Stat := none

namespace TrafficReport

def stat (report : TrafficReport) (now : Instant) (position : Option Coordinates) : Stat where
  time := now.reportText
  latitude := position.map (·.latitude)
  longitude := position.map (·.longitude)
  altitude := position.map (·.altitude)
  received := UInt32.ofNat report.up.received
  receivedOk := UInt32.ofNat report.up.receivedOk
  forwarded := UInt32.ofNat report.up.forwarded
  acknowledgedShare := report.up.acknowledgedShare
  fromServer := UInt32.ofNat report.down.datagramsReceived
  transmitted := UInt32.ofNat report.down.accepted

def restart (report : TrafficReport) : TrafficReport := { report with up := {}, down := {} }

/-- Makes a status report and starts the counters afresh. -/
def build (report : TrafficReport) (now : Instant) (position : Option Coordinates) :
    Stat × TrafficReport :=
  (report.stat now position, report.restart)

def publish (report : TrafficReport) (now : Instant) (position : Option Coordinates) :
    TrafficReport :=
  let (stat, report) := report.build now position
  { report with pending := some stat }

def take (report : TrafficReport) : Option Stat × TrafficReport :=
  (report.pending, { report with pending := none })

end TrafficReport

end LorawanGateway
