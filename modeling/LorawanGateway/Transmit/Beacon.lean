import LorawanGateway.Radio.Checksum
import LorawanGateway.Radio.TimeReference
import LorawanGateway.Transmit.Scheduler

/-!
Class B beacons: their payload, their times on the GPS clock, and their allocation ahead of time.
A beacon leaves at every multiple of the period; each fill keeps a few of them queued.
-/

namespace LorawanGateway

/-- A position: degrees north and east, metres above the sea. -/
structure Coordinates where
  latitude : Float
  longitude : Float
  altitude : Int32

def Coordinates.zero : Coordinates := ⟨0, 0, 0⟩

/-- What is set for beacons; a period of zero disables them. -/
structure BeaconConfig where
  period : UInt32 := 0
  frequency : UInt32 := 869525000
  channels : UInt8 := 1
  channelStep : UInt32 := 0
  dataRate : UInt8 := 9
  bandwidth : UInt32 := 125000
  power : Int8 := 14
  info : UInt8 := 0
  deriving DecidableEq, Repr

/-- The layout of a beacon: its spreading factor and the octets reserved before the time and after
the position. -/
structure BeaconLayout where
  factor : SpreadingFactor
  reservedBefore : Nat
  reservedAfter : Nat
  deriving DecidableEq, Repr

namespace BeaconLayout

/-- The layout for a data rate, given as a spreading factor. -/
def ofDataRate (dataRate : UInt8) : Except RadioError BeaconLayout :=
  match dataRate.toNat with
  | 8 => .ok ⟨.sf8, 1, 3⟩
  | 9 => .ok ⟨.sf9, 2, 0⟩
  | 10 => .ok ⟨.sf10, 3, 1⟩
  | 12 => .ok ⟨.sf12, 5, 3⟩
  | _ => .error (.invalidParameter .beaconDataRate)

/-- The octets of a beacon: time and its check, gateway part and its check. -/
def size (layout : BeaconLayout) : Nat :=
  layout.reservedBefore + 4 + 2 + 7 + layout.reservedAfter + 2

end BeaconLayout

/-- The bandwidth of beacons; of the three only two are in use. -/
def beaconBandwidth (hertz : UInt32) : Except RadioError Bandwidth :=
  match hertz.toNat with
  | 125000 => .ok .bw125
  | 500000 => .ok .bw500
  | _ => .error (.invalidParameter .beaconBandwidth)

/-- The range of a 24-bit coordinate. -/
def coordinateRange : Int × Int := (-0x800000, 0x7FFFFF)

/-- A coordinate as a 24-bit fraction of its span, cut toward zero. -/
def fixedPoint (degrees span : Float) : Int :=
  (Binary.ofDouble (degrees / span * 8388608.0)).toIntWithin .towardZero
    coordinateRange.1 coordinateRange.2

/-- What beacons are made from, and how far they were allocated: the second of the last beacon
accepted, and the attempts that failed since. -/
structure BeaconPlanner where
  config : BeaconConfig
  layout : BeaconLayout
  bandwidth : Bandwidth
  latitude : Int
  longitude : Int
  lastSecond : Option Nat := none
  retries : Nat := 0
  deriving DecidableEq, Repr

/-- How many beacons a fill got accepted, and how many were refused for another cause than a
collision with a beacon. -/
structure BeaconFill where
  queued : Nat := 0
  rejected : Nat := 0
  deriving DecidableEq, Repr

namespace BeaconPlanner

/-- The attempts of one fill; what is missing is left to the next one. -/
def maxAttempts : Nat := 8

/-- A planner for a configuration and the position of the gateway. -/
def ofConfig (config : BeaconConfig) (position : Coordinates) :
    Except RadioError BeaconPlanner := do
  let layout ← BeaconLayout.ofDataRate config.dataRate
  let bandwidth ← beaconBandwidth config.bandwidth
  return {
    config, layout, bandwidth
    latitude := fixedPoint position.latitude 90
    longitude := fixedPoint position.longitude 180 }

def isEnabled (planner : BeaconPlanner) : Bool := 0 < planner.config.period

def payloadSize (planner : BeaconPlanner) : Nat := planner.layout.size

/-- A coordinate in three octets, negative ones in two's complement. -/
def coordinateOctets (value : Int) : Octets :=
  Octets.ofNatLE 3 (value % 0x1000000).toNat

def checked (octets : Octets) : Octets :=
  octets ++ Octets.ofNatLE 2 (Checksum.crc16 octets).toNat

def timePart (planner : BeaconPlanner) (second : Nat) : Octets :=
  List.replicate planner.layout.reservedBefore 0 ++ Octets.ofNatLE 4 second

def gatewayPart (planner : BeaconPlanner) : Octets :=
  planner.config.info :: (coordinateOctets planner.latitude ++
    coordinateOctets planner.longitude ++ List.replicate planner.layout.reservedAfter 0)

def payload (planner : BeaconPlanner) (second : Nat) : Octets :=
  checked (planner.timePart second) ++ checked planner.gatewayPart

/-- The seconds between two beacons, at least one. -/
def spacing (planner : BeaconPlanner) : Nat := max planner.config.period.toNat 1

/-- The first multiple of the spacing after a second. -/
def nextMultiple (planner : BeaconPlanner) (second : Nat) : Nat :=
  second + (planner.spacing - second % planner.spacing)

/-- The GPS second of the next beacon to queue: one spacing after the last one while that lies
ahead, and one further for each failed attempt. -/
def nextSecond (planner : BeaconPlanner) (present : Nat) : Nat :=
  let base :=
    match planner.lastSecond with
    | some last =>
      if present < last + planner.spacing then last + planner.spacing
      else planner.nextMultiple present
    | none => planner.nextMultiple present
  base + planner.retries * planner.spacing

/-- The channel of a beacon; with several they take turns. -/
def channel (planner : BeaconPlanner) (second : Nat) : Nat :=
  if 1 < planner.config.channels then
    second / planner.spacing % planner.config.channels.toNat
  else 0

def frequency (planner : BeaconPlanner) (second : Nat) : UInt32 :=
  planner.config.frequency +
    UInt32.ofNat (planner.channel second) * planner.config.channelStep

def packet (planner : BeaconPlanner) (second : Nat) (reference : TimeReference) :
    TransmitPacket where
  frequency := planner.frequency second
  mode := .onGps
  counter := reference.counterAt (.of second 0)
  rfChain := 0
  power := planner.config.power
  dataRate := .lora planner.layout.factor planner.bandwidth
  codingRate := .cr45
  invertPolarity := false
  deviation := 0
  preamble := 10
  withoutCrc := true
  withoutHeader := true
  payload := planner.payload second

/-- Asks for one beacon. A refusal moves the next attempt on by one spacing. -/
def attempt (planner : BeaconPlanner) (scheduler : TxScheduler) (now : UInt32)
    (reference : TimeReference) (fill : BeaconFill) :
    BeaconPlanner × TxScheduler × BeaconFill :=
  let second := planner.nextSecond reference.gps.seconds
  match scheduler.enqueue now (planner.packet second reference) .beacon with
  | (.ok _, scheduler) =>
    ({ planner with lastSecond := some second, retries := 0 }, scheduler,
      { fill with queued := fill.queued + 1 })
  | (.error fault, scheduler) =>
    ({ planner with retries := planner.retries + 1 }, scheduler,
      if fault = .beaconCollision then fill else { fill with rejected := fill.rejected + 1 })

/-- At most `count` attempts, until enough beacons are queued on the first chain. -/
def attempts (now : UInt32) (reference : TimeReference) : (count : Nat) → BeaconPlanner →
    TxScheduler → BeaconFill → BeaconPlanner × TxScheduler × BeaconFill
  | 0, planner, scheduler, fill => (planner, scheduler, fill)
  | count + 1, planner, scheduler, fill =>
    if TxQueue.standardBeacons ≤ scheduler.beaconCount 0 then (planner, scheduler, fill)
    else
      let (planner, scheduler, fill) := planner.attempt scheduler now reference fill
      attempts now reference count planner scheduler fill

/-- Queues beacons until enough are ahead. Nothing is done while beacons are disabled, while no
GPS reference holds or while the counter cannot be read. -/
def fill (planner : BeaconPlanner) (scheduler : TxScheduler) (counter : Option UInt32)
    (clock : GpsClock) : BeaconPlanner × TxScheduler × BeaconFill :=
  match planner.isEnabled, clock.reference?, counter with
  | true, some reference, some now => attempts now reference maxAttempts planner scheduler {}
  | _, _, _ => (planner, scheduler, {})

end BeaconPlanner

end LorawanGateway
