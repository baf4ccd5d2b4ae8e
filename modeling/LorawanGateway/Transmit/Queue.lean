import LorawanGateway.Radio.AirTime
import LorawanGateway.Transmit.Error

/-!
The transmit queue of one radio chain. Times are values of a 32-bit microsecond counter that
wraps; what is near or far is decided by differences from the present counter value only. An
entry occupies the air from `pre` before its send time to `post` after it, and entries are kept
apart by a margin. Some places are reserved for beacons.
-/

namespace LorawanGateway

/-- What a packet is sent for: a beacon, an answer in a receive window (A), a ping slot (B), or the
next free moment (C). -/
inductive PacketClass where
  | beacon
  | classA
  | classB
  | classC
  deriving DecidableEq, Repr

namespace PacketClass

def all : List PacketClass := [.beacon, .classA, .classB, .classC]

def name : PacketClass → String
  | .beacon => "beacon"
  | .classA => "A"
  | .classB => "B"
  | .classC => "C"

end PacketClass

namespace Timing

/-- Microseconds the radio needs between the command and the signal. -/
def startDelay : UInt32 := 1500

/-- Microseconds that stay free between two packets. -/
def margin : UInt32 := 1000

/-- How many microseconds before its send time a packet is handed to the radio. -/
def lead : UInt32 := 40000

/-- Microseconds kept free before a beacon. -/
def beaconGuard : UInt32 := 3000000

/-- Microseconds reserved for a beacon itself. -/
def beaconReserved : UInt32 := 2120000

/-- How many microseconds ahead a packet may lie: four beacon periods of 128 seconds. -/
def maxAdvance : UInt32 := 512000000

end Timing

/-- A packet with its place in a queue. -/
structure QueueEntry where
  packetClass : PacketClass
  packet : TransmitPacket
  pre : UInt32
  post : UInt32
  deriving DecidableEq, Repr

namespace QueueEntry

def sendTime (entry : QueueEntry) : UInt32 := entry.packet.counter

/-- How far ahead of the present the entry lies, round the counter. -/
def ahead (now : UInt32) (entry : QueueEntry) : UInt32 := entry.sendTime - now

def isBeacon (entry : QueueEntry) : Bool := entry.packetClass == .beacon

end QueueEntry

/-- Whether two send times with the spans occupied before and after them are too close. -/
def collides (time₁ pre₁ post₁ time₂ pre₂ post₂ : UInt32) : Bool :=
  time₁ - time₂ ≤ pre₁ + post₂ + Timing.margin || time₂ - time₁ ≤ pre₂ + post₁ + Timing.margin

/-- The entries of a queue and how many places it has, in all and for beacons. -/
structure TxQueue where
  entries : List QueueEntry
  capacity : Nat
  beaconTarget : Nat
  beaconCount : Nat
  deriving DecidableEq, Repr

namespace TxQueue

def standardCapacity : Nat := 32

def standardBeacons : Nat := 3

/-- An empty queue; no more places are reserved than there are. -/
def empty (capacity beaconTarget : Nat) : TxQueue :=
  ⟨[], capacity, min beaconTarget capacity, 0⟩

def standard : TxQueue := empty standardCapacity standardBeacons

def size (queue : TxQueue) : Nat := queue.entries.length

def isFull (queue : TxQueue) : Bool := queue.capacity ≤ queue.size

/-- Whether the queue holds nothing. -/
def isEmpty (queue : TxQueue) : Bool := queue.entries.isEmpty

/-- Entries in the order in which they lie ahead of the present; what lies equally far keeps its
order. -/
def inOrder (now : UInt32) (entries : List QueueEntry) : List QueueEntry :=
  entries.mergeSort fun a b => a.ahead now ≤ b.ahead now

/-- The queue with its entries in order. -/
def sorted (queue : TxQueue) (now : UInt32) : TxQueue :=
  { queue with entries := inOrder now queue.entries }

/-- The spans a packet of a class occupies before and after its send time. -/
def occupied (packetClass : PacketClass) (packet : TransmitPacket) : UInt32 × UInt32 :=
  match packetClass with
  | .beacon => (Timing.startDelay + Timing.beaconGuard + Timing.lead, Timing.beaconReserved)
  | _ => (Timing.startDelay + Timing.lead, packet.airTime)

def soonest (now : UInt32) : UInt32 := now + 2 * Timing.lead

def afterEntry (pre : UInt32) (entry : QueueEntry) : UInt32 :=
  entry.sendTime + (entry.post + pre + Timing.lead + Timing.margin)

/-- The time right after the first entry that leaves a gap before the next one. -/
def gapAfter (pre post : UInt32) : (slot : UInt32) → List QueueEntry → UInt32
  | slot, [] => slot
  | _, [entry] => afterEntry pre entry
  | _, entry :: next :: rest =>
    let slot := afterEntry pre entry
    if collides slot pre post next.sendTime next.pre next.post then
      gapAfter pre post slot (next :: rest)
    else slot

/-- The first time from the soonest on at which a packet fits, among entries in order. -/
def freeSlot (entries : List QueueEntry) (now pre post : UInt32) : UInt32 :=
  let slot := soonest now
  if entries.all fun e => !collides slot pre post e.sendTime e.pre e.post then slot
  else gapAfter pre post slot entries

def hasPlace (queue : TxQueue) (packetClass : PacketClass) : Bool :=
  !queue.isFull &&
    match packetClass with
    | .beacon => queue.beaconCount < queue.beaconTarget
    | _ => queue.size + (queue.beaconTarget - queue.beaconCount) < queue.capacity

/-- The packet with the send time it gets: class C takes the first free time. -/
def placed (entries : List QueueEntry) (now : UInt32) (packetClass : PacketClass)
    (packet : TransmitPacket) : TransmitPacket :=
  if packetClass = .classC then
    let (pre, post) := occupied packetClass packet
    { packet with counter := freeSlot entries now pre post, mode := .timestamped }
  else packet

/-- The span before a newcomer that an entry has to leave free. Answers of class A and C may end
right before a beacon's own guard. -/
def guardAgainst (packetClass : PacketClass) (entry : QueueEntry) (pre : UInt32) : UInt32 :=
  match packetClass, entry.packetClass with
  | .classA, .beacon => Timing.startDelay
  | .classC, .beacon => Timing.startDelay
  | _, _ => pre

/-- What is wrong with a send time that lies `ahead` of the present. -/
def timingFault? (packetClass : PacketClass) (ahead : UInt32) : Option TxError :=
  if ahead ≤ Timing.startDelay + Timing.margin + Timing.lead then some .tooLate
  else if (packetClass = .classA ∨ packetClass = .classB) ∧ Timing.maxAdvance < ahead then
    some .tooEarly
  else none

def collisionWith (entry : QueueEntry) : TxError :=
  if entry.isBeacon then .beaconCollision else .packetCollision

/-- The first collision of a newcomer with the entries. -/
def collision? (entries : List QueueEntry) (newcomer : QueueEntry) : Option TxError :=
  (entries.find? fun e =>
    collides newcomer.sendTime (guardAgainst newcomer.packetClass e newcomer.pre) newcomer.post
      e.sendTime e.pre e.post).map collisionWith

/-- Checks a packet against the queue and gives it its send time. The queue comes back in order;
nothing is inserted. -/
def accept (queue : TxQueue) (now : UInt32) (packet : TransmitPacket)
    (packetClass : PacketClass) : Except TxError QueueEntry × TxQueue :=
  if !queue.hasPlace packetClass then (.error .full, queue)
  else
    let queue := queue.sorted now
    let (pre, post) := occupied packetClass packet
    let placed := placed queue.entries now packetClass packet
    let newcomer : QueueEntry := ⟨packetClass, placed, pre, post⟩
    match timingFault? packetClass (newcomer.ahead now) with
    | some fault => (.error fault, queue)
    | none =>
      match collision? queue.entries newcomer with
      | some fault => (.error fault, queue)
      | none => (.ok newcomer, queue)

def insert (queue : TxQueue) (now : UInt32) (entry : QueueEntry) : TxQueue :=
  { queue with
    entries := inOrder now (queue.entries ++ [entry])
    beaconCount := queue.beaconCount + if entry.isBeacon then 1 else 0 }

/-- Admits a packet and puts it into its place; the answer is its send time. -/
def enqueue (queue : TxQueue) (now : UInt32) (packet : TransmitPacket)
    (packetClass : PacketClass) : Except TxError UInt32 × TxQueue :=
  match queue.accept now packet packetClass with
  | (.error fault, queue) => (.error fault, queue)
  | (.ok entry, queue) => (.ok entry.sendTime, queue.insert now entry)

/-- Whether an entry is still to be sent: what lies too far ahead has gone by. -/
def isCurrent (now : UInt32) (entry : QueueEntry) : Bool :=
  entry.ahead now < Timing.maxAdvance

def purge (queue : TxQueue) (now : UInt32) : TxQueue :=
  let kept := queue.entries.filter (isCurrent now)
  let beacons := (queue.entries.filter fun e => !isCurrent now e && e.isBeacon).length
  { queue with
    entries := if kept.length = queue.size then queue.entries else inOrder now kept
    beaconCount := queue.beaconCount - beacons }

/-- The entry that lies nearest ahead; the first of several. -/
def nearest? (now : UInt32) : List QueueEntry → Option QueueEntry
  | [] => none
  | entry :: rest =>
    match nearest? now rest with
    | none => some entry
    | some other => if entry.ahead now ≤ other.ahead now then some entry else some other

def due? (now : UInt32) (entries : List QueueEntry) : Option QueueEntry :=
  (nearest? now entries).filter fun entry => entry.ahead now < Timing.lead

/-- The next packet to hand to the radio now, if there is one. -/
def peek (queue : TxQueue) (now : UInt32) : Option QueueEntry × TxQueue :=
  let queue := queue.purge now
  (due? now queue.entries, queue)

def pop (queue : TxQueue) (now : UInt32) : Option QueueEntry × TxQueue :=
  let queue := queue.purge now
  match due? now queue.entries with
  | none => (none, queue)
  | some entry =>
    (some entry, { queue with
      entries := queue.entries.erase entry
      beaconCount := queue.beaconCount - if entry.isBeacon then 1 else 0 })

/-- Takes all packets to hand to the radio now, in order. -/
def drain (queue : TxQueue) (now : UInt32) : List QueueEntry × TxQueue :=
  go queue.size queue
where
  /-- At most `count` packets. -/
  go : (count : Nat) → TxQueue → List QueueEntry × TxQueue
  | 0, queue => ([], queue.purge now)
  | count + 1, queue =>
    match queue.pop now with
    | (none, queue) => ([], queue)
    | (some entry, queue) =>
      let (entries, queue) := go count queue
      (entry :: entries, queue)

end TxQueue

end LorawanGateway
