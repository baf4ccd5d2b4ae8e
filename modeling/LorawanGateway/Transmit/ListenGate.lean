import LorawanGateway.Radio.Packet
import LorawanGateway.Transmit.Error

/-!
Listening before talking: a fixed number of slots, each of which keeps a channel reserved until
its transmission has left. A slot can be taken again once the send time has passed, seen from the
present on the 32-bit counter.
-/

namespace LorawanGateway

/-- A channel that is taken until a send time. -/
structure Reservation where
  frequency : UInt32
  sendTime : UInt32
  deriving DecidableEq, Repr

namespace Reservation

/-- Whether the send time has passed: the present lies after it by less than half a turn of the
counter. -/
def hasPassed (reservation : Reservation) (now : UInt32) : Bool :=
  let since := now - reservation.sendTime
  0 < since && since < 0x80000000

def ofPacket (packet : TransmitPacket) : Reservation := ⟨packet.frequency, packet.counter⟩

end Reservation

/-- The slots for reservations; a slot that was never taken holds nothing. -/
structure ListenGate where
  slots : List (Option Reservation)
  deriving DecidableEq, Repr

namespace ListenGate

/-- The slots of a gateway that does not ask for another number. -/
def standardSlots : Nat := 16

def ofSize (count : Nat) : ListenGate := ⟨List.replicate count none⟩

def isFree (now : UInt32) (slot : Option Reservation) : Bool :=
  slot.all fun reservation => reservation.hasPassed now

/-- Takes the first free slot for a packet; the answer is its number. -/
def reserve (gate : ListenGate) (packet : TransmitPacket) (now : UInt32) :
    Except TxError (Nat × ListenGate) :=
  match gate.slots.findIdx? (isFree now) with
  | none => .error .full
  | some index => .ok (index, ⟨gate.slots.set index (some (.ofPacket packet))⟩)

def pending (gate : ListenGate) (now : UInt32) : List Reservation :=
  (gate.slots.filterMap id).filter fun reservation => !reservation.hasPassed now

/-- The frequencies that are still taken, in the order of the slots. -/
def busyChannels (gate : ListenGate) (now : UInt32) : List UInt32 :=
  (gate.pending now).map (·.frequency)

end ListenGate

end LorawanGateway
