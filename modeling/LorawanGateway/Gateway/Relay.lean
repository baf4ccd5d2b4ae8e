import LorawanGateway.Radio.Packet

/-!
Packets that a relay passed on. They arrive on a receive chain of their own with a header in front
of the payload: a marker and the counter value of the first reception.
-/

namespace LorawanGateway

/-- Whether the gateway is a relay, and whether it has one. -/
structure RelayConfig where
  asRelay : Bool := false
  hasRelay : Bool := false
  deriving DecidableEq, Repr

namespace RelayConfig

def chain : UInt8 := 8

/-- The bit of the marker that is set for packets on their way to a device. -/
def downlinkBit : UInt8 := 0x80

/-- The length of the header: the marker and the counter. -/
def headerLength : Nat := 5

def isActive (config : RelayConfig) : Bool := config.asRelay || config.hasRelay

/-- The packet without its header; `none` for one that is too short. -/
def unwrap? (packet : ReceivedPacket) : Option ReceivedPacket :=
  if packet.payload.length < headerLength then none
  else some { packet with
    counter := packet.payload.word32At 1
    payload := packet.payload.drop headerLength }

/-- Whether the packet is marked as being on its way to a device. -/
def isDownlink (packet : ReceivedPacket) : Bool :=
  packet.payload.head?.any fun marker => marker &&& downlinkBit != 0

/-- What becomes of a packet. A relay drops what it hears from relays; nobody takes in what is on
its way to a device. -/
def transform? (config : RelayConfig) (packet : ReceivedPacket) : Option ReceivedPacket :=
  if packet.ifChain ≠ chain then some packet
  else if config.asRelay ∨ isDownlink packet then none
  else if config.hasRelay then unwrap? packet
  else some packet

/-- What becomes of the packets of a batch, in their order. -/
def transform (config : RelayConfig) (batch : List ReceivedPacket) : List ReceivedPacket :=
  if config.isActive then batch.filterMap config.transform? else batch

end RelayConfig

end LorawanGateway
