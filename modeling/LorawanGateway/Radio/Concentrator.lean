import LorawanGateway.Radio.Error
import LorawanGateway.Radio.Packet

/-!
The concentrator as the gateway sees it: a 32-bit microsecond counter, packets waiting to be
fetched, and a log of what was sent. Its counter stands still unless it is set or moved, or it
runs along with the time that passes.
-/

namespace LorawanGateway

/-- A concentrator. `elapsed` is the time since its start by which a running counter is ahead of
`offset`. -/
structure Concentrator where
  readable : Bool := true
  running : Bool := false
  offset : UInt32 := 0
  elapsed : UInt32 := 0
  waiting : List ReceivedPacket := []
  transmitted : List TransmitPacket := []
  receivedCount : Nat := 0
  sentCount : Nat := 0
  sentOctets : Nat := 0

namespace Concentrator

def counter (radio : Concentrator) : UInt32 := radio.offset + radio.elapsed

def now? (radio : Concentrator) : Option UInt32 :=
  if radio.readable then some radio.counter else none

def setTime (radio : Concentrator) (counter : UInt32) : Concentrator :=
  { radio with offset := counter - radio.elapsed }

def advance (radio : Concentrator) (microseconds : UInt32) : Concentrator :=
  { radio with offset := radio.offset + microseconds }

def sleep (radio : Concentrator) (microseconds : Nat) : Concentrator :=
  if radio.running then { radio with elapsed := radio.elapsed + UInt32.ofNat microseconds }
  else radio

def inject (radio : Concentrator) (packet : ReceivedPacket) : Concentrator :=
  { radio with waiting := radio.waiting ++ [packet] }

/-- Fetches the packets that have waited longest, at most `most` of them. -/
def receive (radio : Concentrator) (most : Nat) : List ReceivedPacket × Concentrator :=
  let batch := radio.waiting.take most
  (batch, { radio with
    waiting := radio.waiting.drop most
    receivedCount := radio.receivedCount + batch.length })

/-- Sends a packet; a payload that is too long is refused. -/
def send (radio : Concentrator) (packet : TransmitPacket) : Except RadioError Concentrator :=
  if maxPayloadLength < packet.payload.length then .error (.invalidParameter .payloadSize)
  else .ok { radio with
    transmitted := radio.transmitted ++ [packet]
    sentCount := radio.sentCount + 1
    sentOctets := radio.sentOctets + packet.payload.length }

/-- Sends packets one after the other and counts those that were not refused. -/
def sendAll (radio : Concentrator) : List TransmitPacket → Concentrator × Nat
  | [] => (radio, 0)
  | packet :: rest =>
    match radio.send packet with
    | .error _ => radio.sendAll rest
    | .ok radio =>
      let (radio, sent) := radio.sendAll rest
      (radio, sent + 1)

end Concentrator

end LorawanGateway
