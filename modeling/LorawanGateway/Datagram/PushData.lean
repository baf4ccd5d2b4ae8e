import LorawanGateway.Datagram.Header
import LorawanGateway.Datagram.Rxpk
import LorawanGateway.Datagram.Stat

/-!
The datagram that carries received packets and a status report to the server. It is put together
piece by piece, and a piece that would make it longer than its capacity is refused, so that what
was taken always fits.
-/

namespace LorawanGateway

/-- A datagram in the making: the texts of the packets in order and of the report. -/
structure PushData where
  capacity : Nat
  token : Token
  gateway : Eui64
  packets : List Octets := []
  report : Option Octets := none
  deriving DecidableEq, Repr

namespace PushData

def separated : List Octets → Octets
  | [] => []
  | [text] => text
  | text :: rest => text ++ 0x2C :: separated rest

/-- The member for the packets, if there are any. -/
def packetsMember (packets : List Octets) : Octets :=
  if packets.isEmpty then []
  else Octets.ofText "\"rxpk\":[" ++ separated packets ++ [0x5D]

/-- The member for the report, if there is one. -/
def reportMember : Option Octets → Octets
  | none => []
  | some text => Octets.ofText "\"stat\":" ++ text

/-- The body: an object of the members that are there. -/
def body (packets : List Octets) (report : Option Octets) : Octets :=
  let members := [packetsMember packets, reportMember report].filter fun member => !member.isEmpty
  0x7B :: (separated members ++ [0x7D])

/-- The length of the whole datagram, computed from the lengths of its pieces. -/
def projectedLength (packets : List Nat) (report : Option Nat) : Nat :=
  Datagram.fullHeaderLength + 2 +
    (if packets.isEmpty then 0 else 9 + packets.foldr (· + ·) 0 + packets.length - 1) +
    match report with
    | none => 0
    | some length => (if packets.isEmpty then 0 else 1) + 7 + length

/-- Whether some pieces make a datagram that is not too long. -/
def fits (capacity : Nat) (packets : List Octets) (report : Option Octets) : Bool :=
  projectedLength (packets.map List.length) (report.map List.length) ≤ capacity

/-- Appends a packet, if it fits. -/
def pushPacket (push : PushData) (rxpk : Rxpk) : Except DatagramError PushData :=
  let packets := push.packets ++ [rxpk.toJson.print]
  if fits push.capacity packets push.report then .ok { push with packets }
  else .error (.overflow push.capacity)

/-- Sets the report, if it fits; an earlier one is replaced. -/
def setReport (push : PushData) (stat : Stat) : Except DatagramError PushData :=
  let report := some stat.toJson.print
  if fits push.capacity push.packets report then .ok { push with report }
  else .error (.overflow push.capacity)

/-- Whether there is nothing to send. -/
def isEmpty (push : PushData) : Bool := push.packets.isEmpty && push.report.isNone

/-- The whole datagram, unless the capacity is too small even for what frames it. -/
def finish (push : PushData) : Except DatagramError Octets := do
  let buffer ← DatagramBuffer.withHeader push.capacity push.token .pushData (some push.gateway)
  let buffer ← buffer.append (body push.packets push.report)
  return buffer.octets

end PushData

end LorawanGateway
