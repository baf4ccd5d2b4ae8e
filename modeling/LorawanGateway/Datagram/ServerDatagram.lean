import LorawanGateway.Datagram.Header
import LorawanGateway.Json.Printer
import LorawanGateway.Json.Record
import LorawanGateway.Transmit.Error

/-!
Datagrams from the server, and the acknowledgement of a request to send. The body of a request is
kept as it is, so that a fault in one of its fields can still be acknowledged.
-/

namespace LorawanGateway

/-- A datagram from the server. -/
inductive ServerDatagram where
  | pushAck (token : Token)
  | pullAck (token : Token)
  | pullResp (token : Token) (txpk : Json)

namespace ServerDatagram

def token : ServerDatagram → Token
  | .pushAck token => token
  | .pullAck token => token
  | .pullResp token _ => token

/-- The request in a body: the member `txpk` of a record. It lies inside the record, which leaves
one level of nesting less to it. -/
def readRequest (body : Octets) : Except DatagramError Json :=
  match Json.ofOctets? body with
  | none => .error .malformedJson
  | some value =>
    match (Json.record? ["txpk"] value).bind fun record =>
        record.optional "txpk" (Json.settle? (Json.depthLimit - 1)) with
    | none => .error .malformedJson
    | some none => .error .missingTxpk
    | some (some txpk) => .ok txpk

/-- Reads a datagram. Only what a server sends is accepted. -/
def ofOctets : Octets → Except DatagramError ServerDatagram
  | version :: high :: low :: id :: body =>
    if version ≠ Datagram.version then .error (.badVersion version)
    else
      let token : Token := ⟨UInt16.ofNat (Octets.toNatBE [high, low])⟩
      match DatagramKind.ofId id with
      | .error fault => .error fault
      | .ok .pushAck => .ok (.pushAck token)
      | .ok .pullAck => .ok (.pullAck token)
      | .ok .pullResp => (readRequest body).map (.pullResp token)
      | .ok kind => .error (.unexpected kind)
  | octets => .error (.tooShort octets.length)

end ServerDatagram

/-- What the server is told about a request. -/
inductive TxAckStatus where
  | accepted
  | rejected (cause : TxError)
  | powerAdjusted (power : Int8)
  deriving DecidableEq, Repr

namespace TxAckStatus

/-- The members of the acknowledgement, in the order of their names. -/
def members : TxAckStatus → List (String × Json)
  | .accepted => [("error", .text "NONE")]
  | .rejected cause => [("error", .text cause.name)]
  | .powerAdjusted power => [("value", .integer power.toInt), ("warn", .text "TX_POWER")]

def toJson (status : TxAckStatus) : Json := .object [("txpk_ack", .object status.members)]

end TxAckStatus

def Datagram.txAck (token : Token) (gateway : Eui64) (status : TxAckStatus) :
    Except DatagramError Octets := do
  let buffer ← DatagramBuffer.withHeader receiveCapacity token .txAck (some gateway)
  let buffer ← buffer.append status.toJson.print
  return buffer.octets

end LorawanGateway
