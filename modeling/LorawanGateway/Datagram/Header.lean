import LorawanGateway.Mac.Address

/-!
The header of the datagrams between a gateway and its network server: the version, a token that
pairs a request with its answer, the kind, and from the gateway also its identifier. Multi-octet
values stand most significant octet first.
-/

namespace LorawanGateway

/-- A value that pairs a datagram with its acknowledgement. -/
structure Token where
  word : UInt16
  deriving DecidableEq, Repr, Inhabited

def Token.octets (token : Token) : Octets := Octets.ofNatBE 2 token.word.toNat

/-- What a datagram is for. -/
inductive DatagramKind where
  | pushData
  | pushAck
  | pullData
  | pullResp
  | pullAck
  | txAck
  deriving DecidableEq, Repr

namespace DatagramKind

def all : List DatagramKind := [.pushData, .pushAck, .pullData, .pullResp, .pullAck, .txAck]

def id : DatagramKind → UInt8
  | .pushData => 0
  | .pushAck => 1
  | .pullData => 2
  | .pullResp => 3
  | .pullAck => 4
  | .txAck => 5

def label : DatagramKind → String
  | .pushData => "PushData"
  | .pushAck => "PushAck"
  | .pullData => "PullData"
  | .pullResp => "PullResp"
  | .pullAck => "PullAck"
  | .txAck => "TxAck"

end DatagramKind

/-- Why a datagram is refused, or cannot be written. -/
inductive DatagramError where
  | tooShort (length : Nat)
  | badVersion (version : UInt8)
  | unknownKind (id : UInt8)
  | unexpected (kind : DatagramKind)
  | overflow (capacity : Nat)
  | malformedJson
  | missingTxpk
  deriving DecidableEq, Repr

def DatagramError.message : DatagramError → String
  | .tooShort length => s!"Datagram too short ({length} bytes)"
  | .badVersion version => s!"Unsupported protocol version {version.toNat}"
  | .unknownKind id => s!"Unknown packet id {id.toNat}"
  | .unexpected kind => s!"Unexpected {kind.label} datagram"
  | .overflow capacity => s!"Datagram would exceed {capacity} bytes"
  | .malformedJson => "Invalid JSON"
  | .missingTxpk => "No \"txpk\" object in PULL_RESP"

def DatagramKind.ofId (octet : UInt8) : Except DatagramError DatagramKind :=
  match all.find? fun kind => kind.id == octet with
  | some kind => .ok kind
  | none => .error (.unknownKind octet)

namespace Datagram

def version : UInt8 := 2

def shortHeaderLength : Nat := 4

def fullHeaderLength : Nat := 12

/-- The packets fetched from the concentrator at a time. -/
def captureLimit : Nat := 8

/-- The longest datagram to the server: a full capture of packets and a status report. -/
def sendCapacity : Nat := 540 * captureLimit + 30 + 200

/-- The longest datagram read from the server; what is longer is cut. -/
def receiveCapacity : Nat := 1000

/-- A header; a datagram of the server carries no gateway identifier. -/
def header (token : Token) (kind : DatagramKind) (gateway : Option Eui64) : Octets :=
  version :: (token.octets ++ kind.id ::
    gateway.elim [] fun gateway => Octets.ofNatBE 8 gateway.word.toNat)

/-- The datagram that asks the server for what it holds and keeps the way back open. -/
def pullData (token : Token) (gateway : Eui64) : Octets := header token .pullData (some gateway)

end Datagram

/-- A datagram in the making, which never grows beyond its capacity. -/
structure DatagramBuffer where
  capacity : Nat
  octets : Octets
  deriving DecidableEq, Repr

namespace DatagramBuffer

/-- A buffer with nothing in it. -/
def empty (capacity : Nat) : DatagramBuffer := ⟨capacity, []⟩

/-- Appends octets, unless they do not fit. -/
def append (buffer : DatagramBuffer) (octets : Octets) : Except DatagramError DatagramBuffer :=
  if buffer.capacity < buffer.octets.length + octets.length then
    .error (.overflow buffer.capacity)
  else .ok { buffer with octets := buffer.octets ++ octets }

def withHeader (capacity : Nat) (token : Token) (kind : DatagramKind) (gateway : Option Eui64) :
    Except DatagramError DatagramBuffer :=
  (empty capacity).append (Datagram.header token kind gateway)

end DatagramBuffer

end LorawanGateway
