import LorawanGateway.Mac.Address
import LorawanGateway.Mac.Join

/-!
Frames of the MAC layer and their wire form. Integers stand least significant octet first; every
frame but a join-accept and a proprietary one ends with a four-octet integrity code.
-/

namespace LorawanGateway

/-- What the top three bits of a frame header say. -/
inductive FrameType where
  | joinRequest
  | joinAccept
  | data (confirmed : Bool) (direction : Direction)
  | rejoin
  | proprietary
  deriving DecidableEq, Repr

namespace FrameType

def ofHeader (header : UInt8) : FrameType :=
  match header.toNat / 32 with
  | 0 => .joinRequest
  | 1 => .joinAccept
  | 2 => .data false .uplink
  | 3 => .data false .downlink
  | 4 => .data true .uplink
  | 5 => .data true .downlink
  | 6 => .rejoin
  | _ => .proprietary

/-- The header octet of a type, all other bits zero. -/
def header : FrameType → UInt8
  | .joinRequest => 0x00
  | .joinAccept => 0x20
  | .data false .uplink => 0x40
  | .data false .downlink => 0x60
  | .data true .uplink => 0x80
  | .data true .downlink => 0xA0
  | .rejoin => 0xC0
  | .proprietary => 0xE0

def name : FrameType → String
  | .joinRequest => "JoinRequest"
  | .joinAccept => "JoinAccept"
  | .data false .uplink => "UnconfirmedDataUp"
  | .data false .downlink => "UnconfirmedDataDown"
  | .data true .uplink => "ConfirmedDataUp"
  | .data true .downlink => "ConfirmedDataDown"
  | .rejoin => "Rejoin"
  | .proprietary => "Proprietary"

def isData : FrameType → Bool
  | .data .. => true
  | _ => false

def direction : FrameType → Direction
  | .joinAccept => .downlink
  | .data _ direction => direction
  | _ => .uplink

end FrameType

/-- The control octet of a data frame: four flags and the number of option octets. -/
structure FrameControl where
  octet : UInt8
  deriving DecidableEq, Repr

namespace FrameControl

def adaptiveRate (control : FrameControl) : Bool := control.octet &&& 0x80 != 0

def adaptiveRateRequest (control : FrameControl) : Bool := control.octet &&& 0x40 != 0

def acknowledges (control : FrameControl) : Bool := control.octet &&& 0x20 != 0

/-- More is waiting (downlink), or the device listens to beacons (uplink). -/
def pending (control : FrameControl) : Bool := control.octet &&& 0x10 != 0

def optionsLength (control : FrameControl) : Nat := control.octet.toNat % 16

end FrameControl

/-- A data frame, its payload still encrypted. -/
structure DataFrame where
  confirmed : Bool
  direction : Direction
  address : DevAddr
  control : FrameControl
  counter : UInt16
  options : Octets
  fPort : Option UInt8
  payload : Octets
  code : UInt32
  deriving DecidableEq, Repr

/-- A request of a device to join. -/
structure JoinRequest where
  joinEui : Eui64
  deviceEui : Eui64
  deviceNonce : UInt16
  code : UInt32
  deriving DecidableEq, Repr

/-- What a rejoin request is for, and whom it is addressed to. -/
inductive RejoinPurpose where
  /-- Start over, with the network identifier: type 0. -/
  | reset (networkId : UInt32)
  /-- Recover a lost session, with the join identifier: type 1. -/
  | recover (joinEui : Eui64)
  /-- Renew keys or address, with the network identifier: type 2. -/
  | renew (networkId : UInt32)
  deriving DecidableEq, Repr

/-- A request of a device to join again. -/
structure RejoinRequest where
  purpose : RejoinPurpose
  deviceEui : Eui64
  counter : UInt16
  code : UInt32
  deriving DecidableEq, Repr

/-- A frame. The bodies of a join-accept and of a proprietary frame are what follows the header. -/
inductive Frame where
  | joinRequest (request : JoinRequest)
  | rejoin (request : RejoinRequest)
  | joinAccept (body : Octets)
  | data (frame : DataFrame)
  | proprietary (body : Octets)
  deriving DecidableEq, Repr

namespace DataFrame

def frameType (frame : DataFrame) : FrameType := .data frame.confirmed frame.direction

/-- The octets covered by the integrity code: all before it. -/
def signed (frame : DataFrame) : Octets :=
  frame.frameType.header :: (Octets.ofNatLE 4 frame.address.word.toNat ++
    [frame.control.octet] ++ Octets.ofNatLE 2 frame.counter.toNat ++ frame.options ++
    frame.fPort.toList ++ frame.payload)

def octets (frame : DataFrame) : Octets :=
  frame.signed ++ Octets.ofNatLE 4 frame.code.toNat

/-- What the cipher blocks of the frame depend on, given the upper half of its counter. -/
def context (frame : DataFrame) (counterHigh : UInt16) : FrameContext where
  address := frame.address.word
  direction := frame.direction
  counter := UInt32.ofNat (counterHigh.toNat * 0x10000 + frame.counter.toNat)

/-- Whether the integrity code is the one the network key gives. -/
def verify (cipher : BlockCipher) (frame : DataFrame) (networkKey : Octets)
    (counterHigh : UInt16) : Except MacError Bool := do
  let code ← integrityCode cipher (frame.context counterHigh) networkKey frame.signed
  return code == frame.code

/-- The decrypted payload. FPort 0 carries MAC commands under the network key. -/
def clearPayload (cipher : BlockCipher) (frame : DataFrame) (networkKey applicationKey : Octets)
    (counterHigh : UInt16) : Except MacError Octets :=
  let key := if frame.fPort = some 0 then networkKey else applicationKey
  decryptPayload cipher (frame.context counterHigh) key frame.payload

end DataFrame

namespace JoinRequest

def signed (request : JoinRequest) : Octets :=
  FrameType.joinRequest.header :: (Octets.ofNatLE 8 request.joinEui.word.toNat ++
    Octets.ofNatLE 8 request.deviceEui.word.toNat ++
    Octets.ofNatLE 2 request.deviceNonce.toNat)

def octets (request : JoinRequest) : Octets :=
  request.signed ++ Octets.ofNatLE 4 request.code.toNat

/-- Whether the integrity code is the one the root key gives. -/
def verify (cipher : BlockCipher) (request : JoinRequest) (key : Octets) :
    Except MacError Bool := do
  let code ← joinIntegrityCode cipher key request.signed
  return code == request.code

end JoinRequest

namespace RejoinPurpose

def typeOctet : RejoinPurpose → UInt8
  | .reset _ => 0
  | .recover _ => 1
  | .renew _ => 2

/-- The network identifier, where the request carries one. -/
def networkId? : RejoinPurpose → Option UInt32
  | .reset networkId | .renew networkId => some networkId
  | .recover _ => none

/-- The join identifier, where the request carries one. -/
def joinEui? : RejoinPurpose → Option Eui64
  | .recover joinEui => some joinEui
  | _ => none

/-- The wire form: the type and whom the request is addressed to. -/
def octets : RejoinPurpose → Octets
  | .reset networkId => 0 :: Octets.ofNatLE 3 networkId.toNat
  | .recover joinEui => 1 :: Octets.ofNatLE 8 joinEui.word.toNat
  | .renew networkId => 2 :: Octets.ofNatLE 3 networkId.toNat

end RejoinPurpose

namespace RejoinRequest

def signed (request : RejoinRequest) : Octets :=
  FrameType.rejoin.header :: (request.purpose.octets ++
    Octets.ofNatLE 8 request.deviceEui.word.toNat ++ Octets.ofNatLE 2 request.counter.toNat)

def octets (request : RejoinRequest) : Octets :=
  request.signed ++ Octets.ofNatLE 4 request.code.toNat

end RejoinRequest

/-- Who a frame is from, as far as it says so; zero where it does not. -/
structure FrameIdentity where
  fPort : UInt8
  address : DevAddr
  networkId : UInt8
  deviceEui : Eui64
  deriving DecidableEq, Repr

namespace FrameIdentity

/-- A frame that says nothing. -/
def unknown : FrameIdentity := ⟨0, ⟨0⟩, 0, ⟨0⟩⟩

end FrameIdentity

namespace Frame

def frameType : Frame → FrameType
  | .joinRequest _ => .joinRequest
  | .rejoin _ => .rejoin
  | .joinAccept _ => .joinAccept
  | .data frame => frame.frameType
  | .proprietary _ => .proprietary

def identity : Frame → FrameIdentity
  | .data frame => ⟨frame.fPort.getD 0, frame.address, frame.address.networkId, ⟨0⟩⟩
  | .joinRequest request => { FrameIdentity.unknown with deviceEui := request.deviceEui }
  | .rejoin request => { FrameIdentity.unknown with deviceEui := request.deviceEui }
  | _ => .unknown

/-- The wire form. Of a proprietary frame the low header bits are not kept and come out as zero. -/
def octets : Frame → Octets
  | .joinRequest request => request.octets
  | .rejoin request => request.octets
  | .joinAccept body => FrameType.joinAccept.header :: body
  | .data frame => frame.octets
  | .proprietary body => FrameType.proprietary.header :: body

end Frame

end LorawanGateway
