import LorawanGateway.Text.Hex

/-!
Why a frame, a key or a buffer is refused by the MAC layer.
-/

namespace LorawanGateway

/-- What is wrong with the octets of a frame. -/
inductive FrameFault where
  | empty
  | unsupportedMajor
  | reservedBits
  | joinRequestLength
  | rejoinWithoutType
  | rejoinNetIdLength
  | rejoinJoinEuiLength
  | unknownRejoinType
  | dataTooShort
  | optionsOverrun
  | joinAcceptLength
  deriving DecidableEq, Repr

def FrameFault.message : FrameFault → String
  | .empty => "empty frame"
  | .unsupportedMajor => "unsupported major version"
  | .reservedBits => "reserved header bits set"
  | .joinRequestLength => "join request must be 23 bytes"
  | .rejoinWithoutType => "rejoin request without type"
  | .rejoinNetIdLength => "rejoin type 0/2 must be 19 bytes"
  | .rejoinJoinEuiLength => "rejoin type 1 must be 24 bytes"
  | .unknownRejoinType => "unknown rejoin type"
  | .dataTooShort => "data frame shorter than 12 bytes"
  | .optionsOverrun => "frame options overrun the MIC"
  | .joinAcceptLength => "join accept must be 17 or 33 bytes"

/-- A refusal of the MAC layer. -/
inductive MacError where
  | invalidKeyLength (length : Nat)
  | bufferTooLong (length limit : Nat)
  | unalignedJoinBuffer (length : Nat)
  | malformedFrame (fault : FrameFault)
  | invalidHexKey (cause : Hex.DecodeError)
  deriving DecidableEq, Repr

def MacError.message : MacError → String
  | .invalidKeyLength length => s!"Invalid key length: expected 16 bytes, got {length}"
  | .bufferTooLong length limit => s!"Buffer of {length} bytes exceeds the {limit} byte limit"
  | .unalignedJoinBuffer length =>
    s!"Join buffer length {length} is not a multiple of the block size"
  | .malformedFrame fault => s!"Malformed frame: {fault.message}"
  | .invalidHexKey cause => s!"Invalid hex key: {cause.message}"

end LorawanGateway
