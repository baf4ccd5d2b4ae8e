import LorawanGateway.Text.Hex

/-!
Device addresses and extended identifiers, and their upper-case hexadecimal text.
-/

namespace LorawanGateway

/-- A 32-bit device address; its top seven bits name the network. -/
structure DevAddr where
  word : UInt32
  deriving DecidableEq, Repr, Inhabited

/-- A 64-bit extended identifier. -/
structure Eui64 where
  word : UInt64
  deriving DecidableEq, Repr, Inhabited

namespace DevAddr

/-- The network identifier: bits 25 to 31. -/
def networkId (address : DevAddr) : UInt8 := (address.word >>> 25).toUInt8 &&& 0x7F

def isZero (address : DevAddr) : Bool := address.word == 0

def text (address : DevAddr) : String := Hex.padded 8 address.word.toNat

end DevAddr

namespace Eui64

def isZero (eui : Eui64) : Bool := eui.word == 0

def text (eui : Eui64) : String := Hex.padded 16 eui.word.toNat

end Eui64

end LorawanGateway
