import LorawanGateway.Octets

/-!
The 16-bit cyclic redundancy check of beacons: the remainder of the message by the polynomial
`x^16 + x^12 + x^5 + 1`, most significant bit first, starting from zero.
-/

namespace LorawanGateway.Checksum

def polynomial : UInt16 := 0x1021

/-- Moves the remainder on by one bit. -/
def shift (remainder : UInt16) : UInt16 :=
  if remainder &&& 0x8000 = 0 then remainder <<< 1 else (remainder <<< 1) ^^^ polynomial

def step (remainder : UInt16) (octet : UInt8) : UInt16 :=
  Nat.repeat shift 8 (remainder ^^^ (octet.toUInt16 <<< 8))

def crc16 (octets : Octets) : UInt16 := octets.foldl step 0

end LorawanGateway.Checksum
