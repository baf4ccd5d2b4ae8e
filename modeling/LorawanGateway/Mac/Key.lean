import LorawanGateway.Mac.Aes
import LorawanGateway.Mac.Error
import LorawanGateway.Text.Blank

/-!
Cipher keys from octets and from the hexadecimal text that provisioning tools store.
-/

namespace LorawanGateway.Key

def size : Nat := 16

def ofOctets (octets : Octets) : Except MacError Key :=
  if octets.length = size then .ok (Block.ofOctets octets)
  else .error (.invalidKeyLength octets.length)

/-- A key from hexadecimal text, blanks around it ignored. -/
def ofHex (text : String) : Except MacError Key :=
  match Hex.decode (Text.trim text) with
  | .error cause => .error (.invalidHexKey cause)
  | .ok octets => ofOctets octets

end LorawanGateway.Key
