import LorawanGateway.Mac.Cmac
import LorawanGateway.Mac.Key

/-!
Integrity codes and payload encryption of data frames. Both start from a block that holds the
address, the direction and the counter of the frame: one block carries the length of what is
signed, the others number the blocks of the keystream.
-/

namespace LorawanGateway

/-- The way a frame travels. -/
inductive Direction where
  | uplink
  | downlink
  deriving DecidableEq, Repr

def Direction.octet : Direction → UInt8
  | .uplink => 0
  | .downlink => 1

/-- What makes the cipher blocks of one frame its own. -/
structure FrameContext where
  address : UInt32
  direction : Direction
  counter : UInt32
  deriving DecidableEq, Repr

namespace FrameContext

/-- The block with a tag in front and a length or number at the end. -/
def block (context : FrameContext) (tag last : UInt8) : Block :=
  Block.ofOctets ([tag, 0, 0, 0, 0, context.direction.octet] ++
    Octets.ofNatLE 4 context.address.toNat ++ Octets.ofNatLE 4 context.counter.toNat ++ [0, last])

/-- The block in front of a signed buffer of the given length. -/
def signingBlock (context : FrameContext) (length : Nat) : Block :=
  context.block 0x49 (UInt8.ofNat length)

/-- The block that yields the keystream block of the given number, counted from one. -/
def streamBlock (context : FrameContext) (number : Nat) : Block :=
  context.block 0x01 (UInt8.ofNat number)

end FrameContext

/-- The longest buffer that a block can state the length of. -/
def maxBufferLength : Nat := 255

def checkBuffer (buffer : Octets) : Except MacError Unit :=
  if maxBufferLength < buffer.length then .error (.bufferTooLong buffer.length maxBufferLength)
  else .ok ()

/-- The integrity code of a data frame: the tag of the signing block and the buffer, cut to a
word. -/
def integrityCode (cipher : BlockCipher) (context : FrameContext) (key buffer : Octets) :
    Except MacError UInt32 := do
  checkBuffer buffer
  let key ← Key.ofOctets key
  return Cmac.word cipher key ((context.signingBlock buffer.length).toList ++ buffer)

/-- Combines the buffer with the keystream from the block of the given number on. -/
def applyStream (cipher : BlockCipher) (context : FrameContext) (key : Key) (number : Nat)
    (buffer : Octets) : Octets :=
  if buffer.isEmpty then []
  else
    let stream := cipher.encrypt key (context.streamBlock number)
    List.zipWith (· ^^^ ·) (buffer.take 16) stream.toList ++
      applyStream cipher context key (number + 1) (buffer.drop 16)
termination_by buffer.length
decreasing_by
  have nonempty : buffer ≠ [] := by simpa using ‹¬buffer.isEmpty = true›
  have := List.length_pos_iff.mpr nonempty
  simp only [List.length_drop]
  omega

/-- Encrypts a frame payload by combining it with the keystream. -/
def encryptPayload (cipher : BlockCipher) (context : FrameContext) (key buffer : Octets) :
    Except MacError Octets := do
  checkBuffer buffer
  let key ← Key.ofOctets key
  return applyStream cipher context key 1 buffer

/-- Decrypts a frame payload; combining with the keystream undoes itself. -/
def decryptPayload (cipher : BlockCipher) (context : FrameContext) (key buffer : Octets) :
    Except MacError Octets :=
  encryptPayload cipher context key buffer

end LorawanGateway
