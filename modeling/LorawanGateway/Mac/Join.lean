import LorawanGateway.Mac.Cipher

/-!
Joining: the integrity code of join frames, the encryption of a join-accept body and the session
keys derived from it. The network encrypts with the inverse cipher so that a device needs the
forward direction only.
-/

namespace LorawanGateway

def maxJoinBufferLength : Nat := 32

/-- Refuses a join-accept body that is too long or not made of whole blocks. -/
def checkJoinBuffer (buffer : Octets) : Except MacError Unit :=
  if maxJoinBufferLength < buffer.length then
    .error (.bufferTooLong buffer.length maxJoinBufferLength)
  else if buffer.length % 16 ≠ 0 then .error (.unalignedJoinBuffer buffer.length)
  else .ok ()

/-- The integrity code of a join frame: the tag of the buffer alone, cut to a word. -/
def joinIntegrityCode (cipher : BlockCipher) (key buffer : Octets) : Except MacError UInt32 := do
  checkBuffer buffer
  let key ← Key.ofOctets key
  return Cmac.word cipher key buffer

def mapBlocks (f : Block → Block) (buffer : Octets) : Octets :=
  if buffer.isEmpty then []
  else (f (Block.ofOctets (buffer.take 16))).toList ++ mapBlocks f (buffer.drop 16)
termination_by buffer.length
decreasing_by
  have nonempty : buffer ≠ [] := by simpa using ‹¬buffer.isEmpty = true›
  have := List.length_pos_iff.mpr nonempty
  simp only [List.length_drop]
  omega

def encryptJoin (cipher : BlockCipher) (key buffer : Octets) : Except MacError Octets := do
  checkJoinBuffer buffer
  let key ← Key.ofOctets key
  return mapBlocks (cipher.decrypt key) buffer

def decryptJoin (cipher : BlockCipher) (key buffer : Octets) : Except MacError Octets := do
  checkJoinBuffer buffer
  let key ← Key.ofOctets key
  return mapBlocks (cipher.encrypt key) buffer

/-- The two keys of a session. -/
structure SessionKeys where
  network : Key
  application : Key
  deriving DecidableEq

/-- The block a session key is derived from: its number, the network's nonce and identifier, and
the device's nonce. -/
def sessionBlock (number : UInt8) (networkNonce : Vector UInt8 6) (deviceNonce : UInt16) : Block :=
  Block.ofOctets (number :: (networkNonce.toList ++ Octets.ofNatLE 2 deviceNonce.toNat))

/-- The session keys that a root key and the nonces of a join give. -/
def SessionKeys.derive (cipher : BlockCipher) (key : Octets) (networkNonce : Vector UInt8 6)
    (deviceNonce : UInt16) : Except MacError SessionKeys := do
  let key ← Key.ofOctets key
  return {
    network := cipher.encrypt key (sessionBlock 1 networkNonce deviceNonce)
    application := cipher.encrypt key (sessionBlock 2 networkNonce deviceNonce) }

end LorawanGateway
