import LorawanGateway.Mac.Aes

/-!
Message authentication by a block cipher: blocks are chained by exclusive or, and the last block
is masked with a key derived from the cipher, one for a full block and another for a padded one.
-/

namespace LorawanGateway.Cmac

/-- A block as a number, its first octet most significant. -/
def toNat (block : Block) : Nat := Octets.toNatBE block.toList

/-- The block of a number below `2 ^ 128`. -/
def ofNat (value : Nat) : Block := Block.ofOctets (Octets.ofNatBE 16 value)

/-- Twice a block in the field of `2 ^ 128` elements. -/
def double (block : Block) : Block :=
  let value := toNat block
  let shifted := value * 2 % (1 <<< 128)
  ofNat (if value < 1 <<< 127 then shifted else shifted ^^^ 0x87)

def fullMask (cipher : BlockCipher) (key : Key) : Block :=
  double (cipher.encrypt key (Vector.replicate 16 0))

def paddedMask (cipher : BlockCipher) (key : Key) : Block :=
  double (fullMask cipher key)

/-- Chains a message onto a state; the last block is masked. -/
def chain (cipher : BlockCipher) (key : Key) (state : Block) (message : Octets) : Block :=
  if 16 < message.length then
    let next := cipher.encrypt key (Block.xor state (Block.ofOctets (message.take 16)))
    chain cipher key next (message.drop 16)
  else if message.length = 16 then
    cipher.encrypt key
      (Block.xor state (Block.xor (Block.ofOctets message) (fullMask cipher key)))
  else
    cipher.encrypt key
      (Block.xor state (Block.xor (Block.ofOctets (message ++ [0x80])) (paddedMask cipher key)))
termination_by message.length

def tag (cipher : BlockCipher) (key : Key) (message : Octets) : Block :=
  chain cipher key (Vector.replicate 16 0) message

/-- The first four octets of a tag as a word, least significant first. -/
def word (cipher : BlockCipher) (key : Key) (message : Octets) : UInt32 :=
  Octets.word32At (tag cipher key message).toList 0

end LorawanGateway.Cmac
