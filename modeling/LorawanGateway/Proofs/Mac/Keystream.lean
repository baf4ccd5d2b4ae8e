import LorawanGateway.Mac.Cipher

/-!
The keystream of a frame. It depends on the key, the address, the direction and the counter alone,
and encrypting combines the buffer with as much of it as the buffer is long. So what is encrypted
twice comes out as it was.
-/

namespace LorawanGateway

variable {cipher : BlockCipher} {context : FrameContext} {key : Key} {buffer stream : Octets}

/-- The keystream of `count` blocks from the block of the given number on. -/
def keystream (cipher : BlockCipher) (context : FrameContext) (key : Key) :
    (number count : Nat) → Octets
  | _, 0 => []
  | number, count + 1 =>
    (cipher.encrypt key (context.streamBlock number)).toList ++
      keystream cipher context key (number + 1) count

/-- A buffer combined octet by octet with a stream. -/
def combine (buffer stream : Octets) : Octets := List.zipWith (· ^^^ ·) buffer stream

theorem length_keystream (cipher : BlockCipher) (context : FrameContext) (key : Key)
    (number count : Nat) : (keystream cipher context key number count).length = 16 * count := by
  induction count generalizing number with
  | zero => rfl
  | succ count induction =>
      rw [keystream, List.length_append, induction, Vector.length_toList]
      omega

theorem length_combine (enough : buffer.length ≤ stream.length) :
    (combine buffer stream).length = buffer.length := by
  rw [combine, List.length_zipWith, Nat.min_eq_left enough]

theorem combine_combine (enough : buffer.length ≤ stream.length) :
    combine (combine buffer stream) stream = buffer := by
  induction buffer generalizing stream with
  | nil => rfl
  | cons octet rest induction =>
      cases stream with
      | nil => simp at enough
      | cons mask stream =>
          have tail := induction (Nat.le_of_succ_le_succ enough)
          have head : octet ^^^ mask ^^^ mask = octet := by
            rw [UInt8.xor_assoc, UInt8.xor_self, UInt8.xor_zero]
          simpa only [combine, List.zipWith_cons_cons, List.cons.injEq] using ⟨head, tail⟩

theorem combine_append (buffer block stream : Octets) :
    combine buffer (block ++ stream) =
      combine (buffer.take block.length) block ++ combine (buffer.drop block.length) stream := by
  induction block generalizing buffer with
  | nil => simp [combine]
  | cons mask block induction =>
      cases buffer with
      | nil => rfl
      | cons octet rest => exact congrArg _ (induction rest)

/-- Encrypting block by block combines the buffer with the keystream of as many blocks as it
needs. -/
theorem applyStream_eq_combine {number count : Nat} (enough : buffer.length ≤ 16 * count) :
    applyStream cipher context key number buffer =
      combine buffer (keystream cipher context key number count) := by
  induction count generalizing number buffer with
  | zero =>
      obtain rfl : buffer = [] := List.eq_nil_of_length_eq_zero (Nat.le_zero.mp enough)
      rw [applyStream]
      rfl
  | succ count induction =>
      rw [applyStream]
      split
      · rename_i nothing
        rw [List.isEmpty_iff.mp nothing]
        rfl
      · have rest : (buffer.drop 16).length ≤ 16 * count := by
          rw [List.length_drop]
          omega
        rw [induction rest, keystream, combine_append, Vector.length_toList]
        rfl

theorem length_applyStream (cipher : BlockCipher) (context : FrameContext) (key : Key)
    (number : Nat) (buffer : Octets) :
    (applyStream cipher context key number buffer).length = buffer.length := by
  have enough : buffer.length ≤ 16 * buffer.length := by omega
  rw [applyStream_eq_combine enough]
  exact length_combine (by rwa [length_keystream])

theorem applyStream_applyStream (cipher : BlockCipher) (context : FrameContext) (key : Key)
    (number : Nat) (buffer : Octets) :
    applyStream cipher context key number (applyStream cipher context key number buffer) =
      buffer := by
  have enough : buffer.length ≤ 16 * buffer.length := by omega
  have again : (applyStream cipher context key number buffer).length ≤ 16 * buffer.length := by
    rwa [length_applyStream]
  rw [applyStream_eq_combine again, applyStream_eq_combine enough]
  exact combine_combine (by rwa [length_keystream])

theorem Block.ofOctets_toList (block : Block) : Block.ofOctets block.toList = block := by
  apply Vector.ext
  intro index within
  simp [Block.ofOctets]

theorem Block.ofOctets_inj {first second : Octets}
    (same : Block.ofOctets first = Block.ofOctets second) (short : first.length ≤ 16)
    (long : first.length = second.length) : first = second := by
  apply List.ext_getElem long
  intro index inside inside'
  have octet : (Block.ofOctets first)[index] = (Block.ofOctets second)[index] := by rw [same]
  simpa [Block.ofOctets, inside, inside'] using octet

theorem Key.ofOctets_toList (key : Key) : Key.ofOctets key.toList = .ok key := by
  have long : key.toList.length = size := Vector.length_toList
  rw [Key.ofOctets, if_pos long, Block.ofOctets_toList]

theorem encryptPayload_eq_ok (cipher : BlockCipher) (context : FrameContext) (key : Key)
    (short : buffer.length ≤ maxBufferLength) :
    encryptPayload cipher context key.toList buffer =
      .ok (applyStream cipher context key 1 buffer) := by
  rw [encryptPayload, checkBuffer, if_neg (Nat.not_lt.mpr short), Key.ofOctets_toList]
  rfl

/-- What was encrypted is decrypted to what it was. -/
theorem decryptPayload_applyStream (cipher : BlockCipher) (context : FrameContext) (key : Key)
    (short : buffer.length ≤ maxBufferLength) :
    decryptPayload cipher context key.toList (applyStream cipher context key 1 buffer) =
      .ok buffer := by
  have same := length_applyStream cipher context key 1 buffer
  rw [decryptPayload, encryptPayload_eq_ok cipher context key (by rwa [same]),
    applyStream_applyStream]

theorem integrityCode_eq_ok (cipher : BlockCipher) (context : FrameContext) (key : Key)
    (short : buffer.length ≤ maxBufferLength) :
    integrityCode cipher context key.toList buffer =
      .ok (Cmac.word cipher key ((context.signingBlock buffer.length).toList ++ buffer)) := by
  rw [integrityCode, checkBuffer, if_neg (Nat.not_lt.mpr short), Key.ofOctets_toList]
  rfl

end LorawanGateway
