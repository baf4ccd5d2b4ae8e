import LorawanGateway.Proofs.Octets
import LorawanGateway.Proofs.Mac.Keystream

/-!
Payloads under a key given as octets. One keystream of sixteen blocks serves all buffers that are
short enough, so buffers of one frame context differ encrypted exactly as they differ in the clear.
-/

namespace LorawanGateway

variable {cipher : BlockCipher} {context : FrameContext} {buffer other stream key : Octets}

theorem combine_take_right {count : Nat} (covered : buffer.length ≤ count) :
    combine buffer (stream.take count) = combine buffer stream := by
  have whole : (combine buffer stream).length ≤ count := by
    rw [combine, List.length_zipWith]
    omega
  calc combine buffer (stream.take count)
      = combine (buffer.take count) (stream.take count) := by rw [List.take_of_length_le covered]
    _ = (combine buffer stream).take count := List.take_zipWith.symm
    _ = combine buffer stream := List.take_of_length_le whole

theorem combine_take_left (buffer stream : Octets) (count : Nat) :
    combine (buffer.take count) stream = (combine buffer stream).take count := by
  have covered : (buffer.take count).length ≤ count := List.length_take_le count buffer
  rw [← combine_take_right covered]
  exact List.take_zipWith.symm

/-- A stream that two buffers were combined with cancels out between them. -/
theorem combine_combined (same : other.length = buffer.length)
    (enough : buffer.length ≤ stream.length) :
    combine (combine buffer stream) (combine other stream) = combine buffer other := by
  have cancel (left right mask : UInt8) : left ^^^ mask ^^^ (right ^^^ mask) = left ^^^ right := by
    rw [UInt8.xor_comm right mask, UInt8.xor_assoc, ← UInt8.xor_assoc mask mask right,
      UInt8.xor_self, UInt8.zero_xor]
  apply List.ext_getElem
  · simp only [combine, List.length_zipWith]
    omega
  · intro index _ _
    simp only [combine, List.getElem_zipWith, cancel]

theorem slice_keystream (cipher : BlockCipher) (context : FrameContext) (key : Key)
    {number count index : Nat} (inside : index < count) :
    (keystream cipher context key number count).slice (16 * index) 16 =
      (cipher.encrypt key (context.streamBlock (number + index))).toList := by
  induction count generalizing number index with
  | zero => cases inside
  | succ count induction =>
      have long : (cipher.encrypt key (context.streamBlock number)).toList.length = 16 :=
        Vector.length_toList
      rw [keystream]
      cases index with
      | zero => exact Octets.slice_append_left long
      | succ index =>
          have next : number + (index + 1) = number + 1 + index := by omega
          rw [Octets.slice_append_right (by omega), long, Nat.mul_succ, Nat.add_sub_cancel, next]
          exact induction (Nat.lt_of_succ_lt_succ inside)

theorem Block.toList_ofOctets (long : key.length = Key.size) :
    (Block.ofOctets key).toList = key := by
  have enough (index : Nat) (inside : index < 16) : index < key.length := long ▸ inside
  apply List.ext_getElem
  · rw [Vector.length_toList, long, Key.size]
  · intro index inside _
    rw [Vector.length_toList] at inside
    simp [Block.ofOctets, List.getD, enough index inside]

/-- Sixteen blocks of the keystream are enough for every buffer that is not refused. -/
theorem encryptPayload_eq_combine (long : key.length = Key.size)
    (short : buffer.length ≤ maxBufferLength) :
    encryptPayload cipher context key buffer =
      .ok (combine buffer (keystream cipher context (Block.ofOctets key) 1 16)) := by
  have covered : buffer.length ≤ 16 * 16 := Nat.le_trans short (by decide)
  have encrypted := encryptPayload_eq_ok cipher context (Block.ofOctets key) short
  rwa [Block.toList_ofOctets long, applyStream_eq_combine covered] at encrypted

theorem encryptPayload_eq_error
    (refused : key.length ≠ Key.size ∨ maxBufferLength < buffer.length) :
    encryptPayload cipher context key buffer =
      .error (if maxBufferLength < buffer.length then .bufferTooLong buffer.length maxBufferLength
        else .invalidKeyLength key.length) := by
  rw [encryptPayload, checkBuffer]
  by_cases long : maxBufferLength < buffer.length
  · rw [if_pos long, if_pos long]
    rfl
  · have wrong : key.length ≠ Key.size := refused.resolve_right long
    rw [if_neg long, if_neg long, Key.ofOctets, if_neg wrong]
    rfl

/-- Under a key of sixteen octets one keystream, the sixteen encrypted stream blocks, serves every
buffer of at most 255 octets: encrypting combines the buffer with as much of it, decrypting undoes
that, what starts a buffer is encrypted to what starts its encryption, and two buffers of one length
differ encrypted as they differ in the clear. Any other key and any longer buffer is refused. -/
theorem payloads_share_one_keystream (cipher : BlockCipher) (context : FrameContext)
    (key : Octets) :
    (key.length = 16 → ∃ stream : Octets, stream.length = 256 ∧
      (∀ number < 16, stream.slice (16 * number) 16 =
        (cipher.encrypt (Block.ofOctets key) (context.streamBlock (number + 1))).toList) ∧
      ∀ buffer : Octets, buffer.length ≤ 255 → ∃ sealed,
        encryptPayload cipher context key buffer = .ok sealed ∧
        sealed = combine buffer (stream.take buffer.length) ∧
        sealed.length = buffer.length ∧
        decryptPayload cipher context key sealed = .ok buffer ∧
        (∀ count, encryptPayload cipher context key (buffer.take count) =
          .ok (sealed.take count)) ∧
        ∀ other : Octets, other.length = buffer.length → ∃ otherSealed,
          encryptPayload cipher context key other = .ok otherSealed ∧
          combine sealed otherSealed = combine buffer other) ∧
    ∀ buffer : Octets, key.length ≠ 16 ∨ 256 ≤ buffer.length →
      let fault : MacError := if 255 < buffer.length then .bufferTooLong buffer.length 255
        else .invalidKeyLength key.length
      encryptPayload cipher context key buffer = .error fault ∧
      decryptPayload cipher context key buffer = .error fault := by
  refine ⟨fun long => ?_, fun buffer refused => ?_⟩
  · let stream := keystream cipher context (Block.ofOctets key) 1 16
    have streamLength : stream.length = 256 := length_keystream ..
    have encrypted {buffer : Octets} (short : buffer.length ≤ 255) :
        encryptPayload cipher context key buffer = .ok (combine buffer stream) :=
      encryptPayload_eq_combine long short
    refine ⟨stream, streamLength, ?_, ?_⟩
    · intro number inside
      rw [slice_keystream cipher context (Block.ofOctets key) inside, Nat.add_comm]
    · intro buffer short
      have enough : buffer.length ≤ stream.length := by omega
      have kept : (combine buffer stream).length = buffer.length := length_combine enough
      have prefixed : combine buffer stream = combine buffer (stream.take buffer.length) :=
        (combine_take_right (Nat.le_refl _)).symm
      refine ⟨combine buffer stream, encrypted short, prefixed, kept, ?_, ?_, ?_⟩
      · rw [decryptPayload, encrypted (by rwa [kept]), combine_combine enough]
      · intro count
        have shorter : (buffer.take count).length ≤ 255 := by
          rw [List.length_take]
          omega
        rw [encrypted shorter, combine_take_left]
      · intro other same
        exact ⟨_, encrypted (same ▸ short), combine_combined same enough⟩
  · exact ⟨encryptPayload_eq_error refused, encryptPayload_eq_error refused⟩

/-- Three octets under a key of zeros, whose first two encrypted are the first two of their
encryption, and a buffer that is one octet too long. -/
theorem aes128_payloads_share_one_keystream :
    let context : FrameContext := ⟨0x26011BDA, .uplink, 7⟩
    let key : Octets := List.replicate 16 0
    (∃ sealed, encryptPayload .aes128 context key [1, 2, 3] = .ok sealed ∧ sealed.length = 3 ∧
      encryptPayload .aes128 context key [1, 2] = .ok (sealed.take 2) ∧
      decryptPayload .aes128 context key sealed = .ok [1, 2, 3]) ∧
    encryptPayload .aes128 context key (List.replicate 256 0) = .error (.bufferTooLong 256 255) ∧
    encryptPayload .aes128 context [0, 0] [1, 2, 3] = .error (.invalidKeyLength 2) := by
  intro context key
  obtain ⟨accepted, refused⟩ := payloads_share_one_keystream .aes128 context key
  obtain ⟨stream, -, -, encrypted⟩ := accepted rfl
  obtain ⟨sealed, written, -, kept, opened, parts, -⟩ := encrypted [1, 2, 3] (by decide)
  have otherKey := (payloads_share_one_keystream .aes128 context [0, 0]).2 [1, 2, 3]
  have long : 256 ≤ (List.replicate 256 (0 : UInt8)).length :=
    Nat.le_of_eq List.length_replicate.symm
  refine ⟨⟨sealed, written, kept, parts 2, opened⟩, ?_, (otherKey (.inl nofun)).1⟩
  have fault := (refused (List.replicate 256 0) (.inr long)).1
  rwa [List.length_replicate] at fault

end LorawanGateway
