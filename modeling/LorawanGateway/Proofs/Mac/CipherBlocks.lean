import LorawanGateway.Proofs.Mac.PayloadCipher

/-!
The blocks that frames put through the cipher. Tag, direction, address, counter and the last octet
have places of their own in a block, and the last octet holds the whole of a block's number or of a
buffer's length. So no two frames share a block, and no block serves both purposes.
-/

namespace LorawanGateway

variable {context context' : FrameContext} {number number' : Nat} {buffer : Octets}

theorem Direction.octet_inj {direction direction' : Direction}
    (same : direction.octet = direction'.octet) : direction = direction' := by
  cases direction <;> cases direction' <;> first | rfl | cases same

namespace FrameContext

variable {tag tag' last last' : UInt8}

theorem block_inj : context.block tag last = context'.block tag' last' ↔
    tag = tag' ∧ context = context' ∧ last = last' := by
  constructor
  · intro same
    have octets := Block.ofOctets_inj same (by simp) (by simp)
    obtain ⟨body, ending⟩ := List.append_inj' octets rfl
    obtain ⟨front, counter⟩ := List.append_inj' body (by simp)
    obtain ⟨opening, address⟩ := List.append_inj' front (by simp)
    simp only [List.cons.injEq, true_and, and_true] at opening ending
    refine ⟨opening.1, ?_, ending⟩
    obtain ⟨_, _, _⟩ := context
    obtain ⟨_, _, _⟩ := context'
    rw [mk.injEq]
    exact ⟨Octets.ofNatLE_word32_inj address, Direction.octet_inj opening.2,
      Octets.ofNatLE_word32_inj counter⟩
  · rintro ⟨rfl, rfl, rfl⟩
    rfl

/-- The last octet of a block holds a number of at most 255 without loss. -/
theorem toNat_last_block (context : FrameContext) (tag : UInt8) (low : number ≤ 255) :
    (context.block tag (UInt8.ofNat number))[15].toNat = number := by
  have last (last : UInt8) : (context.block tag last)[15] = last := by
    simp [block, Block.ofOctets, List.getD, Octets.ofNatLE]
  rw [last, UInt8.toNat_ofNat_of_lt' (Nat.lt_succ_of_le low)]

/-- Blocks with numbers of at most 255 at their end tell the context and the number. -/
theorem numbered_inj (tag : UInt8) (low : number ≤ 255) (low' : number' ≤ 255) :
    context.block tag (UInt8.ofNat number) = context'.block tag (UInt8.ofNat number') ↔
      context = context' ∧ number = number' := by
  constructor
  · intro same
    have numbers := context.toNat_last_block tag low
    rw [same, context'.toNat_last_block tag low'] at numbers
    exact ⟨(block_inj.mp same).2.1, numbers.symm⟩
  · rintro ⟨rfl, rfl⟩
    rfl

theorem streamBlock_ne_signingBlock :
    context.streamBlock number ≠ context'.signingBlock number' := by
  intro same
  obtain ⟨tags, -⟩ := block_inj.mp same
  exact absurd tags (by decide)

end FrameContext

theorem slice_combine (buffer stream : Octets) (start count : Nat) :
    (combine buffer stream).slice start count =
      combine (buffer.slice start count) (stream.slice start count) := by
  rw [Octets.slice, combine, List.drop_zipWith, List.take_zipWith]
  rfl

theorem Block.zero_xor (block : Block) : Block.xor (Vector.replicate 16 0) block = block := by
  apply Vector.ext
  intro index within
  simp [Block.xor]

/-- In front of a message, a block goes through the cipher as it is. -/
theorem Cmac.tag_append (cipher : BlockCipher) (key : Key) (block : Block)
    (some : buffer ≠ []) :
    tag cipher key (block.toList ++ buffer) =
      chain cipher key (cipher.encrypt key block) buffer := by
  have full : block.toList.length = 16 := Vector.length_toList
  have more : 16 < (block.toList ++ buffer).length := by
    rw [List.length_append, full]
    exact Nat.lt_add_of_pos_right (List.length_pos_iff.mpr some)
  rw [tag, chain, if_pos more, List.take_left' full, List.drop_left' full, Block.ofOctets_toList,
    Block.zero_xor]

/-- Encrypting a buffer combines each sixteen octets of it with an encrypted stream block, and its
integrity code starts from the signing block of its length. These blocks tell the frame context,
and the number of the block or the length of the buffer, both of which the last octet holds without
loss; none of them serves both purposes. -/
theorem cipher_blocks_never_shared (cipher : BlockCipher) (context context' : FrameContext)
    {key buffer buffer' : Octets} (long : key.length = 16) (short : buffer.length ≤ 255)
    (short' : buffer'.length ≤ 255) :
    let blockKey := Block.ofOctets key
    let signing := context.signingBlock buffer.length
    (∃ sealed, encryptPayload cipher context key buffer = .ok sealed ∧
      sealed.length = buffer.length ∧
      ∀ index, 16 * index < buffer.length →
        sealed.slice (16 * index) 16 = combine (buffer.slice (16 * index) 16)
          (cipher.encrypt blockKey (context.streamBlock (index + 1))).toList ∧
        (context.streamBlock (index + 1))[15].toNat = index + 1) ∧
    (integrityCode cipher context key buffer =
        .ok (Cmac.word cipher blockKey (signing.toList ++ buffer)) ∧
      (buffer ≠ [] → Cmac.tag cipher blockKey (signing.toList ++ buffer) =
        Cmac.chain cipher blockKey (cipher.encrypt blockKey signing) buffer) ∧
      signing[15].toNat = buffer.length) ∧
    (∀ index index', 16 * index < buffer.length → 16 * index' < buffer'.length →
      (context.streamBlock (index + 1) = context'.streamBlock (index' + 1) ↔
        context = context' ∧ index = index')) ∧
    (signing = context'.signingBlock buffer'.length ↔
      context = context' ∧ buffer.length = buffer'.length) ∧
    ∀ number length, context.streamBlock number ≠ context'.signingBlock length := by
  intro blockKey signing
  have enough : buffer.length ≤ (keystream cipher context blockKey 1 16).length := by
    rw [length_keystream]
    omega
  have number {index : Nat} {buffer : Octets} (short : buffer.length ≤ 255)
      (inside : 16 * index < buffer.length) : index + 1 ≤ 255 := by omega
  refine ⟨⟨_, encryptPayload_eq_combine long short, length_combine enough, ?_⟩, ⟨?_, ?_, ?_⟩, ?_,
    FrameContext.numbered_inj _ short short', fun _ _ => FrameContext.streamBlock_ne_signingBlock⟩
  · intro index inside
    have within : index < 16 := by omega
    rw [slice_combine, slice_keystream cipher context blockKey within, Nat.add_comm 1 index]
    exact ⟨rfl, context.toNat_last_block _ (number short inside)⟩
  · have coded := integrityCode_eq_ok cipher context blockKey short
    rwa [Block.toList_ofOctets long] at coded
  · exact Cmac.tag_append cipher blockKey signing
  · exact context.toNat_last_block _ short
  · intro index index' inside inside'
    refine (FrameContext.numbered_inj _ (number short inside) (number short' inside')).trans ?_
    rw [Nat.add_right_cancel_iff]

/-- Two frames that differ in their direction only, one of two blocks and one as long as can be:
what masks their second sixteen octets is different, and so is what their integrity codes start
from. -/
theorem directions_share_no_blocks :
    let up : FrameContext := ⟨0x26011BDA, .uplink, 7⟩
    let down : FrameContext := ⟨0x26011BDA, .downlink, 7⟩
    let key : Octets := List.replicate 16 0
    let payload : Octets := List.replicate 17 0
    let longest : Octets := List.replicate 255 0
    key.length = 16 ∧ payload.length ≤ 255 ∧ longest.length ≤ 255 ∧
    (∃ sealed, encryptPayload .aes128 up key payload = .ok sealed ∧
      sealed.slice 16 16 = combine (payload.slice 16 16)
        (BlockCipher.aes128.encrypt (Block.ofOctets key) (up.streamBlock 2)).toList) ∧
    up.streamBlock 2 ≠ down.streamBlock 2 ∧
    up.signingBlock payload.length ≠ down.signingBlock longest.length ∧
    up.streamBlock 2 ≠ down.signingBlock longest.length ∧
    (up.streamBlock 2)[15] = 2 ∧ (down.signingBlock longest.length)[15] = 255 := by
  intro up down key payload longest
  have keyed : key.length = 16 := List.length_replicate
  have two : payload.length = 17 := List.length_replicate
  have full : longest.length = 255 := List.length_replicate
  have short : payload.length ≤ 255 := by omega
  have most : longest.length ≤ 255 := by omega
  have apart : up ≠ down := by decide
  obtain ⟨⟨sealed, written, -, masked⟩, -, streams, signings, purposes⟩ :=
    cipher_blocks_never_shared .aes128 up down keyed short most
  obtain ⟨-, ⟨-, -, signed⟩, -⟩ := cipher_blocks_never_shared .aes128 down up keyed most short
  obtain ⟨mask, second⟩ := masked 1 (by omega)
  refine ⟨keyed, short, most, ⟨sealed, written, mask⟩, ?_, ?_, purposes 2 _, ?_, ?_⟩
  · exact fun same => apart ((streams 1 1 (by omega) (by omega)).mp same).1
  · exact fun same => apart (signings.mp same).1
  · exact UInt8.toNat_inj.mp second
  · exact UInt8.toNat_inj.mp (signed.trans full)

end LorawanGateway
