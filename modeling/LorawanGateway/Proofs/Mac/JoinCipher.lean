import LorawanGateway.Mac.Join
import LorawanGateway.Proofs.Mac.AesInverse
import LorawanGateway.Proofs.Mac.PayloadCipher

/-!
Join-accept bodies and session keys under a cipher that can be undone. A body is a run of whole
blocks, each of which is put through the cipher by itself, so the two directions undo each other.
A session key is the encryption of a block that has its number and the nonces in places of their
own, so two of them are equal only if these are.
-/

namespace LorawanGateway

variable {cipher : BlockCipher} {key buffer : Octets} {number number' : UInt8}
variable {networkNonce networkNonce' : Vector UInt8 6} {deviceNonce deviceNonce' : UInt16}

section Blocks

variable {f g : Block → Block}

/-- The octets of some blocks, one block after the other. -/
def octetsOf (blocks : List Block) : Octets := blocks.flatMap Vector.toList

theorem length_octetsOf (blocks : List Block) : (octetsOf blocks).length = 16 * blocks.length := by
  induction blocks with
  | nil => rfl
  | cons block blocks induction =>
      rw [octetsOf] at induction
      rw [octetsOf, List.flatMap_cons, List.length_append, induction, Vector.length_toList,
        List.length_cons]
      omega

theorem exists_octetsOf (whole : buffer.length % 16 = 0) : ∃ blocks, octetsOf blocks = buffer := by
  obtain ⟨count, long⟩ := Nat.dvd_of_mod_eq_zero whole
  induction count generalizing buffer with
  | zero => exact ⟨[], (List.eq_nil_of_length_eq_zero long).symm⟩
  | succ count induction =>
      have first : (buffer.take 16).length = Key.size := by
        rw [List.length_take, Key.size]
        omega
      have rest : (buffer.drop 16).length = 16 * count := by
        rw [List.length_drop]
        omega
      obtain ⟨blocks, others⟩ := induction (by omega) rest
      refine ⟨Block.ofOctets (buffer.take 16) :: blocks, ?_⟩
      rw [octetsOf] at others
      rw [octetsOf, List.flatMap_cons, Block.toList_ofOctets first, others, List.take_append_drop]

theorem mapBlocks_octetsOf (f : Block → Block) (blocks : List Block) :
    mapBlocks f (octetsOf blocks) = octetsOf (blocks.map f) := by
  induction blocks with
  | nil =>
      rw [mapBlocks]
      rfl
  | cons block blocks induction =>
      have long : block.toList.length = 16 := Vector.length_toList
      have some : ¬ (block.toList ++ octetsOf blocks).isEmpty = true := by
        rw [List.isEmpty_iff_length_eq_zero, List.length_append]
        omega
      have split (block : Block) (blocks : List Block) :
          octetsOf (block :: blocks) = block.toList ++ octetsOf blocks := rfl
      rw [List.map_cons, split, split, mapBlocks, if_neg some, List.take_left' long,
        List.drop_left' long, Block.ofOctets_toList, induction]

theorem length_mapBlocks (whole : buffer.length % 16 = 0) :
    (mapBlocks f buffer).length = buffer.length := by
  obtain ⟨blocks, rfl⟩ := exists_octetsOf whole
  rw [mapBlocks_octetsOf, length_octetsOf, length_octetsOf, List.length_map]

theorem mapBlocks_mapBlocks (undone : ∀ block, g (f block) = block)
    (whole : buffer.length % 16 = 0) : mapBlocks g (mapBlocks f buffer) = buffer := by
  obtain ⟨blocks, rfl⟩ := exists_octetsOf whole
  have each : g ∘ f = id := funext undone
  rw [mapBlocks_octetsOf, mapBlocks_octetsOf, List.map_map, each, List.map_id]

end Blocks

theorem Key.ofOctets_eq_ok (long : key.length = 16) :
    Key.ofOctets key = .ok (Block.ofOctets key) :=
  if_pos long

section Bodies

/-- A buffer as long as join-accept bodies may be. -/
@[ext]
structure JoinBody where
  octets : Octets
  long : octets.length = 0 ∨ octets.length = 16 ∨ octets.length = 32

theorem JoinBody.whole (body : JoinBody) : body.octets.length % 16 = 0 := by
  have long := body.long
  omega

/-- A body whose blocks went through a function. -/
def JoinBody.mapBlocks (f : Block → Block) (body : JoinBody) : JoinBody where
  octets := LorawanGateway.mapBlocks f body.octets
  long := by
    rw [length_mapBlocks body.whole]
    exact body.long

theorem JoinBody.mapBlocks_mapBlocks {f g : Block → Block} (undone : ∀ block, g (f block) = block)
    (body : JoinBody) : (body.mapBlocks f).mapBlocks g = body :=
  JoinBody.ext (LorawanGateway.mapBlocks_mapBlocks undone body.whole)

theorem checkJoinBuffer_eq_ok (body : JoinBody) : checkJoinBuffer body.octets = .ok () := by
  have long := body.long
  have short : ¬ maxJoinBufferLength < body.octets.length := by
    rw [maxJoinBufferLength]
    omega
  rw [checkJoinBuffer, if_neg short, if_neg (not_not.mpr body.whole)]

theorem checkJoinBuffer_eq_error
    (other : buffer.length ≠ 0 ∧ buffer.length ≠ 16 ∧ buffer.length ≠ 32) :
    checkJoinBuffer buffer = .error (if 32 < buffer.length then .bufferTooLong buffer.length 32
      else .unalignedJoinBuffer buffer.length) := by
  rw [checkJoinBuffer, maxJoinBufferLength]
  split
  · rfl
  · have uneven : buffer.length % 16 ≠ 0 := by omega
    rw [if_pos uneven]

theorem encryptJoin_body (long : key.length = 16) (body : JoinBody) :
    encryptJoin cipher key body.octets =
      .ok (body.mapBlocks (cipher.decrypt (Block.ofOctets key))).octets := by
  rw [encryptJoin, checkJoinBuffer_eq_ok, Key.ofOctets_eq_ok long]
  rfl

theorem decryptJoin_body (long : key.length = 16) (body : JoinBody) :
    decryptJoin cipher key body.octets =
      .ok (body.mapBlocks (cipher.encrypt (Block.ofOctets key))).octets := by
  rw [decryptJoin, checkJoinBuffer_eq_ok, Key.ofOctets_eq_ok long]
  rfl

/-- Sealing a body and opening it again, the network's way. -/
def JoinBody.sealing (invertible : cipher.Invertible) (key : Key) : Equiv.Perm JoinBody where
  toFun := JoinBody.mapBlocks (cipher.decrypt key)
  invFun := JoinBody.mapBlocks (cipher.encrypt key)
  left_inv := JoinBody.mapBlocks_mapBlocks (invertible.encrypt_decrypt key)
  right_inv := JoinBody.mapBlocks_mapBlocks (invertible.decrypt_encrypt key)

end Bodies

section Sessions

theorem sessionBlock_inj :
    sessionBlock number networkNonce deviceNonce = sessionBlock number' networkNonce' deviceNonce' ↔
      number = number' ∧ networkNonce = networkNonce' ∧ deviceNonce = deviceNonce' := by
  constructor
  · intro same
    have octets := Block.ofOctets_inj same (by simp) (by simp)
    obtain ⟨front, rest⟩ := List.cons.inj octets
    obtain ⟨nonces, device⟩ := List.append_inj rest (by simp)
    have word := congrArg (fun octets => UInt16.ofNat (Octets.toNatLE octets)) device
    simp only [Octets.ofNat_word16] at word
    exact ⟨front, Vector.toList_inj.mp nonces, word⟩
  · rintro ⟨rfl, rfl, rfl⟩
    rfl

theorem derive_eq_ok (long : key.length = 16) :
    SessionKeys.derive cipher key networkNonce deviceNonce =
      .ok ⟨cipher.encrypt (Block.ofOctets key) (sessionBlock 1 networkNonce deviceNonce),
        cipher.encrypt (Block.ofOctets key) (sessionBlock 2 networkNonce deviceNonce)⟩ := by
  rw [SessionKeys.derive, Key.ofOctets_eq_ok long]
  rfl

theorem encrypt_sessionBlock_inj (invertible : cipher.Invertible) (key : Key) :
    cipher.encrypt key (sessionBlock number networkNonce deviceNonce) =
        cipher.encrypt key (sessionBlock number' networkNonce' deviceNonce') ↔
      number = number' ∧ networkNonce = networkNonce' ∧ deviceNonce = deviceNonce' := by
  have injective : Function.Injective (cipher.encrypt key) :=
    Function.LeftInverse.injective (invertible.decrypt_encrypt key)
  rw [injective.eq_iff, sessionBlock_inj]

end Sessions

/-- Under a cipher that can be undone, sealing join-accept bodies is a permutation of the buffers of
no, one or two blocks, opening is its inverse, and both refuse all other buffers. The session keys
of a root key tell their nonces, and tell for which of the two purposes they are. -/
theorem joins_undone_and_sessions_apart (invertible : cipher.Invertible) (long : key.length = 16) :
    (∃ sealing : Equiv.Perm JoinBody, ∀ body : JoinBody,
      encryptJoin cipher key body.octets = .ok (sealing body).octets ∧
      decryptJoin cipher key body.octets = .ok (sealing.symm body).octets ∧
      (sealing body).octets.length = body.octets.length) ∧
    (∀ buffer : Octets, buffer.length ≠ 0 ∧ buffer.length ≠ 16 ∧ buffer.length ≠ 32 →
      let fault : MacError := if 32 < buffer.length then .bufferTooLong buffer.length 32
        else .unalignedJoinBuffer buffer.length
      encryptJoin cipher key buffer = .error fault ∧
      decryptJoin cipher key buffer = .error fault) ∧
    ∀ (networkNonce networkNonce' : Vector UInt8 6) (deviceNonce deviceNonce' : UInt16),
      ∃ keys keys',
        SessionKeys.derive cipher key networkNonce deviceNonce = .ok keys ∧
        SessionKeys.derive cipher key networkNonce' deviceNonce' = .ok keys' ∧
        (keys.network = keys'.network ↔
          networkNonce = networkNonce' ∧ deviceNonce = deviceNonce') ∧
        (keys.application = keys'.application ↔
          networkNonce = networkNonce' ∧ deviceNonce = deviceNonce') ∧
        keys.network ≠ keys'.application := by
  refine ⟨⟨JoinBody.sealing invertible (Block.ofOctets key), fun body => ?_⟩,
    fun buffer other => ?_, ?_⟩
  · exact ⟨encryptJoin_body long body, decryptJoin_body long body, length_mapBlocks body.whole⟩
  · have refused := checkJoinBuffer_eq_error other
    rw [encryptJoin, decryptJoin, refused]
    exact ⟨rfl, rfl⟩
  · intro networkNonce networkNonce' deviceNonce deviceNonce'
    refine ⟨_, _, derive_eq_ok long, derive_eq_ok long, ?_, ?_, ?_⟩
    · exact (encrypt_sessionBlock_inj invertible _).trans (and_iff_right rfl)
    · exact (encrypt_sessionBlock_inj invertible _).trans (and_iff_right rfl)
    · intro same
      obtain ⟨numbers, -⟩ := (encrypt_sessionBlock_inj invertible _).mp same
      exact absurd numbers (by decide)

/-- AES-128 under a key of zeros, with a body of one block, a buffer that is one octet longer, and
two joins of one device. -/
theorem aes128_joins_undone :
    let key : Octets := List.replicate 16 0
    let body : Octets := List.replicate 16 7
    let nonce : Vector UInt8 6 := #v[1, 2, 3, 0x13, 0, 0]
    BlockCipher.aes128.Invertible ∧ key.length = 16 ∧
    (∃ sealed, encryptJoin .aes128 key body = .ok sealed ∧ sealed.length = 16 ∧
      decryptJoin .aes128 key sealed = .ok body) ∧
    decryptJoin .aes128 key (7 :: body) = .error (.unalignedJoinBuffer 17) ∧
    ∃ keys keys', SessionKeys.derive .aes128 key nonce 0x1234 = .ok keys ∧
      SessionKeys.derive .aes128 key nonce 0x1235 = .ok keys' ∧
      keys.network ≠ keys'.network ∧ keys.application ≠ keys'.application ∧
      keys.network ≠ keys'.application := by
  intro key body nonce
  have long : key.length = 16 := List.length_replicate
  obtain ⟨⟨sealing, sealed⟩, refused, derived⟩ :=
    joins_undone_and_sessions_apart BlockCipher.aes128_invertible long
  let whole : JoinBody := ⟨body, .inr (.inl List.length_replicate)⟩
  obtain ⟨written, -, kept⟩ := sealed whole
  obtain ⟨-, opened, -⟩ := sealed (sealing whole)
  rw [Equiv.symm_apply_apply] at opened
  have other : (7 :: body).length = 17 := congrArg (· + 1) List.length_replicate
  have fault := (refused (7 :: body) (by omega)).2
  rw [other] at fault
  obtain ⟨keys, keys', first, second, network, application, apart⟩ :=
    derived nonce nonce 0x1234 0x1235
  have counted : ¬ (nonce = nonce ∧ (0x1234 : UInt16) = 0x1235) := by decide
  have full := kept.trans List.length_replicate
  exact ⟨BlockCipher.aes128_invertible, long, ⟨_, written, full, opened⟩, fault, keys, keys',
    first, second, counted ∘ network.mp, counted ∘ application.mp, apart⟩

end LorawanGateway
