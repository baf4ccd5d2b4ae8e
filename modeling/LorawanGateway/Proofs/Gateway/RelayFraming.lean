import LorawanGateway.Gateway.Relay
import LorawanGateway.Proofs.Octets
import Mathlib.Data.List.Forall2
import Mathlib.Data.List.ReduceOption

/-!
Packets that came over a relay. The relay puts a marker and the counter of its own reception in
front of a packet, and the gateway takes both away again. What it does not take in has the marker
of a packet on its way to a device, or is too short for the header.
-/

namespace LorawanGateway.RelayConfig

/-- A packet as it comes over the relay chain: heard again at another counter value, and with its
own one in the header, behind the marker. -/
def framed (marker : UInt8) (heard : UInt32) (packet : ReceivedPacket) : ReceivedPacket :=
  { packet with
    counter := heard
    payload := marker :: (Octets.ofNatLE 4 packet.counter.toNat ++ packet.payload) }

/-- What becomes of a packet at a gateway that has a relay. -/
inductive Fate : ReceivedPacket → Option ReceivedPacket → Prop where
  | direct {packet : ReceivedPacket} (elsewhere : packet.ifChain ≠ chain) :
      Fate packet (some packet)
  | relayed {marker : UInt8} {heard : UInt32} {original : ReceivedPacket}
      (onChain : original.ifChain = chain) (upwards : marker < 0x80) :
      Fate (framed marker heard original) (some original)
  | echoed {packet : ReceivedPacket} {marker : UInt8} {rest : Octets}
      (onChain : packet.ifChain = chain) (marked : packet.payload = marker :: rest)
      (downwards : 0x80 ≤ marker) : Fate packet none
  | cut {packet : ReceivedPacket} (onChain : packet.ifChain = chain)
      (short : packet.payload.length < headerLength) : Fate packet none

variable {packet original : ReceivedPacket} {fate : Option ReceivedPacket} {marker : UInt8}
variable {heard : UInt32} {rest : Octets}

theorem mask_downlinkBit (marker : UInt8) : marker &&& downlinkBit ≠ 0 ↔ 0x80 ≤ marker := by
  obtain ⟨⟨word⟩⟩ := marker
  revert word
  decide +kernel

theorem isDownlink_iff (marked : packet.payload = marker :: rest) :
    isDownlink packet ↔ 0x80 ≤ marker := by
  rw [isDownlink, marked, ← mask_downlinkBit]
  exact bne_iff_ne

theorem isDownlink_framed (upwards : marker < 0x80) :
    ¬ isDownlink (framed marker heard original) := by
  rw [isDownlink_iff rfl, UInt8.not_le]
  exact upwards

theorem unwrap?_framed : unwrap? (framed marker heard original) = some original := by
  have long : (Octets.ofNatLE 4 original.counter.toNat).length = 4 := Octets.length_ofNatLE ..
  have enough : ¬ (framed marker heard original).payload.length < headerLength := by
    simp only [framed, List.length_cons, List.length_append, long, headerLength]
    omega
  have counter : (framed marker heard original).payload.word32At 1 = original.counter := by
    rw [framed, Octets.word32At, Octets.slice_cons_succ, Octets.slice_append_left long,
      Octets.ofNat_word32]
  have payload : (framed marker heard original).payload.drop headerLength = original.payload := by
    rw [framed, headerLength, List.drop_succ_cons, List.drop_left' long]
  rw [unwrap?, if_neg enough, counter, payload]
  rfl

/-- A payload that is long enough has a header. -/
theorem exists_framed (enough : headerLength ≤ packet.payload.length) :
    ∃ marker rest original, packet.payload = marker :: rest ∧
      original.ifChain = packet.ifChain ∧ packet = framed marker packet.counter original := by
  rw [headerLength] at enough
  cases split : packet.payload with
  | nil =>
      rw [split] at enough
      cases enough
  | cons marker rest =>
      have inside : 1 + 4 ≤ (marker :: rest).length := split ▸ enough
      let original : ReceivedPacket :=
        { packet with
          counter := Octets.word32At (marker :: rest) 1
          payload := rest.drop 4 }
      have written : Octets.ofNatLE 4 original.counter.toNat = rest.take 4 := by
        rw [Octets.ofNatLE_word32At inside]
        rfl
      have same : packet.payload =
          marker :: (Octets.ofNatLE 4 original.counter.toNat ++ rest.drop 4) := by
        rw [written, List.take_append_drop, split]
      refine ⟨marker, rest, original, rfl, rfl, ?_⟩
      rw [framed, ← same]

theorem transform?_of_fate (told : Fate packet fate) : transform? ⟨false, true⟩ packet = fate := by
  cases told with
  | direct elsewhere => rw [transform?, if_pos elsewhere]
  | @relayed marker heard original onChain upwards =>
      have here : ¬ (framed marker heard original).ifChain ≠ chain := not_not.mpr onChain
      have taken : ¬ (false = true ∨ isDownlink (framed marker heard original)) :=
        not_or.mpr ⟨Bool.false_ne_true, isDownlink_framed upwards⟩
      rw [transform?, if_neg here, if_neg taken, if_pos rfl, unwrap?_framed]
  | echoed onChain marked downwards =>
      rw [transform?, if_neg (not_not.mpr onChain),
        if_pos (.inr ((isDownlink_iff marked).mpr downwards))]
  | cut onChain short =>
      rw [transform?, if_neg (not_not.mpr onChain)]
      split
      · rfl
      · rw [if_pos rfl, unwrap?, if_pos short]

theorem exists_fate (packet : ReceivedPacket) : ∃ fate, Fate packet fate := by
  by_cases onChain : packet.ifChain = chain
  · by_cases short : packet.payload.length < headerLength
    · exact ⟨none, .cut onChain short⟩
    · obtain ⟨marker, rest, original, marked, sameChain, wrapped⟩ :=
        exists_framed (Nat.not_lt.mp short)
      by_cases upwards : marker < 0x80
      · rw [wrapped]
        exact ⟨some original, .relayed (sameChain.trans onChain) upwards⟩
      · exact ⟨none, .echoed onChain marked (UInt8.not_lt.mp upwards)⟩
  · exact ⟨some packet, .direct onChain⟩

theorem fate_iff : Fate packet fate ↔ transform? ⟨false, true⟩ packet = fate := by
  refine ⟨transform?_of_fate, ?_⟩
  rintro rfl
  obtain ⟨fate, told⟩ := exists_fate packet
  rwa [transform?_of_fate told]

/-- A relay takes in what it hears from devices, and nothing from relays. -/
theorem transform?_of_asRelay (hasRelay : Bool) (packet : ReceivedPacket) :
    transform? ⟨true, hasRelay⟩ packet =
      Option.guard (fun packet => packet.ifChain ≠ chain) packet := by
  rw [transform?, Option.guard]
  by_cases elsewhere : packet.ifChain ≠ chain
  · rw [if_pos elsewhere, if_pos (decide_eq_true elsewhere)]
  · rw [if_neg elsewhere, if_pos (.inl rfl), if_neg (elsewhere ∘ of_decide_eq_true)]

/-- A gateway that has a relay takes in a batch in its order, each packet as its fate is: those that
came by themselves as they are, those the relay framed as they were before, and no others. A relay
takes in the packets of other chains only, and any other gateway takes in the batch itself. -/
theorem batches_unframed (batch : List ReceivedPacket) :
    (∀ taken, transform ⟨false, true⟩ batch = taken ↔
      ∃ fates, List.Forall₂ Fate batch fates ∧ fates.reduceOption = taken) ∧
    (∀ hasRelay, transform ⟨true, hasRelay⟩ batch =
      batch.filter fun packet => packet.ifChain ≠ chain) ∧
    transform ⟨false, false⟩ batch = batch := by
  refine ⟨fun taken => ?_, fun hasRelay => ?_, rfl⟩
  · have told (fates : List (Option ReceivedPacket)) :
        List.Forall₂ Fate batch fates ↔ batch.map (transform? ⟨false, true⟩) = fates := by
      rw [← List.forall₂_eq_eq_eq, List.forall₂_map_left_iff]
      exact iff_of_eq (congrArg (List.Forall₂ · batch fates)
        (funext₂ fun _ _ => propext fate_iff))
    have given : transform ⟨false, true⟩ batch =
        (batch.map (transform? ⟨false, true⟩)).reduceOption := by
      rw [List.reduceOption, List.filterMap_map]
      rfl
    simp only [told, given, exists_eq_left']
  · rw [transform, isActive, Bool.true_or, if_pos rfl, ← List.filterMap_eq_filter]
    exact congrArg (List.filterMap · batch) (funext (transform?_of_asRelay hasRelay))

end LorawanGateway.RelayConfig
