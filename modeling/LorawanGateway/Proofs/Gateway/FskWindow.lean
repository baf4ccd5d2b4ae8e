import LorawanGateway.Proofs.Gateway.TxRequest
import Mathlib.Algebra.Order.Floor.Div

/-!
The window that a request for FSK reserves. The air time of a packet is the exact one rounded up,
as long as that is a word; beyond it wraps, and without a bit rate it is zero. So the bits of a
packet and its rate decide whether the reserved time covers the transmission and can be added up in
the collision test.
-/

namespace LorawanGateway

/-- The bits of an FSK packet: preamble, sync word, length, payload and checksum. -/
def fskBits (packet : TransmitPacket) : Nat :=
  8 * (packet.preamble.toNat + 3 + 1 + packet.payload.length + if packet.withoutCrc then 0 else 2)

/-- The reserved air time is enough for all bits of a packet, and the collision test can add it
up. -/
structure Covered (packet : TransmitPacket) (rate : Nat) : Prop where
  enough : fskBits packet * 1000000 ≤ rate * packet.airTime.toNat
  countable : Timing.startDelay.toNat + Timing.lead.toNat + packet.airTime.toNat +
    Timing.margin.toNat < 2 ^ 32

namespace AirTime

variable {packet : TransmitPacket} {rate : Nat}

theorem fsk_eq_ceilDiv (positive : 0 < rate) :
    fsk packet rate = fskBits packet * 1000000 ⌈/⌉ rate := by
  rw [fsk, if_neg positive.ne', Nat.ceilDiv_eq_add_pred_div, fskBits, fskOctets, Nat.mul_comm 8]

theorem fsk_le_iff (positive : 0 < rate) {limit : Nat} :
    fsk packet rate ≤ limit ↔ fskBits packet * 1000000 ≤ rate * limit := by
  rw [fsk_eq_ceilDiv positive]
  exact ceilDiv_le_iff_le_mul positive

end AirTime

variable {packet : TransmitPacket} {rate : UInt32}

theorem fskBits_pos (packet : TransmitPacket) : 0 < fskBits packet := by
  unfold fskBits
  omega

theorem airTime_of_fsk (fsk : packet.dataRate = .fsk rate) :
    packet.airTime.toNat = AirTime.fsk packet rate.toNat % 2 ^ 32 := by
  simp only [TransmitPacket.airTime, fsk, UInt32.toNat_ofNat']

/-- 4294924795 microseconds are all that the collision test can add up. -/
theorem covered_iff (fsk : packet.dataRate = .fsk rate) :
    Covered packet rate.toNat ↔ fskBits packet * 1000000 ≤ rate.toNat * 4294924795 := by
  have fixed : Timing.startDelay.toNat = 1500 ∧ Timing.lead.toNat = 40000 ∧
      Timing.margin.toNat = 1000 := ⟨rfl, rfl, rfl⟩
  constructor
  · rintro ⟨enough, countable⟩
    refine enough.trans (Nat.mul_le_mul_left _ ?_)
    omega
  · intro within
    have positive : 0 < rate.toNat := by
      have bits := fskBits_pos packet
      refine Nat.pos_of_ne_zero fun zero => ?_
      rw [zero] at within
      omega
    have short := (AirTime.fsk_le_iff positive).mpr within
    -- Within the limit the rounded time is a word, and the packet keeps it as it is.
    have exact : packet.airTime.toNat = AirTime.fsk packet rate.toNat := by
      rw [airTime_of_fsk fsk]
      exact Nat.mod_eq_of_lt (by omega)
    refine ⟨?_, by omega⟩
    rw [exact]
    exact (AirTime.fsk_le_iff positive).mp le_rfl

theorem fskBits_le (short : packet.payload.length ≤ maxPayloadLength) :
    fskBits packet ≤ 8 * packet.preamble.toNat + 2096 := by
  unfold fskBits
  unfold maxPayloadLength at short
  split <;> omega

namespace Txpk

variable {txpk : Txpk} {settings : TxSettings} {packetClass : PacketClass}

theorem toTransmit_of_fsk (accepted : txpk.toTransmit settings = .ok (packet, packetClass))
    (fsk : txpk.modulation = some "FSK") :
    ∃ rate, txpk.dataRate = some (.bitsPerSecond rate) ∧ packet.dataRate = .fsk rate ∧
      packet.payload.length ≤ maxPayloadLength := by
  obtain ⟨_, _, _, modulation, payload, -, -, -, modulated, spelled, -, rfl⟩ :=
    toTransmit_eq_ok_iff.mp accepted
  obtain ⟨spelledRate, stated, settled⟩ := modulationSettings_of_fsk modulated fsk
  obtain ⟨rate, _, rfl, -, -, rfl⟩ := fskModulation_eq_ok settled
  obtain ⟨_, _, -, -, -, -, within⟩ := payload_eq_ok_iff.mp spelled
  exact ⟨rate, stated, rfl, within⟩

/-- The window reserved for an accepted FSK request covers the transmission, and can be added up,
exactly if its bits take no longer than 4294924795 microseconds at its rate. That holds at 123 bits
per second and more, and at any rate but zero for preambles of up to 274 octets. -/
theorem fsk_request_covered_iff (accepted : txpk.toTransmit settings = .ok (packet, packetClass))
    (fsk : txpk.modulation = some "FSK") :
    ∃ rate, txpk.dataRate = some (.bitsPerSecond rate) ∧
      (Covered packet rate.toNat ↔ fskBits packet * 1000000 ≤ rate.toNat * 4294924795) ∧
      (123 ≤ rate.toNat ∨ 0 < rate.toNat ∧ packet.preamble.toNat ≤ 274 →
        Covered packet rate.toNat) := by
  obtain ⟨rate, stated, modulated, short⟩ := toTransmit_of_fsk accepted fsk
  refine ⟨rate, stated, covered_iff modulated, fun usual => (covered_iff modulated).mpr ?_⟩
  have few := fskBits_le short
  have word := packet.preamble.toNat_lt
  rcases usual with fast | ⟨positive, brief⟩ <;> omega

/-- A request with a preamble as long as can be, at a very low rate. -/
def slowRequest (rate : UInt32) : Txpk where
  counter := some 2000000
  frequency := some 868.3
  rfChain := some 0
  power := some 14
  modulation := some "FSK"
  dataRate := some (.bitsPerSecond rate)
  deviation := some 25000
  preamble := some 65535
  size := some 5
  data := some "aGVsbG8="

def slowPacket (rate : UInt32) : TransmitPacket where
  frequency := hertz 868.3
  counter := 2000000
  dataRate := .fsk rate
  codingRate := .off
  invertPolarity := false
  deviation := 25
  preamble := 65535
  payload := [0x68, 0x65, 0x6C, 0x6C, 0x6F]

theorem slowRequest_accepted (rate : UInt32) :
    (slowRequest rate).toTransmit ⟨0, 14, none⟩ = .ok (slowPacket rate, .classA) :=
  rfl

theorem request_at_lowest_usual_rate_covered :
    (slowRequest 123).toTransmit ⟨0, 14, none⟩ = .ok (slowPacket 123, .classA) ∧
      (slowRequest 123).modulation = some "FSK" ∧ Covered (slowPacket 123) 123 ∧
      (slowPacket 123).airTime = 4263154472 := by
  obtain ⟨rate, stated, -, usual⟩ := fsk_request_covered_iff (slowRequest_accepted 123) rfl
  cases stated
  exact ⟨slowRequest_accepted 123, rfl, usual (.inl (by decide)), by decide⟩

/-- One bit per second less, and of more than seventy minutes on the air the packet keeps three
seconds. -/
theorem slow_request_shrinks_window :
    (slowRequest 122).toTransmit ⟨0, 14, none⟩ = .ok (slowPacket 122, .classA) ∧
      (slowRequest 122).modulation = some "FSK" ∧
      (slowRequest 122).dataRate = some (.bitsPerSecond 122) ∧
      (slowPacket 122).airTime = 3131065 ∧
      ¬ fskBits (slowPacket 122) * 1000000 ≤ 122 * (slowPacket 122).airTime.toNat :=
  ⟨slowRequest_accepted 122, rfl, rfl, by decide, by decide⟩

end Txpk

end LorawanGateway
