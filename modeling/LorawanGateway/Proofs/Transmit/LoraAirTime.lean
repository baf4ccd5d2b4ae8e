import LorawanGateway.Transmit.Queue
import Mathlib.Data.Rat.Floor
import Mathlib.Tactic.NormNum
import Mathlib.Tactic.Ring
import Mathlib.Tactic.GCongr

/-!
The air time of a LoRa packet, against the formula over the rational numbers. The formula rounds up
the blocks of the payload and nothing else; the sum comes out whole, because a quarter of a symbol
is a whole number of microseconds. For a packet that can be sent it stays far from the largest word,
so nothing is cut off, and it grows with all that is sent.
-/

namespace LorawanGateway

namespace AirTime

section Formula

variable (packet : TransmitPacket) (factor : SpreadingFactor) (bandwidth : Bandwidth)

/-- The microseconds of a symbol. -/
def exactSymbol : ℚ := 2 ^ factor.value * 10 ^ 6 / bandwidth.hertz

/-- The bits that take symbols beyond the first eight, over the bits that a block holds. -/
def exactBlocks : ℚ :=
  (8 * packet.payload.length - 4 * factor.value + 28 + 16 * (if packet.withoutCrc then 0 else 1) -
      20 * (if packet.withoutHeader then 1 else 0)) /
    (4 * (factor.value - 2 * (if 11 ≤ factor.value ∧ bandwidth = .bw125 then 1 else 0)))

def exactPayloadSymbols : ℚ :=
  8 + max (⌈exactBlocks packet factor bandwidth⌉ * (max packet.codingRate.redundancy 1 + 4)) 0

/-- The microseconds of a packet: its preamble, then its payload. -/
def exact : ℚ :=
  (packet.preamble.toNat + 4.25) * exactSymbol factor bandwidth +
    exactPayloadSymbols packet factor bandwidth * exactSymbol factor bandwidth

def bitsPerBlock : Nat :=
  4 * (factor.value - if lowRateOptimised factor bandwidth then 2 else 0)

/-- The symbols of a block. -/
def codeLength : Nat := max packet.codingRate.redundancy 1 + 4

def blocks : Int := ceilDiv (excessBits packet factor) (bitsPerBlock factor bandwidth)

theorem payloadSymbols_eq :
    payloadSymbols packet factor bandwidth =
      8 + (blocks packet factor bandwidth * codeLength packet).toNat := rfl

end Formula

theorem ceilDiv_eq_ceil (numerator : Int) (divisor : Nat) :
    ceilDiv numerator divisor = ⌈(numerator : ℚ) / divisor⌉ := by
  rw [ceilDiv, Rat.ceil_intCast_div_natCast]

theorem ceilDiv_mono (divisor : Nat) {fewer more : Int} (grown : fewer ≤ more) :
    ceilDiv fewer divisor ≤ ceilDiv more divisor := by
  rw [ceilDiv_eq_ceil, ceilDiv_eq_ceil]
  gcongr

theorem ceilDiv_le_iff {numerator limit : Int} {divisor : Nat} (positive : 0 < divisor) :
    ceilDiv numerator divisor ≤ limit ↔ numerator ≤ limit * divisor := by
  rw [ceilDiv_eq_ceil, Int.ceil_le, div_le_iff₀ (by exact_mod_cast positive)]
  norm_cast

variable {packet longer : TransmitPacket} {factor : SpreadingFactor} {bandwidth : Bandwidth}

theorem bitsPerBlock_cast :
    (bitsPerBlock factor bandwidth : ℚ) =
      4 * (factor.value - 2 * (if 11 ≤ factor.value ∧ bandwidth = .bw125 then 1 else 0)) := by
  have spare : (if lowRateOptimised factor bandwidth then 2 else 0) ≤ factor.value := by
    cases factor <;> cases bandwidth <;> decide
  rw [bitsPerBlock, Nat.cast_mul, Nat.cast_sub spare]
  by_cases low : 11 ≤ factor.value ∧ bandwidth = .bw125 <;> simp [lowRateOptimised, low]

theorem excessBits_cast :
    (excessBits packet factor : ℚ) =
      8 * packet.payload.length - 4 * factor.value + 28 +
        16 * (if packet.withoutCrc then 0 else 1) -
        20 * (if packet.withoutHeader then 1 else 0) := by
  cases crc : packet.withoutCrc <;> cases header : packet.withoutHeader <;>
    simp [excessBits, crc, header]

theorem blocks_eq_ceil :
    blocks packet factor bandwidth = ⌈exactBlocks packet factor bandwidth⌉ := by
  rw [blocks, ceilDiv_eq_ceil, bitsPerBlock_cast, excessBits_cast, exactBlocks]

theorem payloadSymbols_cast :
    (payloadSymbols packet factor bandwidth : ℚ) = exactPayloadSymbols packet factor bandwidth := by
  -- A negative number of blocks is cut off as a natural number here, by a maximum in the formula.
  rw [payloadSymbols_eq, exactPayloadSymbols, ← blocks_eq_ceil, codeLength, Nat.cast_add,
    ← Int.cast_natCast (Int.toNat _), Int.ofNat_toNat]
  push_cast
  rfl

theorem quarter_cast :
    ((symbol factor bandwidth / 4 : ℕ) : ℚ) = exactSymbol factor bandwidth / 4 := by
  have positive : (bandwidth.hertz : ℚ) ≠ 0 := by cases bandwidth <;> decide
  have whole : 4 * (symbol factor bandwidth / 4) * bandwidth.hertz = 2 ^ factor.value * 10 ^ 6 := by
    cases factor <;> cases bandwidth <;> rfl
  rw [exactSymbol, eq_div_iff four_ne_zero, eq_div_iff positive, mul_comm _ (4 : ℚ)]
  exact_mod_cast whole

theorem lora_cast : (lora packet factor bandwidth : ℚ) = exact packet factor bandwidth := by
  rw [lora, Nat.cast_mul, quarter_cast, Nat.cast_add, Nat.cast_mul, payloadSymbols_cast, exact]
  push_cast
  ring

/-- At most 2072 bits go beyond the first eight symbols, and a block holds no fewer than twenty. -/
theorem blocks_le (short : packet.payload.length ≤ maxPayloadLength) :
    blocks packet factor bandwidth ≤ 104 := by
  have bits : excessBits packet factor ≤ 2072 := by
    have spread : 5 ≤ factor.value := by cases factor <;> decide
    unfold maxPayloadLength at short
    unfold excessBits
    split <;> split <;> omega
  have block : 20 ≤ bitsPerBlock factor bandwidth := by
    cases factor <;> cases bandwidth <;> decide
  exact (ceilDiv_le_iff (by omega)).mpr (by omega)

theorem payloadSymbols_le (short : packet.payload.length ≤ maxPayloadLength) :
    payloadSymbols packet factor bandwidth ≤ 840 := by
  have code : codeLength packet ≤ 8 := by
    unfold codeLength
    cases packet.codingRate <;> decide
  have symbols : blocks packet factor bandwidth * codeLength packet ≤ 104 * 8 :=
    Int.mul_le_mul (blocks_le short) (Int.ofNat_le.mpr code) (Int.natCast_nonneg _) (by decide)
  rw [payloadSymbols_eq]
  omega

theorem lora_le (short : packet.payload.length ≤ maxPayloadLength) :
    lora packet factor bandwidth ≤ 2175115264 := by
  have symbols : payloadSymbols packet factor bandwidth ≤ 840 := payloadSymbols_le short
  have quarter : symbol factor bandwidth / 4 ≤ 8192 := by
    cases factor <;> cases bandwidth <;> decide
  have preamble := packet.preamble.toNat_lt
  exact Nat.mul_le_mul (by omega : _ ≤ 265517) quarter

end AirTime

/-- The longer packet has all that this one has: payload and preamble are at least as long and the
code as redundant, and the checksum and the header are there if they are here. -/
structure TransmitPacket.Within (packet longer : TransmitPacket) : Prop where
  payload : packet.payload.length ≤ longer.payload.length
  preamble : packet.preamble ≤ longer.preamble
  redundancy : packet.codingRate.redundancy ≤ longer.codingRate.redundancy
  checksum : longer.withoutCrc → packet.withoutCrc
  header : longer.withoutHeader → packet.withoutHeader

variable {packet longer : TransmitPacket} {factor : SpreadingFactor} {bandwidth : Bandwidth}

namespace AirTime

theorem excessBits_mono (within : packet.Within longer) :
    excessBits packet factor ≤ excessBits longer factor := by
  obtain ⟨payload, -, -, checksum, header⟩ := within
  have check : (if packet.withoutCrc then 0 else 16 : Int) ≤
      if longer.withoutCrc then 0 else 16 := by
    split <;> split <;> simp_all
  have head : (if longer.withoutHeader then 20 else 0 : Int) ≤
      if packet.withoutHeader then 20 else 0 := by
    split <;> split <;> simp_all
  unfold excessBits
  omega

theorem payloadSymbols_mono (within : packet.Within longer) :
    payloadSymbols packet factor bandwidth ≤ payloadSymbols longer factor bandwidth := by
  have code : codeLength packet ≤ codeLength longer := by
    have redundancy := within.redundancy
    unfold codeLength
    omega
  have grown : blocks packet factor bandwidth ≤ blocks longer factor bandwidth :=
    ceilDiv_mono _ (excessBits_mono within)
  rw [payloadSymbols_eq, payloadSymbols_eq]
  apply Nat.add_le_add_left
  -- A longer code makes a negative product smaller, but then nothing is left of it.
  rcases le_total 0 (blocks packet factor bandwidth) with some | none
  · exact Int.toNat_le_toNat (Int.mul_le_mul grown (Int.ofNat_le.mpr code)
      (Int.natCast_nonneg _) (some.trans grown))
  · rw [Int.toNat_of_nonpos (Int.mul_nonpos_of_nonpos_of_nonneg none (Int.natCast_nonneg _))]
    exact Nat.zero_le _

theorem lora_mono (within : packet.Within longer) :
    lora packet factor bandwidth ≤ lora longer factor bandwidth := by
  have symbols : payloadSymbols packet factor bandwidth ≤ payloadSymbols longer factor bandwidth :=
    payloadSymbols_mono within
  have preamble := UInt16.le_iff_toNat_le.mp within.preamble
  simp only [lora]
  gcongr

end AirTime

theorem toNat_airTime_of_lora (rated : packet.dataRate = .lora factor bandwidth) :
    packet.airTime.toNat = min (AirTime.lora packet factor bandwidth) 0xFFFFFFFF := by
  simp only [TransmitPacket.airTime, rated, UInt32.toNat_ofNat']
  omega

/-- The air time of a LoRa packet that can be sent is the value of the formula, which is therefore
whole. It can be added up with the delays of the collision test, and a packet that has all that this
one has takes no less time. -/
theorem lora_air_time_exact_and_growing (rated : packet.dataRate = .lora factor bandwidth)
    (short : packet.payload.length ≤ maxPayloadLength) :
    (packet.airTime.toNat : ℚ) = AirTime.exact packet factor bandwidth ∧
      packet.airTime.toNat <
        2 ^ 32 - (Timing.startDelay.toNat + Timing.lead.toNat + Timing.margin.toNat) ∧
      ∀ longer : TransmitPacket, longer.dataRate = packet.dataRate → packet.Within longer →
        packet.airTime ≤ longer.airTime := by
  have bounded : AirTime.lora packet factor bandwidth ≤ 2175115264 := AirTime.lora_le short
  have uncut : packet.airTime.toNat = AirTime.lora packet factor bandwidth := by
    rw [toNat_airTime_of_lora rated]
    omega
  refine ⟨?_, ?_, ?_⟩
  · rw [uncut, AirTime.lora_cast]
  · have fixed : Timing.startDelay.toNat + Timing.lead.toNat + Timing.margin.toNat = 42500 := rfl
    omega
  · intro longer alike within
    have grown : AirTime.lora packet factor bandwidth ≤ AirTime.lora longer factor bandwidth :=
      AirTime.lora_mono within
    rw [UInt32.le_iff_toNat_le, uncut, toNat_airTime_of_lora (alike.trans rated)]
    omega

/-- A packet without checksum and header, next to the one that has them. -/
theorem bare_packet_air_time_exact :
    let bare : TransmitPacket :=
      { withoutCrc := true, withoutHeader := true, payload := List.replicate 13 0 }
    let full : TransmitPacket :=
      { codingRate := .cr48, preamble := 12, payload := List.replicate 14 0 }
    bare.dataRate = .lora .sf7 .bw125 ∧ bare.payload.length ≤ maxPayloadLength ∧
      full.dataRate = bare.dataRate ∧ bare.Within full ∧
      AirTime.exact bare .sf7 .bw125 = 36096 ∧ bare.airTime ≤ full.airTime := by
  intro bare full
  have rated : bare.dataRate = .lora .sf7 .bw125 := rfl
  have short : bare.payload.length ≤ maxPayloadLength := by decide
  have within : bare.Within full := ⟨by decide, by decide, by decide, nofun, nofun⟩
  obtain ⟨exact, -, grows⟩ := lora_air_time_exact_and_growing rated short
  have time : bare.airTime.toNat = 36096 := by decide
  refine ⟨rated, short, rfl, within, ?_, grows full rfl within⟩
  rw [← exact, time]
  rfl

end LorawanGateway
