import LorawanGateway.Radio.Packet

/-!
How long a packet occupies the air, in microseconds. A LoRa symbol lasts a whole number of
microseconds at every spreading factor and bandwidth, so that all steps are exact.
-/

namespace LorawanGateway

namespace AirTime

def symbol (factor : SpreadingFactor) (bandwidth : Bandwidth) : Nat :=
  (1 <<< factor.value) * 1000000 / bandwidth.hertz

/-- The slowest rates repeat bits against drift: spreading factors 11 and 12 at 125 kHz. -/
def lowRateOptimised (factor : SpreadingFactor) (bandwidth : Bandwidth) : Bool :=
  11 ≤ factor.value && bandwidth == .bw125

/-- The quotient rounded up, for a positive divisor. -/
def ceilDiv (numerator : Int) (divisor : Nat) : Int := -((-numerator) / divisor)

/-- The bits of payload, checksum and header that take symbols beyond the first eight; negative
where those hold them all. -/
def excessBits (packet : TransmitPacket) (factor : SpreadingFactor) : Int :=
  8 * packet.payload.length - 4 * factor.value + 28 + (if packet.withoutCrc then 0 else 16) -
    (if packet.withoutHeader then 20 else 0)

def payloadSymbols (packet : TransmitPacket) (factor : SpreadingFactor)
    (bandwidth : Bandwidth) : Nat :=
  let bitsPerBlock := 4 * (factor.value - if lowRateOptimised factor bandwidth then 2 else 0)
  let codeLength : Nat := max packet.codingRate.redundancy 1 + 4
  8 + (ceilDiv (excessBits packet factor) bitsPerBlock * codeLength).toNat

/-- The air time of a LoRa packet: the preamble and four and a quarter symbols, then the payload. A
quarter of a symbol is a whole number of microseconds. -/
def lora (packet : TransmitPacket) (factor : SpreadingFactor) (bandwidth : Bandwidth) : Nat :=
  let quarters := 4 * packet.preamble.toNat + 17 + 4 * payloadSymbols packet factor bandwidth
  quarters * (symbol factor bandwidth / 4)

/-- The octets of an FSK packet on the air: preamble, sync word, length, payload, checksum. -/
def fskOctets (packet : TransmitPacket) : Nat :=
  packet.preamble.toNat + 3 + 1 + packet.payload.length + if packet.withoutCrc then 0 else 2

/-- The air time of an FSK packet, rounded up; without a bit rate it takes no time. -/
def fsk (packet : TransmitPacket) (bitsPerSecond : Nat) : Nat :=
  if bitsPerSecond = 0 then 0
  else (fskOctets packet * 8 * 1000000 + bitsPerSecond - 1) / bitsPerSecond

end AirTime

/-- The air time of a packet as a word: a LoRa time stays at the largest word, an FSK time wraps. -/
def TransmitPacket.airTime (packet : TransmitPacket) : UInt32 :=
  match packet.dataRate with
  | .lora factor bandwidth => UInt32.ofNat (min (AirTime.lora packet factor bandwidth) 0xFFFFFFFF)
  | .fsk bitsPerSecond => UInt32.ofNat (AirTime.fsk packet bitsPerSecond.toNat)

end LorawanGateway
