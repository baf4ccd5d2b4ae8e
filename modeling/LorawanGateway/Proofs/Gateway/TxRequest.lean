import LorawanGateway.Gateway.Downlink
import Mathlib.Logic.Basic

/-!
What a request to send has to say. A request becomes a packet exactly if each of its parts does:
the moment, the frequency, the chain, the modulation and the payload. The laws of the parts name
the fields that they read and the values that these may have.
-/

namespace LorawanGateway

theorem bind_eq_ok {fault α β : Type} {outcome : Except fault α} {next : α → Except fault β}
    {result : β} :
    (outcome >>= next) = .ok result ↔ ∃ value, outcome = .ok value ∧ next value = .ok result := by
  cases outcome with
  | error cause => simp [bind, Except.bind]
  | ok value => simp [bind, Except.bind]

namespace Txpk

variable {α : Type} {field : TxField} {txpk : Txpk} {settings : TxSettings}

theorem demand_eq_ok {given : Option α} {value : α} :
    demand field given = .ok value ↔ given = some value := by
  cases given <;> simp [demand]

/-- The payload is what the data spell, and neither it nor the stated size is too long. -/
theorem payload_eq_ok_iff {octets : Octets} :
    txpk.payload = .ok octets ↔
      ∃ size text, txpk.size = some size ∧ size.toNat ≤ maxPayloadLength ∧
        txpk.data = some text ∧ Base64.decodePayload? text = some octets ∧
        octets.length ≤ maxPayloadLength := by
  unfold payload
  constructor
  · intro spelled
    obtain ⟨size, stated, spelled⟩ := bind_eq_ok.mp spelled
    split at spelled
    · cases spelled
    · rename_i short
      obtain ⟨-, -, spelled⟩ := bind_eq_ok.mp spelled
      obtain ⟨text, data, spelled⟩ := bind_eq_ok.mp spelled
      split at spelled
      · cases spelled
      · rename_i decoded found
        split at spelled
        · cases spelled
        · rename_i within
          cases spelled
          exact ⟨size, text, demand_eq_ok.mp stated, Nat.not_lt.mp short, demand_eq_ok.mp data,
            found, Nat.not_lt.mp within⟩
  · rintro ⟨size, text, stated, short, data, found, within⟩
    simp [stated, data, found, demand, bind, Except.bind, Nat.not_lt.mpr short,
      Nat.not_lt.mpr within]

/-- A request for FSK says a bit rate and a deviation that fits an octet of kilohertz. -/
theorem fskModulation_eq_ok {rate : SpelledRate} {modulation : TxModulation}
    (settled : txpk.fskModulation rate = .ok modulation) :
    ∃ bitsPerSecond deviation, rate = .bitsPerSecond bitsPerSecond ∧
      txpk.deviation = some deviation ∧ deviation.toNat / 1000 ≤ 255 ∧
      modulation = ⟨.fsk bitsPerSecond, .off, UInt8.ofNat (deviation.toNat / 1000),
        txpk.preambleFor .fsk⟩ := by
  cases rate with
  | name text => cases settled
  | bitsPerSecond bitsPerSecond =>
      obtain ⟨deviation, stated, settled⟩ := bind_eq_ok.mp settled
      split at settled
      · cases settled
      · rename_i within
        cases settled
        exact ⟨bitsPerSecond, deviation, rfl, demand_eq_ok.mp stated, Nat.not_lt.mp within, rfl⟩

theorem modulationSettings_of_fsk {modulation : TxModulation}
    (settled : txpk.modulationSettings = .ok modulation) (fsk : txpk.modulation = some "FSK") :
    ∃ rate, txpk.dataRate = some rate ∧ txpk.fskModulation rate = .ok modulation := by
  obtain ⟨name, named, settled⟩ := bind_eq_ok.mp settled
  obtain ⟨rate, stated, settled⟩ := bind_eq_ok.mp settled
  cases Option.some.inj (fsk.symm.trans (demand_eq_ok.mp named))
  exact ⟨rate, demand_eq_ok.mp stated, settled⟩

/-- A request becomes a packet exactly if all its parts are there and can be had. -/
theorem toTransmit_eq_ok_iff {packet : TransmitPacket} {packetClass : PacketClass} :
    txpk.toTransmit settings = .ok (packet, packetClass) ↔
      ∃ moment frequency rfChain modulation payload,
        txpk.moment settings.reference = .ok moment ∧
        txpk.frequency = some frequency ∧
        txpk.rfChain = some rfChain ∧
        txpk.modulationSettings = .ok modulation ∧
        txpk.payload = .ok payload ∧
        packetClass = moment.packetClass ∧
        packet = {
          frequency := hertz frequency
          mode := moment.mode
          counter := moment.counter
          rfChain := rfChain
          power := txpk.outputPower settings
          dataRate := modulation.dataRate
          codingRate := modulation.codingRate
          invertPolarity := txpk.invertPolarity.getD false
          deviation := modulation.deviation
          preamble := modulation.preamble
          withoutCrc := txpk.withoutCrc.getD false
          withoutHeader := false
          payload := payload } := by
  unfold toTransmit
  constructor
  · intro made
    obtain ⟨moment, timed, made⟩ := bind_eq_ok.mp made
    obtain ⟨frequency, tuned, made⟩ := bind_eq_ok.mp made
    obtain ⟨rfChain, directed, made⟩ := bind_eq_ok.mp made
    obtain ⟨modulation, modulated, made⟩ := bind_eq_ok.mp made
    obtain ⟨payload, spelled, made⟩ := bind_eq_ok.mp made
    cases made
    exact ⟨moment, frequency, rfChain, modulation, payload, timed, demand_eq_ok.mp tuned,
      demand_eq_ok.mp directed, modulated, spelled, rfl, rfl⟩
  · rintro ⟨moment, frequency, rfChain, modulation, payload, timed, tuned, directed, modulated,
      spelled, rfl, rfl⟩
    simp [timed, tuned, directed, modulated, spelled, demand, bind, Except.bind, pure, Except.pure]

end Txpk

end LorawanGateway
