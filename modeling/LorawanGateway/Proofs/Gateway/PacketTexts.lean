import LorawanGateway.Gateway.Uplink
import LorawanGateway.Proofs.Json.PrintedLength
import LorawanGateway.Proofs.Time.InstantText

/-!
How long the texts of received packets and of status reports get, field by field. What a packet
adds beyond a fixed length is its payload in base 64.
-/

namespace LorawanGateway

open Json Text

namespace Rxpk

variable {packet : ReceivedPacket} {instant : Instant} {gpsTime : Option UInt64}

theorem length_labels : (printText "jver").length = 6 ∧ (printText "tmst").length = 6 ∧
    (printText "time").length = 6 ∧ (printText "tmms").length = 6 ∧
    (printText "chan").length = 6 ∧ (printText "rfch").length = 6 ∧
    (printText "freq").length = 6 ∧ (printText "mid").length = 5 ∧
    (printText "stat").length = 6 ∧ (printText "modu").length = 6 ∧
    (printText "datr").length = 6 ∧ (printText "codr").length = 6 ∧
    (printText "rssis").length = 7 ∧ (printText "lsnr").length = 6 ∧
    (printText "foff").length = 6 ∧ (printText "rssi").length = 6 ∧
    (printText "size").length = 6 ∧ (printText "data").length = 6 := by
  decide +kernel

/-- What bounds the text of a packet whose data has at most `limit` characters, besides the widths
of its numbers. -/
structure Compact (limit : Nat) (rxpk : Rxpk) : Prop where
  version : rxpk.formatVersion.toNat < 10
  time : ∀ text, rxpk.time = some text → Within 30 text
  status : rxpk.status.toInt.natAbs < 10
  modulation : Within 4 rxpk.modulation
  rate : (print rxpk.dataRate.toJson).length ≤ 11
  codingRate : ∀ text, rxpk.codingRate = some text → Within 3 text
  size : rxpk.size.toNat < 1000
  data : Within limit rxpk.data

theorem Compact.length_print_le {limit : Nat} {rxpk : Rxpk} (compact : rxpk.Compact limit) :
    rxpk.toJson.print.length ≤ 337 + limit := by
  have labels := length_labels
  have version : (print (natural rxpk.formatVersion.toNat)).length ≤ 1 :=
    length_print_natural_le (by decide) compact.version
  have counter := length_print_word32_le rxpk.counter
  have time : membersLength (member? "time" .text rxpk.time) ≤ _ :=
    membersLength_member?_le _ fun text same => length_print_text_le (compact.time text same)
  have gps : membersLength (member? "tmms" (fun time => natural time.toNat) rxpk.gpsTime) ≤ _ :=
    membersLength_member?_le _ fun time _ => length_print_word64_le time
  have ifChain := length_print_word8_le rxpk.ifChain
  have rfChain := length_print_word8_le rxpk.rfChain
  have frequency := length_print_double_le rxpk.frequency
  have modem := length_print_word8_le rxpk.modem
  have status : (print (integer rxpk.status.toInt)).length ≤ 2 :=
    length_print_integer_le (by decide : 0 < 1) compact.status
  have modulation : (print (.text rxpk.modulation)).length ≤ 6 :=
    length_print_text_le compact.modulation
  have rate := compact.rate
  have codingRate : membersLength (member? "codr" .text rxpk.codingRate) ≤ _ :=
    membersLength_member?_le _ fun text same =>
      length_print_text_le (compact.codingRate text same)
  have signalLevel : membersLength (member? "rssis" single rxpk.signalLevel) ≤ _ :=
    membersLength_member?_le _ fun level _ => (length_print_single level).2
  have signalToNoise : membersLength (member? "lsnr" single rxpk.signalToNoise) ≤ _ :=
    membersLength_member?_le _ fun ratio _ => (length_print_single ratio).2
  have offset := length_print_signed32_le rxpk.frequencyOffset
  have channelLevel := (length_print_single rxpk.channelLevel).2
  have size : (print (natural rxpk.size.toNat)).length ≤ 3 :=
    length_print_natural_le (by decide) compact.size
  have data : (print (.text rxpk.data)).length ≤ limit + 2 := length_print_text_le compact.data
  rw [toJson, length_print_object (by simp)]
  simp only [membersLength_append, membersLength]
  omega

theorem compact_describe (shown : Instant.inCalendar instant.seconds = true)
    (small : packet.payload.length < 1000) :
    (describe packet instant gpsTime).Compact (4 * ((packet.payload.length + 2) / 3)) where
  version := show 1 < 10 by decide
  time text same := by
    cases same
    exact Instant.within_preciseText shown
  status := by
    simp only [describe]
    cases packet.status <;> decide
  modulation := by
    simp only [describe]
    cases packet.dataRate.modulation <;> decide
  rate := by
    simp only [describe]
    cases packet.dataRate with
    | lora factor bandwidth => cases factor <;> cases bandwidth <;> decide +kernel
    | fsk bitsPerSecond => exact (length_print_word32_le bitsPerSecond).trans (by decide)
  codingRate text same := by
    simp only [describe, Option.ite_none_right_eq_some, Option.some.injEq] at same
    rw [← same.2]
    cases packet.codingRate <;> decide
  size := by
    simp only [describe]
    rw [UInt16.toNat_ofNat_of_lt' (small.trans (by decide))]
    exact small
  data := Base64.within_encode packet.payload

/-- A received packet is described at an instant of the calendar if the clock of the host shows
one. -/
theorem shown_of_receptionTime? {reference : Option TimeReference} {host : Instant}
    {counter : UInt32} (hostShown : Instant.inCalendar host.seconds = true)
    (found : receptionTime? reference host counter = some (instant, gpsTime)) :
    Instant.inCalendar instant.seconds = true := by
  cases reference with
  | none =>
      cases found
      exact hostShown
  | some reference =>
      obtain ⟨utc, atUtc, rest⟩ := Option.bind_eq_some_iff.mp found
      obtain ⟨gps, -, same⟩ := Option.bind_eq_some_iff.mp rest
      cases same
      simp only [TimeReference.utcAt?, Instant.addMicroseconds?] at atUtc
      split at atUtc
      · rename_i shown
        cases atUtc
        exact shown
      · cases atUtc

theorem length_print_ofPacket?_le {reference : Option TimeReference} {host : Instant}
    {rxpk : Rxpk} (hostShown : Instant.inCalendar host.seconds = true)
    (small : packet.payload.length < 1000)
    (described : ofPacket? packet reference host = some rxpk) :
    rxpk.toJson.print.length ≤ 337 + 4 * ((packet.payload.length + 2) / 3) := by
  obtain ⟨⟨instant, gpsTime⟩, found, rfl⟩ := Option.map_eq_some_iff.mp described
  exact (compact_describe (shown_of_receptionTime? hostShown found) small).length_print_le

end Rxpk

namespace TrafficReport

theorem length_labels : (printText "time").length = 6 ∧ (printText "lati").length = 6 ∧
    (printText "long").length = 6 ∧ (printText "alti").length = 6 ∧
    (printText "rxnb").length = 6 ∧ (printText "rxok").length = 6 ∧
    (printText "rxfw").length = 6 ∧ (printText "ackr").length = 6 ∧
    (printText "dwnb").length = 6 ∧ (printText "txnb").length = 6 := by
  decide +kernel

/-- How long the text of a report gets, whatever was counted. -/
theorem length_print_stat_le (report : TrafficReport) {now : Instant}
    (position : Option Coordinates) (shown : Instant.inCalendar now.seconds = true) :
    (report.stat now position).toJson.print.length ≤ 248 := by
  have labels := length_labels
  generalize made : report.stat now position = stat
  have time : (print (.text stat.time)).length ≤ 28 := by
    rw [← made]
    exact length_print_text_le (Instant.within_reportText shown)
  have latitude : membersLength (member? "lati" double stat.latitude) ≤ _ :=
    membersLength_member?_le _ fun degrees _ => length_print_double_le degrees
  have longitude : membersLength (member? "long" double stat.longitude) ≤ _ :=
    membersLength_member?_le _ fun degrees _ => length_print_double_le degrees
  have altitude : membersLength (member? "alti" (fun altitude => integer altitude.toInt)
      stat.altitude) ≤ _ :=
    membersLength_member?_le _ fun metres _ => length_print_signed32_le metres
  have received := length_print_word32_le stat.received
  have receivedOk := length_print_word32_le stat.receivedOk
  have forwarded := length_print_word32_le stat.forwarded
  have share := length_print_double_le stat.acknowledgedShare
  have fromServer := length_print_word32_le stat.fromServer
  have transmitted := length_print_word32_le stat.transmitted
  rw [Stat.toJson, length_print_object (by simp)]
  simp only [membersLength_append, membersLength]
  omega

end TrafficReport

end LorawanGateway
