import Mathlib.Algebra.Order.BigOperators.Group.List
import LorawanGateway.Proofs.Gateway.PacketTexts
import LorawanGateway.Proofs.Gateway.UplinkBatch

/-!
Whether a datagram has room for all packets that are fetched at a time, and for the report.
-/

namespace LorawanGateway

open Json Text

namespace UplinkService

variable {service : UplinkService} {gateway : Gateway} {token : Token}
variable {batch : List ClockedPacket} {report : TrafficReport}
variable {front rest taken described : List Described} {pending : Option Stat}

theorem listingLength_le_append (front rest : List Described) (pending : Option Stat) :
    listingLength front none ≤ listingLength (front ++ rest) pending := by
  rw [listingLength, listingLength, List.map_append, List.map_append]
  exact PushData.projectedLength_le_append ..

theorem foldl_take_eq_append
    (room : listingLength (front ++ rest) none ≤ Datagram.sendCapacity) :
    rest.foldl take front = front ++ rest := by
  induction rest generalizing front with
  | nil => exact (List.append_nil front).symm
  | cons next rest induction =>
      have split : front ++ next :: rest = front ++ [next] ++ rest := by simp
      rw [split] at room ⊢
      have here := (listingLength_le_append (front ++ [next]) rest none).trans room
      rw [List.foldl_cons, take, if_pos here]
      exact induction room

theorem listed_eq_self (room : listingLength described pending ≤ Datagram.sendCapacity) :
    listed described = described := by
  have packets : listingLength ([] ++ described) none ≤ Datagram.sendCapacity := by
    refine (listingLength_le_append _ [] pending).trans ?_
    rwa [List.append_nil]
  exact foldl_take_eq_append packets

theorem reportBeside_eq_self (room : listingLength taken pending ≤ Datagram.sendCapacity) :
    reportBeside taken pending = pending := by
  cases pending with
  | none => rfl
  | some stat => exact if_pos (decide_eq_true room)

/-- Whether a batch and the report that waits go along as a whole: the datagram has all of them,
and all packets count as forwarded. Where there is nothing at all there is no datagram. -/
structure Carries (service : UplinkService) (gateway : Gateway) (token : Token)
    (batch : List ClockedPacket) (report : TrafficReport) : Prop where
  datagram : (service.prepare gateway token batch report).1 =
    let described := service.describedIn gateway batch
    if described.isEmpty && report.pending.isNone then .nothing
    else .ready (Datagram.header token .pushData (some gateway.id) ++
      PushData.bodyText (described.map text) (report.pending.map fun stat => stat.toJson.print))
  forwarded : (service.prepare gateway token batch report).2.up.forwarded =
    report.up.forwarded + batch.length

theorem timed_of_isSome
    (timed : ∀ clocked ∈ batch, (clocked.describe? gateway.reference?).isSome) :
    service.Timed gateway batch := by
  intro clocked member _ lost
  have described := timed clocked member
  rw [ClockedPacket.describe?_eq_none_iff.mpr lost] at described
  cases described

theorem map_fst_of_admitted
    (admitted : ∀ clocked ∈ batch, service.Admits gateway.store clocked.packet)
    (timed : service.Timed gateway batch) :
    (service.describedIn gateway batch).map (·.1) = batch := by
  rw [map_fst_describedIn timed]
  exact List.filter_eq_self.mpr fun clocked member => decide_eq_true (admitted clocked member)

/-- A batch of forwarded packets goes along as a whole exactly if the datagram is not too long. -/
theorem carries_iff (token : Token) (report : TrafficReport)
    (admitted : ∀ clocked ∈ batch, service.Admits gateway.store clocked.packet)
    (timed : service.Timed gateway batch) :
    service.Carries gateway token batch report ↔
      listingLength (service.describedIn gateway batch) report.pending ≤
        Datagram.sendCapacity := by
  have prepared : service.prepare gateway token batch report = _ := prepare_of_timed timed
  have whole := map_fst_of_admitted admitted timed
  constructor
  · rintro ⟨datagram, -⟩
    have within := listingLength_reportBeside_le
      (listingLength_listed_le (service.describedIn gateway batch)) report.pending
    rw [prepared] at datagram
    dsimp only at datagram
    generalize service.describedIn gateway batch = described at datagram within ⊢
    cases nothing : described.isEmpty && report.pending.isNone with
    | true =>
        obtain ⟨none, noReport⟩ := (Bool.and_eq_true ..).mp nothing
        rw [List.isEmpty_iff.mp none, Option.isNone_iff_eq_none.mp noReport]
        decide
    | false =>
        rw [nothing] at datagram
        split at datagram
        · cases datagram
        · -- Datagrams that are equal are equally long.
          have same : (listing gateway token (listed described)
              (reportBeside (listed described) report.pending)).octets =
              (listing gateway token described report.pending).octets :=
            Preparation.ready.inj datagram
          have long := congrArg List.length same
          rw [PushData.length_octets, PushData.length_octets, length_listing,
            length_listing] at long
          rwa [← long]
  · intro room
    rw [listed_eq_self room, reportBeside_eq_self room] at prepared
    constructor
    · rw [prepared]
      rfl
    · have count := congrArg List.length whole
      rw [List.length_map] at count
      rw [prepared, ← count]
      rfl

/-- A full capture of packets with at most 147 octets is never too long, with a report. -/
theorem listingLength_le_sendCapacity (few : batch.length ≤ Datagram.captureLimit)
    (short : ∀ clocked ∈ batch, clocked.packet.payload.length ≤ 147)
    (hostShown : ∀ clocked ∈ batch, Instant.inCalendar clocked.host.seconds = true)
    (reported : ∀ stat, report.pending = some stat → stat.toJson.print.length ≤ 248)
    (whole : (service.describedIn gateway batch).map (·.1) = batch) :
    listingLength (service.describedIn gateway batch) report.pending ≤
      Datagram.sendCapacity := by
  have each : ∀ entry ∈ service.describedIn gateway batch, (text entry).length ≤ 533 := by
    intro entry member
    have inBatch : entry.1 ∈ batch := by
      rw [← whole]
      exact List.mem_map_of_mem member
    have payload := short entry.1 inBatch
    have long := Rxpk.length_print_ofPacket?_le (hostShown entry.1 inBatch) (by omega)
      (describe?_of_mem_describedIn member)
    rw [text]
    omega
  have count := congrArg List.length whole
  rw [List.length_map] at count
  have texts : (((service.describedIn gateway batch).map text).map List.length).sum ≤
      batch.length * 533 := by
    have sum := List.sum_le_card_nsmul
      (((service.describedIn gateway batch).map text).map List.length) 533
      (List.forall_mem_map.mpr (List.forall_mem_map.mpr each))
    rwa [List.length_map, List.length_map, count, Nat.nsmul_eq_mul] at sum
  have stat : (((report.pending.map fun stat => stat.toJson.print).map List.length).getD 0) ≤
      248 := by
    cases pending : report.pending with
    | none => decide
    | some stat => exact reported stat pending
  refine (PushData.projectedLength_le _ _).trans ?_
  rw [List.length_map, List.length_map, count]
  simp only [Datagram.captureLimit, Datagram.sendCapacity] at few ⊢
  omega

/-- A batch of forwarded packets goes into one datagram as a whole, with the report that waits,
exactly if that datagram is not too long. A full capture always does, by GPS time or by the clock
of the host and with a report or without, if its payloads have at most 147 octets: then no values
of the other fields make the texts too long. -/
theorem capture_carried_iff (service : UplinkService) (gateway : Gateway) (token : Token)
    (batch : List ClockedPacket) (report : TrafficReport)
    (admitted : ∀ clocked ∈ batch, service.Admits gateway.store clocked.packet)
    (timed : ∀ clocked ∈ batch, (clocked.describe? gateway.reference?).isSome) :
    let described := service.describedIn gateway batch
    (described.map (·.1) = batch ∧
      ∀ entry ∈ described, entry.1.describe? gateway.reference? = some entry.2) ∧
    (service.Carries gateway token batch report ↔
      listingLength described report.pending ≤ Datagram.sendCapacity) ∧
    (batch.length ≤ Datagram.captureLimit →
      (∀ clocked ∈ batch, clocked.packet.payload.length ≤ 147) →
      (∀ clocked ∈ batch, Instant.inCalendar clocked.host.seconds = true) →
      (∀ stat, report.pending = some stat → ∃ counted now position,
        Instant.inCalendar now.seconds = true ∧ stat = TrafficReport.stat counted now position) →
      service.Carries gateway token batch report) := by
  intro described
  have timedAll : service.Timed gateway batch := timed_of_isSome timed
  have whole := map_fst_of_admitted admitted timedAll
  have exactly := carries_iff token report admitted timedAll
  refine ⟨⟨whole, fun _ => describe?_of_mem_describedIn⟩, exactly, ?_⟩
  intro few short hostShown made
  have reported : ∀ stat, report.pending = some stat → stat.toJson.print.length ≤ 248 := by
    intro stat waiting
    obtain ⟨counted, now, position, shown, rfl⟩ := made stat waiting
    exact counted.length_print_stat_le position shown
  exact exactly.mpr (listingLength_le_sendCapacity few short hostShown reported whole)

/-- A service that forwards what has a valid checksum and filters nothing. -/
def openService : UplinkService where
  config := {}
  filter := { service := "semtech", policy := ⟨.none, .none, .none, .none⟩ }

def plainGateway : Gateway where
  id := ⟨0xAA555A0000000000⟩
  config := {}
  store := {}
  radio := {}
  scheduler := .ofEnvelopes [{}, {}] none

/-- A packet with a payload of some size, received when the counter was about to wrap. -/
def sizedPacket (size : Nat) : ReceivedPacket where
  counter := 0xFFFFFFFF
  payload := List.replicate size 0x40

/-- A capture of such packets, while the clock of the host stands still. -/
def sizedCapture (count size : Nat) : List ClockedPacket :=
  List.replicate count ⟨sizedPacket size, .epoch⟩

theorem of_mem_capture {count size : Nat} {clocked : ClockedPacket}
    (member : clocked ∈ sizedCapture count size) :
    openService.Admits plainGateway.store clocked.packet ∧ clocked.packet.payload.length = size ∧
      clocked.host = .epoch ∧ clocked.describe? plainGateway.reference? =
        some (Rxpk.describe (sizedPacket size) .epoch none) := by
  obtain rfl := List.eq_of_mem_replicate member
  exact ⟨⟨rfl, fun _ _ => rfl⟩, List.length_replicate .., rfl, rfl⟩

theorem isSome_of_mem_capture {count size : Nat} {clocked : ClockedPacket}
    (member : clocked ∈ sizedCapture count size) :
    (clocked.describe? plainGateway.reference?).isSome := by
  rw [(of_mem_capture member).2.2.2]
  rfl

theorem capture_of_short_packets_carried :
    let batch := sizedCapture Datagram.captureLimit 147
    let report := TrafficReport.publish {} .epoch none
    ((∀ clocked ∈ batch, openService.Admits plainGateway.store clocked.packet) ∧
      ∀ clocked ∈ batch, (clocked.describe? plainGateway.reference?).isSome) ∧
    (∀ clocked ∈ batch, clocked.packet.payload.length ≤ 147) ∧
    openService.Carries plainGateway ⟨1⟩ batch report := by
  intro batch report
  have admitted : ∀ clocked ∈ batch, openService.Admits plainGateway.store clocked.packet :=
    fun _ member => (of_mem_capture member).1
  have timed : ∀ clocked ∈ batch, (clocked.describe? plainGateway.reference?).isSome :=
    fun _ member => isSome_of_mem_capture member
  have short : ∀ clocked ∈ batch, clocked.packet.payload.length ≤ 147 :=
    fun _ member => (of_mem_capture member).2.1.le
  have shown : ∀ clocked ∈ batch, Instant.inCalendar clocked.host.seconds = true :=
    fun _ member => (of_mem_capture member).2.2.1 ▸ rfl
  refine ⟨⟨admitted, timed⟩, short, ?_⟩
  refine (capture_carried_iff openService plainGateway ⟨1⟩ batch report admitted
    timed).2.2 (by decide) short shown ?_
  rintro stat waiting
  cases waiting
  exact ⟨{}, .epoch, none, by decide, rfl⟩

theorem levels_of_lora {packet : ReceivedPacket} (instant : Instant) (gpsTime : Option UInt64)
    (lora : packet.dataRate.modulation = .lora) :
    (Rxpk.describe packet instant gpsTime).signalLevel = some packet.signalLevel.round ∧
      (Rxpk.describe packet instant gpsTime).signalToNoise =
        some (Rxpk.toTenths packet.signalToNoise) := by
  simp [Rxpk.describe, lora]

/-- How long the text of a packet with the longest payload is at least. Its levels are rounded,
and all that matters of their texts is that they have three characters or more. -/
theorem le_length_sizedPacket :
    566 ≤ (Rxpk.describe (sizedPacket maxPayloadLength) .epoch none).toJson.print.length := by
  have labels := Rxpk.length_labels
  have level (name : String) (value : Float32) :
      (printText name).length + 5 ≤ membersLength (member? name single (some value)) := by
    have some := (length_print_single value).1
    simp only [member?, membersLength]
    omega
  obtain ⟨signal, noise⟩ := levels_of_lora .epoch none
    (show (sizedPacket maxPayloadLength).dataRate.modulation = .lora from rfl)
  generalize made : Rxpk.describe (sizedPacket maxPayloadLength) .epoch none = rxpk
    at signal noise
  have counter : membersLength [("jver", natural rxpk.formatVersion.toNat),
      ("tmst", natural rxpk.counter.toNat)] = 27 := by
    rw [← made]
    decide +kernel
  have times : membersLength (member? "time" .text rxpk.time) = 37 ∧
      membersLength (member? "tmms" (fun time => natural time.toNat) rxpk.gpsTime) = 0 := by
    rw [← made]
    decide +kernel
  have radio : membersLength [("chan", natural rxpk.ifChain.toNat),
      ("rfch", natural rxpk.rfChain.toNat), ("freq", double rxpk.frequency),
      ("mid", natural rxpk.modem.toNat), ("stat", integer rxpk.status.toInt),
      ("modu", .text rxpk.modulation), ("datr", rxpk.dataRate.toJson)] = 80 := by
    rw [← made]
    decide +kernel
  have codingRate : membersLength (member? "codr" .text rxpk.codingRate) = 13 := by
    rw [← made]
    decide +kernel
  have signalLevel : 12 ≤ membersLength (member? "rssis" single rxpk.signalLevel) := by
    rw [signal]
    exact (by omega : 12 ≤ (printText "rssis").length + 5).trans (level ..)
  have signalToNoise : 11 ≤ membersLength (member? "lsnr" single rxpk.signalToNoise) := by
    rw [noise]
    exact (by omega : 11 ≤ (printText "lsnr").length + 5).trans (level ..)
  have payload : 385 ≤ membersLength [("foff", integer rxpk.frequencyOffset.toInt),
      ("rssi", single rxpk.channelLevel), ("size", natural rxpk.size.toNat),
      ("data", .text rxpk.data)] := by
    have channelLevel := (length_print_single rxpk.channelLevel).1
    have offsetAndSize : (print (integer rxpk.frequencyOffset.toInt)).length = 1 ∧
        (print (natural rxpk.size.toNat)).length = 3 := by
      rw [← made]
      decide +kernel
    have data : (print (.text rxpk.data)).length = 346 := by
      have count : (sizedPacket maxPayloadLength).payload.length = 256 :=
        List.length_replicate ..
      have long := length_print_encode (sizedPacket maxPayloadLength).payload
      rw [count] at long
      rw [← made]
      exact long
    rw [membersLength, membersLength, membersLength, membersLength, membersLength]
    omega
  rw [Rxpk.toJson, length_print_object (by simp)]
  simp only [membersLength_append]
  omega

/-- A full capture with the longest payloads is too long for a datagram. -/
theorem capture_of_long_packets_not_carried :
    let batch := sizedCapture Datagram.captureLimit maxPayloadLength
    (∀ clocked ∈ batch, clocked.packet.payload.length ≤ maxPayloadLength ∧
      openService.Admits plainGateway.store clocked.packet ∧
      (clocked.describe? plainGateway.reference?).isSome) ∧
    ¬ openService.Carries plainGateway ⟨1⟩ batch {} := by
  intro batch
  have admitted : ∀ clocked ∈ batch, openService.Admits plainGateway.store clocked.packet :=
    fun _ member => (of_mem_capture member).1
  have timed : openService.Timed plainGateway batch :=
    timed_of_isSome fun _ member => isSome_of_mem_capture member
  refine ⟨fun clocked member => ⟨(of_mem_capture member).2.1.le, admitted clocked member,
    isSome_of_mem_capture member⟩, ?_⟩
  rw [carries_iff ⟨1⟩ {} admitted timed]
  have whole := map_fst_of_admitted admitted timed
  have each : ∀ entry ∈ openService.describedIn plainGateway batch, 566 ≤ (text entry).length := by
    intro entry member
    have described := describe?_of_mem_describedIn member
    rw [(of_mem_capture (whole ▸ List.mem_map_of_mem member)).2.2.2, Option.some.injEq]
      at described
    rw [text, ← described]
    exact le_length_sizedPacket
  have full : batch.length = Datagram.captureLimit := List.length_replicate ..
  have count := congrArg List.length whole
  rw [List.length_map, full, Datagram.captureLimit] at count
  generalize openService.describedIn plainGateway batch = described at count each
  have sum := List.card_nsmul_le_sum ((described.map text).map List.length) 566
    (List.forall_mem_map.mpr (List.forall_mem_map.mpr each))
  have some : (described.map text).map List.length ≠ [] :=
    List.ne_nil_of_length_pos (by rw [List.length_map, List.length_map]; omega)
  have length : listingLength described none = _ := PushData.projectedLength_of_ne_nil some
  rw [List.length_map, List.length_map, count] at length
  rw [List.length_map, List.length_map, count, Nat.nsmul_eq_mul] at sum
  rw [Nat.not_le, Datagram.sendCapacity, Datagram.captureLimit, length]
  omega

end UplinkService

end LorawanGateway
