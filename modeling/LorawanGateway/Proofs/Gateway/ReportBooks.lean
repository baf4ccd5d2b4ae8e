import LorawanGateway.Proofs.Gateway.CaptureRoom
import LorawanGateway.Proofs.Gateway.UplinkTurns
import Mathlib.Algebra.BigOperators.Group.List.Basic

/-!
The books of a report, kept for all tasks together. A packet that was counted as received is in
hand until it is counted as forwarded or let go of, and a datagram that was counted as sent is
awaited until it is counted as acknowledged or let go of. Publishing a report starts the counters
afresh and leaves what is in hand or awaited as it is, so that the books close over all reports
together, and over a single one exactly if it carried over no more than it hands on.
-/

namespace LorawanGateway

namespace UplinkCounters

variable (up : UplinkCounters) (status : CrcStatus)

/-- The packets for which the outcome of the checksum was counted. -/
def checked : Nat := up.receivedOk + up.receivedBad + up.receivedWithoutCrc

@[simp]
theorem received_receive : (up.receive status).received = up.received + 1 := by
  cases status <;> rfl

@[simp]
theorem forwarded_receive : (up.receive status).forwarded = up.forwarded := by
  cases status <;> rfl

@[simp]
theorem datagramsSent_receive : (up.receive status).datagramsSent = up.datagramsSent := by
  cases status <;> rfl

@[simp]
theorem acknowledged_receive : (up.receive status).acknowledged = up.acknowledged := by
  cases status <;> rfl

@[simp]
theorem checked_receive : (up.receive status).checked = up.checked + 1 := by
  cases status <;> simp only [checked, receive] <;> omega

/-- Counters that a report can be built from without contradicting itself. -/
structure Consistent : Prop where
  checksums : up.receivedOk ≤ up.received
  packets : up.forwarded ≤ up.received
  datagrams : up.acknowledged ≤ up.datagramsSent

end UplinkCounters

def UplinkEvent.publishes : UplinkEvent → Bool
  | publish .. => true
  | _ => false

/-- What was counted, by what is read off the counters, and what is in hand and awaited besides. -/
structure UplinkBooks where
  count : (UplinkCounters → Nat) → Nat
  inHand : Nat
  awaited : Nat

/-- Books that agree with earlier ones, given how often each thing was done in between. -/
structure UplinkBooks.Balanced (before after : UplinkBooks) (done : UplinkDeed → Nat) : Prop where
  checksums : after.count (·.received) + before.count (·.checked) =
    before.count (·.received) + after.count (·.checked)
  packets : after.count (·.received) + before.count (·.forwarded) + before.inHand =
    before.count (·.received) + after.count (·.forwarded) + after.inHand + done .passedOver
  datagrams : after.count (·.datagramsSent) + before.count (·.acknowledged) + before.awaited =
    before.count (·.datagramsSent) + after.count (·.acknowledged) + after.awaited + done .lapsed
  credits : after.count (·.acknowledged) = before.count (·.acknowledged) + done .acknowledged

def UplinkStage.books (stage : UplinkStage) (up : UplinkCounters) : UplinkBooks :=
  ⟨fun read => read up, stage.inHand, stage.awaited⟩

/-- A turn that leaves balanced books behind. -/
def UplinkTurn.Balanced (up : UplinkCounters) (stage : UplinkStage) (turn : UplinkTurn) : Prop :=
  (stage.books up).Balanced (turn.stage.books turn.report.up) fun deed => turn.deeds.count deed

/-- A turn that counts nothing only has to account for what it held. -/
theorem UplinkTurn.balanced_of_same {up : UplinkCounters} {stage : UplinkStage} {turn : UplinkTurn}
    (same : turn.report.up = up)
    (inHand : stage.inHand = turn.stage.inHand + turn.deeds.count .passedOver)
    (awaited : stage.awaited = turn.stage.awaited + turn.deeds.count .lapsed)
    (silent : turn.deeds.count .acknowledged = 0) : turn.Balanced up stage := by
  constructor <;> simp only [UplinkStage.books, same] <;> omega

theorem UplinkService.up_takeReport (push : PushData) (report : TrafficReport) :
    (takeReport push report).2.up = report.up := by
  simp only [takeReport, TrafficReport.take]
  cases report.pending <;> rfl

namespace UplinkTask

open UplinkTurn

variable (service : UplinkService) (moment : UplinkMoment) (task : UplinkTask)
variable (report : TrafficReport) (pool : Forwarder)

theorem prepare_balanced (reference : Option TimeReference) (stage : BatchStage) :
    (prepare service moment reference report pool stage).Balanced report.up (.preparing stage) := by
  cases stage with
  | admitting rest push =>
      cases rest with
      | nil =>
          have same := UplinkService.up_takeReport push report
          rw [prepare]
          generalize UplinkService.takeReport push report = taken at same ⊢
          obtain ⟨push, after⟩ := taken
          dsimp only
          split
          · exact balanced_of_same same rfl rfl rfl
          · split <;> exact balanced_of_same same rfl rfl rfl
      | cons packet rest =>
          rw [prepare]
          split <;> constructor <;>
            simp [UplinkStage.books, UplinkStage.inHand, UplinkStage.awaited] <;> omega
  | judging packet rest push =>
      rw [prepare]
      split
      · exact balanced_of_same rfl rfl rfl rfl
      · split
        · exact balanced_of_same rfl rfl rfl rfl
        · split <;> exact balanced_of_same rfl rfl rfl rfl
  | filtering rest push => constructor <;> rfl
  | listing size rest push =>
      constructor <;> simp [prepare, UplinkStage.books, UplinkStage.inHand, UplinkStage.awaited,
        UplinkCounters.forward, UplinkCounters.checked]
      omega

theorem turn_balanced :
    (turn service moment task report pool).Balanced report.up task.stage := by
  rw [turn]
  cases task.stage with
  | preparing stage => exact prepare_balanced service moment report pool task.reference stage
  | ready datagram => dsimp only; split <;> exact balanced_of_same rfl rfl rfl rfl
  | draining datagram socket =>
      dsimp only
      split
      · exact balanced_of_same rfl rfl rfl rfl
      · split <;> exact balanced_of_same rfl rfl rfl rfl
  | recording length socket sentAt =>
      constructor <;> simp [UplinkStage.books, UplinkStage.inHand, UplinkStage.awaited,
        UplinkCounters.send, UplinkCounters.checked]
      omega
  | awaiting waiting => dsimp only; split <;> exact balanced_of_same rfl rfl rfl rfl
  | crediting roundTrip socket =>
      constructor <;> simp [UplinkStage.books, UplinkStage.inHand, UplinkStage.awaited,
        UplinkCounters.acknowledge, UplinkCounters.checked]
      omega
  | sending _ _ | returning _ | ended => exact balanced_of_same rfl rfl rfl rfl

theorem failure_balanced : (failure task report pool).Balanced report.up task.stage := by
  refine balanced_of_same rfl ?_ ?_ ?_ <;>
    simp [failure, UplinkStage.inHand, UplinkStage.awaited, List.count_replicate]

end UplinkTask

namespace UplinkRecord

def tells (deed : UplinkDeed) : UplinkRecord → Bool
  | arrived .. => false
  | did _ other => other == deed

/-- How often tasks did a certain thing. -/
def count (deed : UplinkDeed) (records : List UplinkRecord) : Nat := records.countP (tells deed)

theorem count_map_did (deed : UplinkDeed) (index : Nat) (deeds : List UplinkDeed) :
    count deed (deeds.map (did index)) = deeds.count deed := by
  rw [count, List.countP_map]
  rfl

theorem count_append (deed : UplinkDeed) (first second : List UplinkRecord) :
    count deed (first ++ second) = count deed first + count deed second := List.countP_append ..

end UplinkRecord

namespace Uplinks

open UplinkService (openService plainGateway sizedPacket)

variable (service : UplinkService) (uplinks : Uplinks)

def inHand (uplinks : Uplinks) : Nat := (uplinks.tasks.map (·.stage.inHand)).sum

def awaited (uplinks : Uplinks) : Nat := (uplinks.tasks.map (·.stage.awaited)).sum

def books : UplinkBooks := ⟨fun read => read uplinks.report.up, uplinks.inHand, uplinks.awaited⟩

/-- The counters that a report is built from, if the event publishes one. -/
def built (uplinks : Uplinks) : UplinkEvent → List UplinkCounters
  | .publish .. => [uplinks.report.up]
  | _ => []

/-- The counters that the reports of a run are built from. -/
def published (events : List UplinkEvent) : List UplinkCounters :=
  gather (step service) built uplinks events

/-- The books at the end of a run, all reports published in it included. -/
def closing (events : List UplinkEvent) : UplinkBooks where
  count := fun read =>
    ((uplinks.published service events).map read).sum + read (uplinks.run service events).report.up
  inHand := (uplinks.run service events).inHand
  awaited := (uplinks.run service events).awaited

theorem built_of_silent {event : UplinkEvent} (silent : event.publishes = false) :
    uplinks.built event = [] := by
  cases event with
  | publish now position => cases silent
  | _ => rfl

theorem perform_balanced {turn : UplinkTask → TrafficReport → Forwarder → UplinkTurn}
    (balanced : ∀ task, (turn task uplinks.report uplinks.pool).Balanced uplinks.report.up
      task.stage) (index : Nat) :
    let after := uplinks.perform index turn
    uplinks.books.Balanced after.1.books fun deed => UplinkRecord.count deed after.2 := by
  intro after
  cases found : uplinks.tasks[index]? with
  | none =>
      have same : after = (uplinks, []) := uplinks.perform_of_none found turn
      rw [same]
      constructor <;> rfl
  | some task =>
      obtain ⟨report, pool, tasks⟩ := uplinks
      obtain ⟨front, back, split, rfl⟩ := exists_split _ found
      cases split
      obtain ⟨checksums, packets, datagrams, credits⟩ := balanced task
      simp only [UplinkStage.books] at checksums packets datagrams credits
      simp only [after, perform_at, UplinkRecord.count_map_did]
      constructor <;> simp only [books, Uplinks.inHand, Uplinks.awaited, List.map_append,
        List.map_cons, List.sum_append, List.sum_cons] <;> omega

/-- The books balance at each event that publishes nothing. -/
theorem happen_balanced {event : UplinkEvent} (silent : event.publishes = false) :
    let after := uplinks.happen service event
    uplinks.books.Balanced after.1.books fun deed => UplinkRecord.count deed after.2 := by
  cases event with
  | start gateway token batch =>
      constructor <;> simp [happen, books, inHand, awaited, UplinkTask.start, UplinkStage.inHand,
        UplinkStage.awaited, UplinkRecord.count]
  | advance index moment =>
      exact uplinks.perform_balanced (fun task => task.turn_balanced service moment _ _) index
  | fail index => exact uplinks.perform_balanced (fun task => task.failure_balanced _ _) index
  | deliver socket datagram =>
      have let_go (deed : UplinkDeed) :
          UplinkRecord.count deed (uplinks.deliver socket datagram).2 = 0 := by
        rw [deliver]
        split <;> rfl
      have inHand (stage : UplinkStage) :
          (stage.onSocket (Forwarder.arrive socket datagram)).inHand = stage.inHand := by
        cases stage <;> rfl
      have awaited (stage : UplinkStage) :
          (stage.onSocket (Forwarder.arrive socket datagram)).awaited = stage.awaited := by
        cases stage <;> rfl
      constructor <;> simp [happen, let_go] <;>
        simp [deliver, books, Uplinks.inHand, Uplinks.awaited, Function.comp_def, inHand, awaited]
  | publish now position => cases silent

/-- The books of a run balance, all reports published in it included. -/
theorem closing_balanced (events : List UplinkEvent) :
    uplinks.books.Balanced (uplinks.closing service events) fun deed =>
      UplinkRecord.count deed (uplinks.history service events) := by
  induction events generalizing uplinks with
  | nil =>
      constructor <;> simp [closing, books, published, history, gather, run, UplinkRecord.count]
  | cons event rest induction =>
      obtain ⟨checksums, packets, datagrams, credits⟩ := induction (uplinks.step service event)
      simp only [closing, published, history, run] at checksums packets datagrams credits
      simp only [closing, published, history, run, gather, List.foldl_cons, List.map_append,
        List.sum_append, UplinkRecord.count_append]
      cases silent : event.publishes with
      | false =>
          -- The event is one more step of the same report.
          obtain ⟨checksums', packets', datagrams', credits'⟩ :=
            uplinks.happen_balanced service silent
          rw [uplinks.built_of_silent silent]
          constructor <;> simp only [step, List.map_nil, List.sum_nil] at * <;> omega
      | true =>
          -- The counters go over to the reports that were built, and start from nothing.
          cases event with
          | publish now position =>
              have restarted : (uplinks.step service (.publish now position)).books =
                  ⟨fun read => read {}, uplinks.inHand, uplinks.awaited⟩ := rfl
              have nothing (deed : UplinkDeed) :
                  UplinkRecord.count deed (uplinks.happen service (.publish now position)).2 = 0 :=
                rfl
              simp only [restarted, UplinkCounters.checked] at checksums packets datagrams credits
              constructor <;>
                simp only [books, built, nothing, List.map_cons, List.map_nil, List.sum_cons,
                  List.sum_nil, UplinkCounters.checked] <;> omega
          | _ => cases silent

theorem mem_published (events : List UplinkEvent) (now : Instant)
    (position : Option Coordinates) : (uplinks.run service events).report.up ∈
      uplinks.published service (events ++ [.publish now position]) := by
  rw [published, gather_concat]
  exact List.mem_append_right _ List.mem_cons_self

/-- A run without a publication closes with the counters at its end. -/
theorem count_closing_of_silent {events : List UplinkEvent}
    (silent : ∀ event ∈ events, event.publishes = false)
    (read : UplinkCounters → Nat) :
    (uplinks.closing service events).count read = read (uplinks.run service events).report.up := by
  have nothing : uplinks.published service events = [] := by
    rw [published, List.eq_nil_iff_forall_not_mem]
    intro up member
    obtain ⟨before, event, after, rfl, here⟩ := mem_gather.mp member
    rw [built_of_silent _ (silent event (List.mem_append_right before List.mem_cons_self))] at here
    cases here
  simp only [closing, nothing, List.map_nil, List.sum_nil, Nat.zero_add]

/-- A valid checksum is the outcome of a checksum, in whatever a run counted. -/
theorem receivedOk_le_checked (events : List UplinkEvent) :
    let closing := uplinks.closing service events
    closing.count (·.receivedOk) ≤ closing.count (·.checked) := by
  have each (up : UplinkCounters) : up.receivedOk ≤ up.checked := by
    rw [UplinkCounters.checked]
    omega
  exact Nat.add_le_add (List.sum_le_sum fun up _ => each up) (each _)

/-- A report that is published tells a consistent story exactly if it carried over no more from
the one before than it hands on or saw given up: no more packets in hand, and no more datagrams
awaited. In particular it does so if nothing was in hand or awaited when the one before was
published. The packets with a valid checksum are always among those received. And over any run,
the reports published in it and the counters at its end are consistent together. -/
theorem report_consistent_iff (limit : Nat) (earlier period : List UplinkEvent)
    (begun : earlier = [] ∨ ∃ before now position, earlier = before ++ [.publish now position])
    (silent : ∀ event ∈ period, event.publishes = false) :
    let start := (opening limit).run service earlier
    let final := start.run service period
    let history := start.history service period
    final.report.up.receivedOk ≤ final.report.up.received ∧
    (final.report.up.Consistent ↔
      start.inHand ≤ final.inHand + UplinkRecord.count .passedOver history ∧
      start.awaited ≤ final.awaited + UplinkRecord.count .lapsed history) ∧
    (start.inHand = 0 → start.awaited = 0 → final.report.up.Consistent) ∧
    let total := ((opening limit).closing service (earlier ++ period)).count
    total (·.receivedOk) ≤ total (·.received) ∧ total (·.forwarded) ≤ total (·.received) ∧
      total (·.acknowledged) ≤ total (·.datagramsSent) := by
  intro start final history
  have fresh : start.report.up = {} := by
    rcases begun with rfl | ⟨before, now, position, rfl⟩
    · rfl
    · simp only [start, run, List.foldl_append]
      rfl
  have own (read : UplinkCounters → Nat) :
      (start.closing service period).count read = read final.report.up :=
    start.count_closing_of_silent service silent read
  obtain ⟨checksums, packets, datagrams, -⟩ := start.closing_balanced service period
  have valid := start.receivedOk_le_checked service period
  simp only [own, books, fresh, UplinkCounters.checked] at checksums packets datagrams valid
  change _ = _ + _ + final.inHand + UplinkRecord.count .passedOver history at packets
  change _ = _ + _ + final.awaited + UplinkRecord.count .lapsed history at datagrams
  have ok : final.report.up.receivedOk ≤ final.report.up.received := by omega
  -- The books of the period start from empty counters, but not from empty hands.
  have exactly : final.report.up.Consistent ↔
      start.inHand ≤ final.inHand + UplinkRecord.count .passedOver history ∧
      start.awaited ≤ final.awaited + UplinkRecord.count .lapsed history := by
    constructor
    · rintro ⟨-, forwarded, acknowledged⟩
      omega
    · rintro ⟨fewPackets, fewDatagrams⟩
      exact ⟨ok, by omega, by omega⟩
  refine ⟨ok, exactly, fun noPacket noDatagram => exactly.mpr (by omega), ?_⟩
  intro total
  obtain ⟨allChecked, allPackets, allDatagrams, -⟩ :=
    (opening limit).closing_balanced service (earlier ++ period)
  have allValid := (opening limit).receivedOk_le_checked service (earlier ++ period)
  have opened : (opening limit).books = ⟨fun read => read {}, 0, 0⟩ := rfl
  simp only [opened, UplinkCounters.checked] at allChecked allPackets allDatagrams allValid
  simp only [total]
  omega

/-- Turns of a task at the start of time, with an empty store. -/
def turns (index count : Nat) : List UplinkEvent :=
  List.replicate count (.advance index ⟨{}, .epoch, 0, false⟩)

/-- A report goes out on its own, and the next one is published before it is acknowledged. -/
def publishedMeanwhile : List UplinkEvent :=
  .publish .epoch none :: .start plainGateway ⟨1⟩ [] :: turns 0 5 ++ [.publish .epoch none]

/-- The task of the first report fails, and the second report is acknowledged. -/
def firstGivenUp : List UplinkEvent :=
  .fail 0 :: .start plainGateway ⟨2⟩ [] :: turns 1 5 ++ .deliver 1 [2, 0, 2, 1] :: turns 1 2

theorem consistent_after_failure :
    let start := (opening 8).run openService publishedMeanwhile
    start.awaited = 1 ∧ (start.run openService firstGivenUp).report.up.acknowledged = 1 ∧
      (start.run openService firstGivenUp).report.up.Consistent := by
  have exactly := (report_consistent_iff openService 8 publishedMeanwhile firstGivenUp
    (.inr ⟨_, .epoch, none, rfl⟩) (by decide)).2.1
  exact ⟨by decide +kernel, by decide +kernel, exactly.mpr (by decide +kernel)⟩

/-- The first report is acknowledged after all, and the second one as well. -/
def bothAcknowledged : List UplinkEvent :=
  .deliver 0 [2, 0, 1, 1] :: turns 0 3 ++ .start plainGateway ⟨2⟩ [] :: turns 1 5 ++
    .deliver 0 [2, 0, 2, 1] :: turns 1 2

/-- A report is published between the reception of a packet and its being counted as forwarded. -/
def publishedInBetween : List UplinkEvent :=
  .start plainGateway ⟨1⟩ [sizedPacket 4] :: turns 0 2 ++ .publish .epoch none :: turns 0 1

def emptyPush : PushData :=
  { capacity := Datagram.sendCapacity, token := ⟨1⟩, gateway := plainGateway.id }

theorem ofPacket?_sizedPacket : Rxpk.ofPacket? (sizedPacket 4) none .epoch =
    some (Rxpk.describe (sizedPacket 4) .epoch none) := rfl

theorem pushPacket_emptyPush : ∃ larger,
    emptyPush.pushPacket (Rxpk.describe (sizedPacket 4) .epoch none) = .ok larger := by
  have short := Rxpk.length_print_ofPacket?_le (by decide) (by decide) ofPacket?_sizedPacket
  have room := short.trans (by decide : _ ≤ 345)
  have fits : PushData.fits emptyPush.capacity
      [(Rxpk.describe (sizedPacket 4) .epoch none).toJson.print] none = true := by
    refine decide_eq_true ((PushData.projectedLength_le _ _).trans ?_)
    simp only [List.map_cons, List.map_nil, List.length_singleton, List.sum_singleton,
      Option.map_none, Option.getD_none, emptyPush, Datagram.sendCapacity, Datagram.captureLimit]
    omega
  exact ⟨_, if_pos fits⟩

theorem up_publishedInBetween :
    let up := ((opening 8).run openService publishedInBetween).report.up
    up.received = 0 ∧ up.forwarded = 1 := by
  obtain ⟨larger, fits⟩ := pushPacket_emptyPush
  let advance : UplinkEvent := .advance 0 ⟨{}, .epoch, 0, false⟩
  let counted : Uplinks :=
    ⟨{ up := { received := 1, receivedOk := 1 } }, { limit := 8 },
      [⟨⟨1⟩, none, .preparing (.judging (sizedPacket 4) [] emptyPush)⟩]⟩
  -- The levels in the text of the packet do not evaluate, so this step needs that the text fits.
  have listed : counted.step openService advance =
      { counted with tasks := [⟨⟨1⟩, none, .preparing (.listing 4 [] larger)⟩] } := by
    have admitted :
        admission openService.config openService.filter {} (sizedPacket 4) ≠ .filtered := by decide
    simp only [step, happen, advance, perform, counted, List.getElem?_cons_zero, UplinkTask.turn,
      UplinkTask.prepare, if_neg admitted, ofPacket?_sizedPacket, fits]
    rfl
  have run : (opening 8).run openService publishedInBetween =
      ((counted.step openService advance).step openService (.publish .epoch none)).step
        openService advance := rfl
  rw [run, listed]
  exact ⟨rfl, rfl⟩

/-- A report about one datagram of which two were acknowledged, and a report about a packet that
was forwarded but not received. -/
theorem reports_inconsistent :
    (∃ up ∈ (opening 8).published openService
        (publishedMeanwhile ++ bothAcknowledged ++ [.publish .epoch none]),
      up.datagramsSent = 1 ∧ up.acknowledged = 2 ∧ (up.acknowledgedShare == 200.0) = true ∧
        ¬ up.Consistent) ∧
    ∃ up ∈ (opening 8).published openService (publishedInBetween ++ [.publish .epoch none]),
      up.received = 0 ∧ up.forwarded = 1 ∧ ¬ up.Consistent := by
  constructor
  · have sent : ((opening 8).run openService
        (publishedMeanwhile ++ bothAcknowledged)).report.up.datagramsSent = 1 := by
      decide +kernel
    have acknowledged : ((opening 8).run openService
        (publishedMeanwhile ++ bothAcknowledged)).report.up.acknowledged = 2 := by
      decide +kernel
    refine ⟨_, mem_published .., sent, acknowledged, by decide +kernel, fun consistent => ?_⟩
    have few := consistent.datagrams
    omega
  · obtain ⟨received, forwarded⟩ := up_publishedInBetween
    refine ⟨_, mem_published .., received, forwarded, fun consistent => ?_⟩
    have few := consistent.packets
    omega

end Uplinks

end LorawanGateway
