import LorawanGateway.Proofs.Transmit.QueueShift
import LorawanGateway.Proofs.Transmit.SchedulerRun

/-!
Shifts of the counter over runs of a scheduler. The gate looks at differences of times as the
queues do, and what an envelope allows depends on no time at all. So a run whose clock readings and
requested send times are all shifted by a constant gives the same answers, with shifted times: no
run is treated in another way because the counter wraps in it.
-/

namespace LorawanGateway

namespace Reservation

def shift (reservation : Reservation) (offset : UInt32) : Reservation :=
  { reservation with sendTime := reservation.sendTime + offset }

theorem hasPassed_shift (reservation : Reservation) (now offset : UInt32) :
    (reservation.shift offset).hasPassed (now + offset) = reservation.hasPassed now := by
  simp only [hasPassed, shift, Counter.add_sub_add]

theorem ofPacket_shift (packet : TransmitPacket) (offset : UInt32) :
    ofPacket (packet.shift offset) = (ofPacket packet).shift offset :=
  rfl

end Reservation

namespace ListenGate

variable (gate : ListenGate) (packet : TransmitPacket) (now offset : UInt32)

def shift : ListenGate := ⟨gate.slots.map (Option.map (·.shift offset))⟩

@[simp] theorem shift_ofSize (count : Nat) : (ofSize count).shift offset = ofSize count := by
  simp [shift, ofSize]

theorem isFree_shift (slot : Option Reservation) :
    isFree (now + offset) (slot.map (·.shift offset)) = isFree now slot := by
  cases slot with
  | none => rfl
  | some reservation => exact reservation.hasPassed_shift now offset

theorem reserve_shift : (gate.shift offset).reserve (packet.shift offset) (now + offset) =
    (gate.reserve packet now).map fun (index, gate) => (index, gate.shift offset) := by
  simp only [reserve, shift, List.findIdx?_map, Function.comp_def, isFree_shift]
  cases gate.slots.findIdx? (isFree now) with
  | none => rfl
  | some index =>
      simp only [Except.map, List.map_set, Option.map_some, Reservation.ofPacket_shift]

end ListenGate

theorem TxEnvelope.fit_shift (envelope : TxEnvelope) (packet : TransmitPacket) (offset : UInt32) :
    envelope.fit (packet.shift offset) = (envelope.fit packet).map (·.shift offset) := by
  have frequency : (packet.shift offset).frequency = packet.frequency := rfl
  have power : (packet.shift offset).power = packet.power := rfl
  unfold fit
  rw [frequency, power]
  split
  · rfl
  · split
    · rfl
    · cases selectPower? envelope.powers packet.power <;> rfl

def TxChain.shift (chain : TxChain) (offset : UInt32) : TxChain :=
  { chain with queue := chain.queue.shift offset }

def TxAcceptance.shift (acceptance : TxAcceptance) (offset : UInt32) : TxAcceptance :=
  { acceptance with sendTime := acceptance.sendTime + offset }

def SchedulerCall.shift (offset : UInt32) : SchedulerCall → SchedulerCall
  | enqueue now packet packetClass => enqueue (now + offset) (packet.shift offset) packetClass
  | peek chain now => peek chain (now + offset)
  | pop chain now => pop chain (now + offset)

/-- Refusals and power adjustments stay as they are; send times are shifted. -/
def SchedulerAnswer.shift (offset : UInt32) : SchedulerAnswer → SchedulerAnswer
  | outcome (.ok acceptance) => outcome (.ok (acceptance.shift offset))
  | outcome (.error fault) => outcome (.error fault)
  | entry found => entry (found.map (·.shift offset))

namespace TxScheduler

variable (scheduler : TxScheduler) (queue : TxQueue) (chain : Nat) (now offset : UInt32)
variable (packet : TransmitPacket) (packetClass : PacketClass)

def shift : TxScheduler :=
  { scheduler with
    chains := scheduler.chains.map (·.shift offset)
    gate := scheduler.gate.map (·.shift offset) }

theorem queue?_shift :
    (scheduler.shift offset).queue? chain = (scheduler.queue? chain).map (·.shift offset) := by
  simp only [queue?, shift, List.getElem?_map, Option.map_map]
  rfl

theorem setQueue_shift : (scheduler.shift offset).setQueue chain (queue.shift offset) =
    (scheduler.setQueue chain queue).shift offset := by
  have chains : (scheduler.chains.map (·.shift offset)).modify chain
      (fun c => { c with queue := queue.shift offset }) =
      (scheduler.chains.modify chain fun c => { c with queue }).map (·.shift offset) := by
    refine List.ext_getElem? fun index => ?_
    simp only [List.getElem?_modify, List.getElem?_map]
    cases scheduler.chains[index]? with
    | none => rfl
    | some held =>
        by_cases same : chain = index
        · simp [same, TxChain.shift]
        · simp [same]
  simp only [setQueue, shift, chains]

theorem reserve_shift (gate : Option ListenGate) :
    reserve (gate.map (·.shift offset)) packetClass (packet.shift offset) (now + offset) =
      (reserve gate packetClass packet now).map (Option.map (·.shift offset)) := by
  cases gate with
  | none => rfl
  | some gate =>
      cases packetClass with
      | beacon => rfl
      | classA | classB | classC =>
          simp only [reserve, Option.map_some, ListenGate.reserve_shift]
          cases gate.reserve packet now <;> rfl

theorem place_shift :
    (scheduler.shift offset).place (now + offset) (packet.shift offset) packetClass =
      ((scheduler.place now packet packetClass).1.map (·.shift offset),
        (scheduler.place now packet packetClass).2.shift offset) := by
  have chains : (scheduler.shift offset).chains[(packet.shift offset).rfChain.toNat]? =
      scheduler.chains[packet.rfChain.toNat]?.map (·.shift offset) := List.getElem?_map ..
  unfold place
  dsimp only
  rw [chains]
  cases scheduler.chains[packet.rfChain.toNat]? with
  | none => rfl
  | some held =>
      have fits : (held.shift offset).envelope.fit (packet.shift offset) =
          (held.envelope.fit packet).map (·.shift offset) := TxEnvelope.fit_shift ..
      simp only [Option.map_some, fits]
      cases held.envelope.fit packet with
      | error fault => rfl
      | ok fitted =>
          have asked : (held.shift offset).queue.accept (now + offset) (fitted.shift offset)
              packetClass = _ := TxQueue.accept_shift ..
          simp only [Except.map, asked]
          cases held.queue.accept now fitted packetClass with
          | mk verdict queue =>
              cases verdict with
              | error fault => exact congrArg (Prod.mk _) (setQueue_shift ..)
              | ok entry =>
                  have reserved : reserve (scheduler.shift offset).gate packetClass
                      (entry.shift offset).packet (now + offset) = _ := reserve_shift ..
                  simp only [reserved]
                  cases reserve scheduler.gate packetClass entry.packet now with
                  | error fault => exact congrArg (Prod.mk _) (setQueue_shift ..)
                  | ok gate =>
                      have queued := scheduler.setQueue_shift (queue.insert now entry)
                        packet.rfChain.toNat offset
                      rw [← TxQueue.insert_shift] at queued
                      exact Prod.ext rfl (congrArg
                        (fun after => { after with gate := gate.map (ListenGate.shift · offset) })
                        queued)

theorem enqueue_shift :
    (scheduler.shift offset).enqueue (now + offset) (packet.shift offset) packetClass =
      ((scheduler.enqueue now packet packetClass).1.map (·.shift offset),
        (scheduler.enqueue now packet packetClass).2.shift offset) := by
  have counted : ∀ statistics : TxStatistics, ∀ outcome : Except TxError TxAcceptance,
      TxStatistics.count statistics (outcome.map (·.shift offset)) =
        TxStatistics.count statistics outcome := by
    intro statistics outcome
    cases outcome <;> rfl
  unfold enqueue
  rw [place_shift]
  dsimp only
  rw [counted]
  rfl

theorem peek_shift : (scheduler.shift offset).peek chain (now + offset) =
    ((scheduler.peek chain now).1.map (·.shift offset),
      (scheduler.peek chain now).2.shift offset) := by
  unfold peek
  rw [queue?_shift]
  cases scheduler.queue? chain with
  | none => rfl
  | some queue =>
      simp only [Option.map_some, TxQueue.peek_shift, setQueue_shift]

theorem pop_shift : (scheduler.shift offset).pop chain (now + offset) =
    ((scheduler.pop chain now).1.map (·.shift offset),
      (scheduler.pop chain now).2.shift offset) := by
  unfold pop
  rw [queue?_shift]
  cases scheduler.queue? chain with
  | none => rfl
  | some queue =>
      simp only [Option.map_some, TxQueue.pop_shift, setQueue_shift]

theorem answer_shift (call : SchedulerCall) :
    (scheduler.shift offset).answer (call.shift offset) =
      ((scheduler.answer call).1.shift offset, (scheduler.answer call).2.shift offset) := by
  cases call with
  | enqueue now packet packetClass =>
      simp only [answer, SchedulerCall.shift, enqueue_shift]
      cases (scheduler.enqueue now packet packetClass).1 <;> rfl
  | peek chain now =>
      simp only [answer, SchedulerCall.shift, peek_shift]
      rfl
  | pop chain now =>
      simp only [answer, SchedulerCall.shift, pop_shift]
      rfl

theorem answers_shift (calls : List SchedulerCall) :
    (scheduler.shift offset).answers (calls.map (·.shift offset)) =
      ((scheduler.answers calls).1.map (·.shift offset),
        (scheduler.answers calls).2.shift offset) := by
  induction calls generalizing scheduler with
  | nil => rfl
  | cons call rest induction =>
      simp only [List.map_cons, answers, answer_shift, induction]

theorem ofEnvelopes_shift (envelopes : List TxEnvelope) (gate : Option ListenGate) :
    (ofEnvelopes envelopes gate).shift offset =
      ofEnvelopes envelopes (gate.map (·.shift offset)) := by
  simp only [shift, ofEnvelopes, List.map_map]
  rfl

/-- A run from the start with all clock readings and requested send times shifted gives the same
answers with their times shifted, and the same statistics; a gate that has reserved nothing yet is
the same in both runs. -/
theorem run_unaffected_by_wrap (envelopes : List TxEnvelope) (gate : Option ListenGate)
    (calls : List SchedulerCall) (offset : UInt32) :
    let run := (ofEnvelopes envelopes gate).answers calls
    let shifted := (ofEnvelopes envelopes (gate.map (·.shift offset))).answers
      (calls.map (·.shift offset))
    shifted.1 = run.1.map (·.shift offset) ∧
      shifted.2 = run.2.shift offset ∧
      shifted.2.statistics = run.2.statistics ∧
      ∀ slots, (ListenGate.ofSize slots).shift offset = ListenGate.ofSize slots := by
  intro run shifted
  have same : shifted = (run.1.map (·.shift offset), run.2.shift offset) := by
    rw [← answers_shift, ofEnvelopes_shift]
  rw [same]
  exact ⟨rfl, rfl, rfl, ListenGate.shift_ofSize offset⟩

end TxScheduler

end LorawanGateway
