import LorawanGateway.Proofs.Run
import LorawanGateway.Radio.Concentrator
import Mathlib.Algebra.GroupWithZero.Nat
import Mathlib.Data.List.DropRight
import Mathlib.Data.List.Induction

/-!
Runs of a concentrator whose counter moves only when it is told to. Whatever is captured is fetched
once and in its order, the log and the statistics tell what was fetched and sent, and the counter
tells when it was set and moved.
-/

namespace LorawanGateway

/-- A call of a concentrator. -/
inductive RadioCall where
  | inject (packet : ReceivedPacket)
  | receive (most : Nat)
  | send (packet : TransmitPacket)
  | setTime (counter : UInt32)
  | advance (microseconds : UInt32)

/-- Packets that were fetched together, and how many were asked for. -/
structure FetchedBatch where
  most : Nat
  packets : List ReceivedPacket

namespace RadioCall

def injected? : RadioCall → Option ReceivedPacket
  | inject packet => some packet
  | _ => none

def sent? : RadioCall → Option TransmitPacket
  | send packet => some packet
  | _ => none

def setting? : RadioCall → Option UInt32
  | setTime counter => some counter
  | _ => none

def advance? : RadioCall → Option UInt32
  | advance microseconds => some microseconds
  | _ => none

/-- Whether a call is not refused. -/
def isHeeded : RadioCall → Bool
  | send packet => packet.payload.length ≤ maxPayloadLength
  | _ => true

/-- The counter that was set last, if any call sets it. -/
def lastSetting (calls : List RadioCall) : UInt32 := (calls.filterMap setting?).getLastD 0

/-- The calls behind the last one that sets the counter. -/
def sinceSetting (calls : List RadioCall) : List RadioCall :=
  calls.rtakeWhile fun call => call.setting?.isNone

/-- The counter that was set last with all later advances. -/
def clock (calls : List RadioCall) : Nat :=
  (lastSetting calls).toNat + (((sinceSetting calls).filterMap advance?).map UInt32.toNat).sum

theorem clock_setTime (calls : List RadioCall) (counter : UInt32) :
    clock (calls ++ [setTime counter]) = counter.toNat := by
  simp [clock, lastSetting, sinceSetting, setting?]

theorem clock_advance (calls : List RadioCall) (microseconds : UInt32) :
    clock (calls ++ [advance microseconds]) = clock calls + microseconds.toNat := by
  simp [clock, lastSetting, sinceSetting, setting?, advance?, Nat.add_assoc]

theorem clock_concat (calls : List RadioCall) {call : RadioCall} (setting : call.setting? = none)
    (advance : call.advance? = none) : clock (calls ++ [call]) = clock calls := by
  simp [clock, lastSetting, sinceSetting, setting, advance]

end RadioCall

namespace Concentrator

def apply (radio : Concentrator) : RadioCall → Concentrator
  | .inject packet => radio.inject packet
  | .receive most => (radio.receive most).2
  | .send packet =>
    match radio.send packet with
    | .ok after => after
    | .error _ => radio
  | .setTime counter => radio.setTime counter
  | .advance microseconds => radio.advance microseconds

def run (radio : Concentrator) (calls : List RadioCall) : Concentrator := calls.foldl apply radio

def fetched (radio : Concentrator) : RadioCall → List FetchedBatch
  | .receive most => [⟨most, (radio.receive most).1⟩]
  | _ => []

section Steps

variable {radio : Concentrator} {call : RadioCall}

theorem send_eq_error_iff {packet : TransmitPacket} :
    radio.send packet = .error (.invalidParameter .payloadSize) ↔
      maxPayloadLength < packet.payload.length := by
  rw [send]
  split
  · rename_i long
    exact iff_of_true rfl long
  · rename_i short
    exact iff_of_false nofun short

theorem apply_send (radio : Concentrator) (packet : TransmitPacket) :
    radio.apply (.send packet) =
      if packet.payload.length ≤ maxPayloadLength then { radio with
        transmitted := radio.transmitted ++ [packet]
        sentCount := radio.sentCount + 1
        sentOctets := radio.sentOctets + packet.payload.length }
      else radio := by
  by_cases short : packet.payload.length ≤ maxPayloadLength
  · rw [apply, send, if_neg (Nat.not_lt.mpr short), if_pos short]
  · rw [apply, send, if_pos (Nat.not_le.mp short), if_neg short]

theorem apply_of_refused (radio : Concentrator) (call : RadioCall)
    (refused : call.isHeeded = false) : radio.apply call = radio := by
  cases call with
  | send packet => rw [apply_send, if_neg (of_decide_eq_false refused)]
  | inject | receive | setTime | advance => cases refused

theorem fetched_of_refused (radio : Concentrator) (call : RadioCall)
    (refused : call.isHeeded = false) : radio.fetched call = [] := by
  cases call with
  | receive most => cases refused
  | inject | send | setTime | advance => rfl

theorem waiting_apply (radio : Concentrator) (call : RadioCall) :
    (radio.fetched call).flatMap (·.packets) ++ (radio.apply call).waiting =
      radio.waiting ++ call.injected?.toList := by
  cases call with
  | inject packet => rfl
  | receive most => simp [fetched, apply, receive, RadioCall.injected?]
  | send packet =>
      rw [apply_send]
      split <;> exact (List.append_nil _).symm
  | setTime counter => exact (List.append_nil _).symm
  | advance microseconds => exact (List.append_nil _).symm

theorem length_le_of_mem_fetched {batch : FetchedBatch} (member : batch ∈ radio.fetched call) :
    batch.packets.length ≤ batch.most := by
  cases call with
  | receive most =>
      rw [List.mem_singleton.mp member]
      exact List.length_take_le ..
  | inject | send | setTime | advance => cases member

theorem receivedCount_apply (radio : Concentrator) (call : RadioCall) :
    (radio.apply call).receivedCount =
      radio.receivedCount + ((radio.fetched call).flatMap (·.packets)).length := by
  cases call with
  | receive most => simp [fetched, apply, receive]
  | send packet =>
      rw [apply_send]
      split <;> rfl
  | inject | setTime | advance => rfl

theorem transmitted_apply (radio : Concentrator) (call : RadioCall) :
    (radio.apply call).transmitted = radio.transmitted ++
      call.sent?.toList.filter fun packet => packet.payload.length ≤ maxPayloadLength := by
  cases call with
  | send packet =>
      rw [apply_send]
      split <;> simp [RadioCall.sent?, *]
  | inject | receive | setTime | advance => exact (List.append_nil _).symm

theorem sentCount_apply (counted : radio.sentCount = radio.transmitted.length)
    (call : RadioCall) : (radio.apply call).sentCount = (radio.apply call).transmitted.length := by
  cases call with
  | send packet =>
      rw [apply_send]
      split
      · simp [counted]
      · exact counted
  | inject | receive | setTime | advance => exact counted

theorem sentOctets_apply
    (counted : radio.sentOctets = (radio.transmitted.map (·.payload.length)).sum)
    (call : RadioCall) : (radio.apply call).sentOctets =
      ((radio.apply call).transmitted.map (·.payload.length)).sum := by
  cases call with
  | send packet =>
      rw [apply_send]
      split
      · simp [counted]
      · exact counted
  | inject | receive | setTime | advance => exact counted

end Steps

variable {radio : Concentrator} {calls : List RadioCall} {batches : List FetchedBatch}

/-- What the log and the statistics of a concentrator say when some calls were made of it. -/
structure Booked (calls : List RadioCall) (batches : List FetchedBatch) (radio : Concentrator) :
    Prop where
  delivered : batches.flatMap (·.packets) ++ radio.waiting = calls.filterMap RadioCall.injected?
  bounded : ∀ batch ∈ batches, batch.packets.length ≤ batch.most
  transmitted : radio.transmitted = (calls.filterMap RadioCall.sent?).filter
    fun packet => packet.payload.length ≤ maxPayloadLength
  receivedCount : radio.receivedCount = (batches.flatMap (·.packets)).length
  sentCount : radio.sentCount = radio.transmitted.length
  sentOctets : radio.sentOctets = (radio.transmitted.map (·.payload.length)).sum

theorem Booked.nil : Booked [] [] {} where
  delivered := rfl
  bounded := fun _ member => nomatch member
  transmitted := rfl
  receivedCount := rfl
  sentCount := rfl
  sentOctets := rfl

theorem Booked.apply (booked : Booked calls batches radio) (call : RadioCall) :
    Booked (calls ++ [call]) (batches ++ radio.fetched call) (radio.apply call) where
  delivered := by
    rw [List.flatMap_append, List.append_assoc, waiting_apply, ← List.append_assoc,
      booked.delivered, List.filterMap_append]
    cases call <;> rfl
  bounded batch member := by
    rcases List.mem_append.mp member with earlier | new
    · exact booked.bounded batch earlier
    · exact length_le_of_mem_fetched new
  transmitted := by
    rw [transmitted_apply, booked.transmitted, List.filterMap_append, List.filter_append]
    cases call <;> rfl
  receivedCount := by
    rw [receivedCount_apply, booked.receivedCount, List.flatMap_append, List.length_append]
  sentCount := sentCount_apply booked.sentCount call
  sentOctets := sentOctets_apply booked.sentOctets call

theorem booked_run (calls : List RadioCall) :
    Booked calls (gather apply fetched {} calls) (run {} calls) := by
  induction calls using List.reverseRecOn with
  | nil => exact .nil
  | append_singleton calls call induction =>
      rw [gather_concat, run, List.foldl_concat]
      exact induction.apply call

/-- What is fetched next are the captured packets behind those that were fetched. -/
theorem Booked.receive (booked : Booked calls batches radio) (most : Nat) :
    (radio.receive most).1 =
      ((calls.filterMap RadioCall.injected?).drop radio.receivedCount).take most := by
  rw [← booked.delivered, booked.receivedCount, List.drop_left]
  rfl

/-- A setting makes up for the time that has passed. -/
theorem counter_setTime (radio : Concentrator) (counter : UInt32) :
    (radio.setTime counter).counter = counter :=
  UInt32.sub_add_cancel counter radio.elapsed

theorem counter_advance (radio : Concentrator) (microseconds : UInt32) :
    (radio.advance microseconds).counter = radio.counter + microseconds := by
  change radio.offset + microseconds + radio.elapsed = radio.offset + radio.elapsed + microseconds
  rw [UInt32.add_assoc, UInt32.add_comm microseconds, UInt32.add_assoc]

/-- Calls that do not concern the counter leave it as it is. -/
theorem counter_apply {call : RadioCall} (setting : call.setting? = none)
    (advance : call.advance? = none) : (radio.apply call).counter = radio.counter := by
  cases call with
  | send packet =>
      rw [apply_send]
      split <;> rfl
  | setTime => cases setting
  | advance => cases advance
  | inject | receive => rfl

theorem counter_run (calls : List RadioCall) :
    (run {} calls).counter.toNat = RadioCall.clock calls % 2 ^ 32 := by
  induction calls using List.reverseRecOn with
  | nil => rfl
  | append_singleton calls call induction =>
      rw [run] at induction
      rw [run, List.foldl_concat]
      cases call with
      | setTime counter =>
          rw [RadioCall.clock_setTime, apply, counter_setTime, Nat.mod_eq_of_lt counter.toNat_lt]
      | advance microseconds =>
          rw [RadioCall.clock_advance, apply, counter_advance, UInt32.toNat_add, induction,
            Nat.mod_add_mod]
      | inject | receive | send =>
          rw [RadioCall.clock_concat _ rfl rfl, counter_apply rfl rfl, induction]

example : (run {} [.advance 7, .setTime 0xFFFFFFFF, .receive 8, .advance 2]).counter = 1 := by
  decide

/-- The books of a concentrator whose clock is set by hand: what is fetched and what still waits is
what was captured, the next batch is what follows those fetched before, the log has what was short
enough, and the statistics count both. The counter is the last setting with all later advances. A
packet that is too long is refused, and a run would be the same without it. -/
theorem run_keeps_books (calls : List RadioCall) :
    let radio := run {} calls
    let batches := gather apply fetched {} calls
    let heeded := calls.filter RadioCall.isHeeded
    Booked calls batches radio ∧
    (∀ most, (radio.receive most).1 =
      ((calls.filterMap RadioCall.injected?).drop radio.receivedCount).take most) ∧
    (∀ packet, radio.send packet = .error (.invalidParameter .payloadSize) ↔
      maxPayloadLength < packet.payload.length) ∧
    run {} heeded = radio ∧ gather apply fetched {} heeded = batches ∧
    radio.counter.toNat = RadioCall.clock calls % 2 ^ 32 := by
  intro radio batches heeded
  have booked : Booked calls batches radio := booked_run calls
  obtain ⟨same, yielded⟩ := run_filter apply_of_refused fetched_of_refused {} calls
  exact ⟨booked, booked.receive, fun packet => send_eq_error_iff, same, yielded,
    counter_run calls⟩

end Concentrator

end LorawanGateway
