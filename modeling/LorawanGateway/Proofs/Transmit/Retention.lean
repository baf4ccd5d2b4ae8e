import LorawanGateway.Proofs.Transmit.QueueRun
import Mathlib.Data.List.Permutation

/-!
How long an accepted entry stays. Purging drops what lies `Timing.maxAdvance` or more ahead, and
admission asks for less than that of no class: the first two classes of answers may lie exactly so
far ahead, beacons and the free answers any way round the counter. An entry stays up to its send
time exactly if it was accepted nearer than that.
-/

namespace LorawanGateway

/-- Whether a call reads the counter on the way from one value to another. -/
def QueueCall.Within (call : QueueCall) (now sendTime : UInt32) : Prop :=
  (call.now - now).toNat ≤ (sendTime - now).toNat

namespace TxQueue

variable {queue after : TxQueue} {entry : QueueEntry} {call : QueueCall} {calls : List QueueCall}
variable {now sendTime : UInt32} {packet : TransmitPacket} {packetClass : PacketClass}

/-- What is current at a call stays in the queue, unless the call takes it. -/
theorem apply_keeps (member : entry ∈ queue.entries)
    (near : (entry.ahead call.now).toNat < Timing.maxAdvance.toNat) :
    entry ∈ (queue.apply call).entries ∨ queue.taken? call = some entry := by
  have current : entry ∈ queue.current call.now := mem_current.mpr ⟨member, near⟩
  cases call with
  | enqueue now packet packetClass =>
      cases asked : queue.enqueue now packet packetClass with
      | mk outcome after =>
          simp only [apply, asked]
          cases outcome with
          | error fault => exact .inl ((enqueue_error asked).mem_iff.mpr member)
          | ok sendTime =>
              obtain ⟨newcomer, -, -, joined⟩ := enqueue_ok asked
              exact .inl (joined.mem_iff.mpr (List.mem_cons_of_mem _ member))
  | accept now packet packetClass =>
      exact .inl ((queue.accept_perm now packet packetClass).mem_iff.mpr member)
  | peek now => exact .inl ((queue.peek_perm now).mem_iff.mpr current)
  | pop now =>
      cases taken : queue.pop now with
      | mk outcome after =>
          simp only [apply, taken?, taken]
          cases outcome with
          | none => exact .inl ((pop_none taken).1.mem_iff.mpr current)
          | some first =>
              rcases List.mem_cons.mp ((pop_some taken).1.mem_iff.mp current) with rfl | left
              · exact .inr rfl
              · exact .inl left

/-- Up to its send time an entry comes nearer, so that what is current once stays so. -/
theorem run_keeps (member : entry ∈ queue.entries)
    (near : (entry.ahead now).toNat < Timing.maxAdvance.toNat)
    (pending : ∀ call ∈ calls, call.Within now entry.sendTime) :
    entry ∈ (queue.run calls).entries ∨ entry ∈ queue.popped calls := by
  induction calls generalizing queue with
  | nil => exact .inl member
  | cons call rest induction =>
      -- The way left to the send time has only become shorter.
      have way := Counter.toNat_sub_of_le (pending call List.mem_cons_self)
      have nearer : (entry.ahead call.now).toNat < Timing.maxAdvance.toNat := by
        unfold QueueEntry.ahead at near ⊢
        omega
      rcases apply_keeps member nearer with kept | taken
      · rcases induction kept (fun next later => pending next (List.mem_cons_of_mem _ later)) with
          held | popped
        · exact .inl held
        · exact .inr (List.mem_append_right _ popped)
      · exact .inr (List.mem_append_left _ (by simp [taken]))

/-- An accepted entry is kept or taken by all calls up to its send time, exactly if it lies less
than the greatest advance ahead. Answers of class A and B never lie farther than that, but they may
lie just as far. -/
theorem accepted_kept_iff
    (accepted : queue.enqueue now packet packetClass = (.ok sendTime, after)) :
    Timing.shortNotice < (sendTime - now).toNat ∧
    (packetClass = .classA ∨ packetClass = .classB →
      (sendTime - now).toNat ≤ Timing.maxAdvance.toNat) ∧
    ∃ entry ∈ after.entries, entry.sendTime = sendTime ∧ entry.packetClass = packetClass ∧
      ((sendTime - now).toNat < Timing.maxAdvance.toNat ↔
        ∀ calls : List QueueCall, (∀ call ∈ calls, call.Within now sendTime) →
          entry ∈ (after.run calls).entries ∨ entry ∈ after.popped calls) := by
  obtain ⟨entry, rfl, admitted, joined⟩ := enqueue_ok accepted
  have member : entry ∈ after.entries := joined.mem_iff.mpr List.mem_cons_self
  refine ⟨admitted.notLate, admitted.notEarly, entry, member, rfl, admitted.ofClass, ?_, ?_⟩
  · intro near calls pending
    exact run_keeps member near pending
  · intro kept
    have atOnce : ∀ call ∈ [QueueCall.peek now], call.Within now entry.sendTime := by
      simp [QueueCall.Within, QueueCall.now]
    rcases kept [.peek now] atOnce with held | popped
    · exact (mem_current.mp ((after.peek_perm now).mem_iff.mp held)).2
    · cases popped

/-- An answer accepted shortly before the counter wraps, for a send time shortly after. -/
def answerOverWrap : Except TxError UInt32 × TxQueue :=
  standard.enqueue 4294900000 { counter := 100000 } .classB

theorem answer_kept_over_wrap :
    answerOverWrap.1 = .ok 100000 ∧
    ∃ entry ∈ answerOverWrap.2.entries, entry.sendTime = 100000 ∧
      ∀ calls : List QueueCall, (∀ call ∈ calls, call.Within 4294900000 100000) →
        entry ∈ (answerOverWrap.2.run calls).entries ∨
          entry ∈ answerOverWrap.2.popped calls := by
  have sent : answerOverWrap.1 = .ok 100000 := by decide +kernel
  have accepted : answerOverWrap = (.ok 100000, answerOverWrap.2) := Prod.ext sent rfl
  obtain ⟨-, -, entry, member, atTime, -, kept⟩ := accepted_kept_iff accepted
  exact ⟨sent, entry, member, atTime, kept.mp (by simp)⟩

/-- Accepted requests that the next look at the queue drops: an answer exactly as far ahead as
answers may lie, and a beacon whose time has passed. -/
theorem accepted_then_dropped :
    (standard.enqueue 0 { counter := 512000000 } .classA).1 = .ok 512000000 ∧
    ((standard.enqueue 0 { counter := 512000000 } .classA).2.peek 0).2.entries = [] ∧
    (standard.enqueue 1000000 { counter := 500000 } .beacon).1 = .ok 500000 ∧
    ((standard.enqueue 1000000 { counter := 500000 } .beacon).2.peek 1000000).2.entries = [] := by
  refine ⟨?_, ?_, ?_, ?_⟩ <;> cbv

end TxQueue

end LorawanGateway
