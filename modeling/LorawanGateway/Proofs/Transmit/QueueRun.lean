import LorawanGateway.Proofs.Transmit.QueueLaws
import Mathlib.Data.List.Perm.Subperm

/-!
Runs of a transmit queue. Each call reads the counter, and nothing is assumed of the readings. A
call takes entries away or adds one that is `Admitted`, which is all that a property of the entries
has to be kept under.
-/

namespace LorawanGateway

/-- A call of a queue with the value of the counter at it. -/
inductive QueueCall where
  | enqueue (now : UInt32) (packet : TransmitPacket) (packetClass : PacketClass)
  | accept (now : UInt32) (packet : TransmitPacket) (packetClass : PacketClass)
  | peek (now : UInt32)
  | pop (now : UInt32)
  deriving DecidableEq, Repr

namespace QueueCall

def now : QueueCall → UInt32
  | enqueue now _ _ => now
  | accept now _ _ => now
  | peek now => now
  | pop now => now

def packet? : QueueCall → Option TransmitPacket
  | enqueue _ packet _ => some packet
  | accept _ packet _ => some packet
  | peek _ => none
  | pop _ => none

/-- Whether a call drops what has gone by. -/
def looks : QueueCall → Bool
  | peek _ => true
  | pop _ => true
  | enqueue _ _ _ => false
  | accept _ _ _ => false

end QueueCall

namespace TxQueue

def apply (queue : TxQueue) : QueueCall → TxQueue
  | .enqueue now packet packetClass => (queue.enqueue now packet packetClass).2
  | .accept now packet packetClass => (queue.accept now packet packetClass).2
  | .peek now => (queue.peek now).2
  | .pop now => (queue.pop now).2

def run (queue : TxQueue) (calls : List QueueCall) : TxQueue := calls.foldl apply queue

def taken? (queue : TxQueue) : QueueCall → Option QueueEntry
  | .pop now => (queue.pop now).1
  | _ => none

/-- The entries that the calls of a run returned, in their order. -/
def popped (queue : TxQueue) : List QueueCall → List QueueEntry
  | [] => []
  | call :: rest => (queue.taken? call).toList ++ (queue.apply call).popped rest

variable {queue after : TxQueue} {entry : QueueEntry} {calls : List QueueCall}

theorem current_subperm (queue : TxQueue) (now : UInt32) :
    (queue.current now).Subperm queue.entries :=
  List.filter_sublist.subperm

theorem pop_subperm (queue : TxQueue) (now : UInt32) :
    (queue.pop now).2.entries.Subperm queue.entries := by
  cases taken : queue.pop now with
  | mk outcome after =>
      cases outcome with
      | none => exact (pop_none taken).1.subperm.trans (queue.current_subperm now)
      | some entry =>
          have kept := (List.sublist_cons_self entry after.entries).subperm
          exact (kept.trans (pop_some taken).1.symm.subperm).trans (queue.current_subperm now)

theorem mem_current_of_looks (look : QueueCall) (looks : look.looks = true)
    (member : entry ∈ (queue.apply look).entries) : entry ∈ queue.current look.now := by
  cases look with
  | enqueue now packet packetClass => cases looks
  | accept now packet packetClass => cases looks
  | peek now => exact (queue.peek_perm now).mem_iff.mp member
  | pop now =>
      cases taken : queue.pop now with
      | mk outcome after =>
          simp only [apply, taken] at member
          cases outcome with
          | none => exact (pop_none taken).1.mem_iff.mp member
          | some first =>
              exact (pop_some taken).1.mem_iff.mpr (List.mem_cons_of_mem first member)

/-- A call either leaves no other entries than there were, or adds one that is admitted. -/
theorem apply_entries (queue : TxQueue) (call : QueueCall) :
    (queue.apply call).entries.Subperm queue.entries ∨
      ∃ entry packet packetClass, call.packet? = some packet ∧
        Admitted queue.entries call.now packet packetClass entry ∧
        (queue.apply call).entries.Perm (entry :: queue.entries) := by
  cases call with
  | enqueue now packet packetClass =>
      cases asked : queue.enqueue now packet packetClass with
      | mk outcome after =>
          cases outcome with
          | error fault =>
              have same := enqueue_error asked
              exact .inl (by simpa only [apply, asked] using same.subperm)
          | ok sendTime =>
              obtain ⟨entry, -, admitted, joined⟩ := enqueue_ok asked
              exact .inr ⟨entry, packet, packetClass, rfl, admitted,
                by simpa only [apply, asked] using joined⟩
  | accept now packet packetClass => exact .inl (queue.accept_perm now packet packetClass).subperm
  | peek now => exact .inl ((queue.peek_perm now).subperm.trans (queue.current_subperm now))
  | pop now => exact .inl (queue.pop_subperm now)

theorem run_induction (Holds : TxQueue → Prop) (start : Holds queue)
    (kept : ∀ (before : TxQueue), ∀ call ∈ calls, Holds before → Holds (before.apply call)) :
    Holds (queue.run calls) := by
  induction calls generalizing queue with
  | nil => exact start
  | cons call rest induction =>
      exact induction (kept queue call List.mem_cons_self start)
        (fun before next member => kept before next (List.mem_cons_of_mem _ member))

end TxQueue

end LorawanGateway
