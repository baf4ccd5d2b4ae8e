import LorawanGateway.Proofs.Transmit.OnAir

/-!
Records of the calls of a queue on an absolute clock whose value modulo 2^32 is the counter. A call
changes the entries as events change those of a chain, so that the record of a queue is orderly in
the same sense: what is taken leaves less than the lead later, and in the order of the takings.
-/

namespace LorawanGateway

open TxQueue

/-- The time of a taking, with the time from then on at which the counter first shows the send time
of the entry taken. -/
def TxRecord.taking? : TxRecord → Option (Nat × Nat)
  | .accepted _ _ => none
  | .handedOver time entry => some (time, entry.startFrom time)

def takings (past : List TxRecord) : List (Nat × Nat) := past.filterMap TxRecord.taking?

theorem takings_append (first second : List TxRecord) :
    takings (first ++ second) = takings first ++ takings second :=
  List.filterMap_append

/-- Of two entries taken the one taken later leaves later. -/
theorem Orderly.takings_pairwise {past : List TxRecord} {clock : Nat} {entries : List QueueEntry}
    (orderly : Orderly past clock entries) :
    (takings past).Pairwise fun earlier later => earlier.2 < later.2 := by
  refine List.pairwise_filterMap.mpr (List.pairwise_iff_forall_sublist.mpr ?_)
  intro first second pair taking taken laterTaking laterTaken
  cases first with
  | accepted time sendTime => cases taken
  | handedOver time entry =>
      cases second with
      | accepted later sendTime => cases laterTaken
      | handedOver later other =>
          cases taken
          cases laterTaken
          exact (orderly.handed time entry later other pair).1

theorem TxQueue.Changes.takings_near {time : Nat} {before after : List QueueEntry}
    {records : List TxRecord} (changes : Changes time before records after) :
    ∀ taking ∈ takings records,
      taking.1 ≤ taking.2 ∧ taking.2 < taking.1 + Timing.lead.toNat := by
  induction changes with
  | none => simp [takings]
  | more first others induction =>
      intro taking member
      rw [takings_append] at member
      rcases List.mem_append.mp member with here | there
      · cases first with
        | fewer kept => cases here
        | accept admitted joined => cases here
        | handOver parted nearest near =>
            cases List.mem_singleton.mp here
            exact ⟨Counter.le_next _ _, Nat.add_lt_add_left near time⟩
      · exact induction taking there

namespace TxQueue

variable {queue : TxQueue} {time clock : Nat} {call : QueueCall}
variable {calls : List (Nat × QueueCall)} {past : List TxRecord}

/-- What a call at a time puts on record. -/
def records (queue : TxQueue) (time : Nat) : QueueCall → List TxRecord
  | .enqueue now packet packetClass =>
    match (queue.enqueue now packet packetClass).1 with
    | .ok sendTime => [.accepted time sendTime]
    | .error _ => []
  | .accept _ _ _ => []
  | .peek _ => []
  | .pop now => ((queue.pop now).1.map (TxRecord.handedOver time)).toList

def history (queue : TxQueue) : List (Nat × QueueCall) → List TxRecord
  | [] => []
  | (time, call) :: rest => queue.records time call ++ (queue.apply call).history rest

theorem records_changes (queue : TxQueue) (onClock : call.now = Counter.ofTime time) :
    Changes time queue.entries (queue.records time call) (queue.apply call).entries := by
  cases call with
  | enqueue now packet packetClass =>
      cases asked : queue.enqueue now packet packetClass with
      | mk outcome after =>
          simp only [records, apply, asked]
          cases outcome with
          | error fault => exact .single (.fewer (enqueue_error asked).subperm)
          | ok sendTime =>
              obtain ⟨entry, rfl, admitted, joined⟩ := enqueue_ok asked
              have admittedThen := (show now = Counter.ofTime time from onClock) ▸ admitted
              exact .single (.accept admittedThen joined)
  | accept now packet packetClass =>
      exact .single (.fewer (queue.accept_perm now packet packetClass).subperm)
  | peek now =>
      exact .single (.fewer ((queue.peek_perm now).subperm.trans (queue.current_subperm now)))
  | pop now =>
      obtain rfl : now = Counter.ofTime time := onClock
      cases taken : queue.pop (Counter.ofTime time) with
      | mk outcome after =>
          simp only [records, apply, taken]
          cases outcome with
          | none =>
              have kept := (pop_none taken).1.subperm.trans (queue.current_subperm _)
              exact .single (.fewer kept)
          | some entry =>
              obtain ⟨parted, first, near⟩ := pop_some taken
              exact .more (.fewer (queue.current_subperm _)) (.single (.handOver parted first near))

theorem orderly_history (orderly : Orderly past clock queue.entries)
    (onClock : ∀ event ∈ calls, event.2.now = Counter.ofTime event.1)
    (ordered : (clock :: calls.map Prod.fst).Pairwise (· ≤ ·)) :
    ∃ now, Orderly (past ++ queue.history calls) now (queue.run (calls.map Prod.snd)).entries := by
  induction calls generalizing queue past clock with
  | nil => exact ⟨clock, by simpa [history, run] using orderly⟩
  | cons event rest induction =>
      obtain ⟨time, call⟩ := event
      obtain ⟨future, following⟩ := List.pairwise_cons.mp ordered
      obtain ⟨now, onClockRest⟩ := List.forall_mem_cons.mp onClock
      have stepped := (orderly.wait (future time List.mem_cons_self)).changes
        (queue.records_changes now)
      obtain ⟨last, result⟩ := induction stepped onClockRest following
      refine ⟨last, ?_⟩
      rw [history, ← List.append_assoc]
      exact result

theorem takings_near (onClock : ∀ event ∈ calls, event.2.now = Counter.ofTime event.1)
    (queue : TxQueue) :
    ∀ taking ∈ takings (queue.history calls),
      taking.1 ≤ taking.2 ∧ taking.2 < taking.1 + Timing.lead.toNat := by
  induction calls generalizing queue with
  | nil => simp [history, takings]
  | cons event rest induction =>
      obtain ⟨time, call⟩ := event
      obtain ⟨now, onClockRest⟩ := List.forall_mem_cons.mp onClock
      intro taking member
      rw [history, takings_append] at member
      rcases List.mem_append.mp member with here | there
      · exact (queue.records_changes now).takings_near taking here
      · exact induction onClockRest _ taking there

end TxQueue

end LorawanGateway
