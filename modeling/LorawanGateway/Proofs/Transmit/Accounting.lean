import LorawanGateway.Proofs.Transmit.SchedulerRun

/-!
Accounts of the entries of a scheduler. A request is all or nothing: a refused one changes nothing
but the order of a queue, and an accepted one adds a single entry. Every other event takes entries
or drops them. So the accepted entries of a chain are at any time those that are still queued, those
that were taken, and those that were dropped because they had gone by.
-/

namespace LorawanGateway

def QueueEntry.isOn (chain : Nat) (entry : QueueEntry) : Bool := entry.packet.rfChain.toNat == chain

namespace TxQueue

theorem pop_accounts (queue : TxQueue) (now : UInt32) :
    (queue.current now).Perm ((queue.pop now).2.entries ++ (queue.pop now).1.toList) := by
  cases taken : queue.pop now with
  | mk outcome after =>
      cases outcome with
      | none => simpa using (pop_none taken).1.symm
      | some entry => simpa using (pop_some taken).1.trans (List.perm_append_singleton ..).symm

theorem drain_accounts (queue : TxQueue) (now : UInt32) :
    (queue.current now).Perm ((queue.drain now).2.entries ++ (queue.drain now).1) :=
  (queue.drain_spec now).1.trans List.perm_append_comm

end TxQueue

namespace TxScheduler

variable {scheduler after : TxScheduler} {chain : Nat} {queue rest : TxQueue} {now : UInt32}
variable {packet : TransmitPacket} {packetClass : PacketClass}

theorem entries_of_none (absent : scheduler.queue? chain = none) :
    scheduler.entries chain = [] := by
  simp only [entries, absent, Option.elim_none]

/-- A look at a chain that gives away some of what is current drops what is not. -/
theorem accounts_of_look {change : TxQueue → TxQueue} (given : TxQueue → List QueueEntry)
    (left : after.queue? chain = (scheduler.queue? chain).map change)
    (split : ∀ queue : TxQueue, (queue.current now).Perm ((change queue).entries ++ given queue)) :
    (scheduler.entries chain).Perm
      (after.entries chain ++ (scheduler.queue? chain).elim [] given ++
        (scheduler.entries chain).filter fun entry => !TxQueue.isCurrent now entry) := by
  cases found : scheduler.queue? chain with
  | none =>
      rw [found] at left
      simp [entries_of_none found, entries_of_none left]
  | some queue =>
      rw [found] at left
      rw [entries_of_queue? found, entries_of_queue? left]
      exact (List.filter_append_perm _ _).symm.trans ((split queue).append_right _)

theorem enqueue_accounts (scheduler : TxScheduler) (chain : Nat) (now : UInt32)
    (packet : TransmitPacket) (packetClass : PacketClass) :
    let event := SchedulerEvent.call (.enqueue now packet packetClass)
    ((scheduler.accepted event).filter (·.isOn chain) ++ scheduler.entries chain).Perm
      ((scheduler.apply event).entries chain) := by
  cases asked : scheduler.enqueue now packet packetClass with
  | mk outcome after =>
      simp only [accepted, apply, answer, asked]
      cases outcome with
      | error fault => exact ((enqueue_refused asked).entries chain).symm
      | ok acceptance =>
          have joined := enqueue_joined asked
          by_cases own : (acceptance.entry packet packetClass).packet.rfChain.toNat = chain
          · subst own
            simpa [QueueEntry.isOn] using joined.entries.symm
          · have same : after.entries chain = scheduler.entries chain := by
              simp only [entries, joined.others chain (Ne.symm own)]
            simp [QueueEntry.isOn, own, same]

theorem apply_accounts (scheduler : TxScheduler) (event : SchedulerEvent) (chain : Nat) :
    ((scheduler.accepted event).filter (·.isOn chain) ++ scheduler.entries chain).Perm
      ((scheduler.apply event).entries chain ++ taken chain scheduler event ++
        outdated chain scheduler event) := by
  cases event with
  | pass radio =>
      simp only [accepted, apply, taken, outdated, SchedulerEvent.look?, pass]
      cases radio.now? with
      | none => simp
      | some now =>
          exact accounts_of_look _ (scheduler.passAt_queue? now radio chain)
            fun queue => queue.drain_accounts now
  | call call =>
      cases call with
      | enqueue now packet packetClass =>
          simpa [taken, outdated, SchedulerEvent.look?] using
            scheduler.enqueue_accounts chain now packet packetClass
      | peek index now =>
          have left := scheduler.peek_queue? index now chain
          simp only [accepted, apply, answer, taken, outdated, SchedulerEvent.look?]
          by_cases own : index = chain
          · rw [if_pos own] at left ⊢
            have looked := accounts_of_look (fun _ => []) left fun queue => by
              simpa using (queue.peek_perm now).symm
            have nothing : (scheduler.queue? chain).elim [] (fun _ => []) =
                ([] : List QueueEntry) := by
              cases scheduler.queue? chain <;> rfl
            rwa [nothing] at looked
          · rw [if_neg own] at left ⊢
            simp [entries, left]
      | pop index now =>
          have left := scheduler.pop_queue? index now chain
          simp only [accepted, apply, answer, taken, outdated, SchedulerEvent.look?]
          by_cases own : index = chain
          · subst own
            rw [if_pos rfl] at left
            rw [if_pos rfl, if_pos rfl, pop_fst_toList]
            exact accounts_of_look _ left fun queue => queue.pop_accounts now
          · rw [if_neg own] at left
            simp [entries, left, own]

theorem apply_enqueued (scheduler : TxScheduler) (event : SchedulerEvent) :
    (scheduler.apply event).statistics.enqueued =
      scheduler.statistics.enqueued + (scheduler.accepted event).length := by
  cases scheduler.applied event with
  | refused request asked silent => rw [silent, (enqueue_refused asked).statistics]; rfl
  | accepted request asked new => rw [new, (enqueue_joined asked).statistics]; rfl
  | looked silent gate enqueued same => rw [silent, enqueued]; rfl

theorem run_enqueued (scheduler : TxScheduler) (events : List SchedulerEvent) :
    (scheduler.run events).statistics.enqueued =
      scheduler.statistics.enqueued + (gather apply accepted scheduler events).length := by
  induction events generalizing scheduler with
  | nil => rfl
  | cons event rest induction =>
      have later := induction (scheduler.apply event)
      rw [apply_enqueued] at later
      rw [gather, List.length_append, ← Nat.add_assoc]
      exact later

theorem run_accounts (envelopes : List TxEnvelope) (gate : Option ListenGate)
    (events : List SchedulerEvent) (chain : Nat) :
    let start := ofEnvelopes envelopes gate
    ((gather apply accepted start events).filter (·.isOn chain)).Perm
      ((start.run events).entries chain ++ gather apply (taken chain) start events ++
        gather apply (outdated chain) start events) := by
  intro start
  have balance := gather_balance (·.entries chain)
    (fun scheduler event => apply_accounts scheduler event chain) start events
  rw [← filter_gather, entries_ofEnvelopes, List.append_nil] at balance
  exact balance

theorem accepted_of_mem_entries {envelopes : List TxEnvelope} {gate : Option ListenGate}
    {events : List SchedulerEvent} {entry : QueueEntry}
    (queued : entry ∈ ((ofEnvelopes envelopes gate).run events).entries chain) :
    entry ∈ gather apply accepted (ofEnvelopes envelopes gate) events ∧
      entry.packet.rfChain.toNat = chain := by
  have balance := run_accounts envelopes gate events chain
  have counted := balance.mem_iff.mpr (List.mem_append_left _ (List.mem_append_left _ queued))
  obtain ⟨member, own⟩ := List.mem_filter.mp counted
  exact ⟨member, by simpa [QueueEntry.isOn] using own⟩

theorem mem_entries_of_taken {event : SchedulerEvent} {entry : QueueEntry}
    (given : entry ∈ taken chain scheduler event) : entry ∈ scheduler.entries chain := by
  have balance := scheduler.apply_accounts event chain
  have counted := balance.mem_iff.mpr (List.mem_append_left _ (List.mem_append_right _ given))
  rcases List.mem_append.mp counted with new | queued
  · obtain ⟨now, packet, packetClass, acceptance, rfl, -⟩ :=
      mem_accepted.mp (List.mem_of_mem_filter new)
    cases given
  · exact queued

/-- A request to a scheduler that any run has led to is all or nothing, and whatever the run, the
accepted entries of each chain are those still queued, those taken and those dropped as outdated;
the statistics count the accepted ones. -/
theorem requests_atomic_and_entries_conserved (envelopes : List TxEnvelope)
    (gate : Option ListenGate) (events : List SchedulerEvent) :
    let start := ofEnvelopes envelopes gate
    let reached := start.run events
    let entriesAccepted := gather apply accepted start events
    (∀ now packet packetClass,
      match reached.enqueue now packet packetClass with
      | (.error _, after) => Refused reached after
      | (.ok acceptance, after) =>
        Joined reached now (acceptance.entry packet packetClass) after) ∧
    (∀ chain, (entriesAccepted.filter (·.isOn chain)).Perm (reached.entries chain ++
      gather apply (taken chain) start events ++ gather apply (outdated chain) start events)) ∧
    reached.statistics.enqueued = entriesAccepted.length := by
  intro start reached entriesAccepted
  refine ⟨fun now packet packetClass => ?_, fun chain => ?_, ?_⟩
  · cases asked : reached.enqueue now packet packetClass with
    | mk outcome after =>
        cases outcome with
        | error fault => exact enqueue_refused asked
        | ok acceptance => exact enqueue_joined asked
  · exact run_accounts envelopes gate events chain
  · exact (start.run_enqueued events).trans (Nat.zero_add _)

end TxScheduler

end LorawanGateway
