import LorawanGateway.Proofs.Transmit.QueueLaws
import LorawanGateway.Transmit.Scheduler

/-!
What each operation of a scheduler does to the queues of its chains. A request concerns the one
chain it names; a transmit pass drains every chain on its own and sends what it took, chain by
chain.
-/

namespace LorawanGateway

namespace Concentrator

theorem sendAll_append (radio : Concentrator) (first second : List TransmitPacket) :
    (radio.sendAll (first ++ second)).1 = ((radio.sendAll first).1.sendAll second).1 := by
  induction first generalizing radio with
  | nil => rfl
  | cons packet rest induction =>
      simp only [List.cons_append, sendAll]
      cases radio.send packet with
      | error fault => exact induction radio
      | ok radio => exact induction radio

end Concentrator

theorem TxEnvelope.fit_ok {envelope : TxEnvelope} {packet fitted : TransmitPacket}
    (fits : envelope.fit packet = .ok fitted) : fitted = { packet with power := fitted.power } := by
  unfold fit at fits
  split at fits
  · cases fits
  · split at fits
    · cases fits
    · split at fits
      · cases fits
      · cases fits
        rfl

namespace TxScheduler

variable {scheduler after : TxScheduler} {chain index : Nat} {queue : TxQueue} {now : UInt32}
variable {packet : TransmitPacket} {packetClass : PacketClass} {acceptance : TxAcceptance}

/-- The entries queued on a chain; none where there is no such chain. -/
def entries (scheduler : TxScheduler) (chain : Nat) : List QueueEntry :=
  (scheduler.queue? chain).elim [] (·.entries)

theorem entries_ofEnvelopes (envelopes : List TxEnvelope) (gate : Option ListenGate)
    (chain : Nat) : (ofEnvelopes envelopes gate).entries chain = [] := by
  simp only [ofEnvelopes, entries, queue?, List.getElem?_map]
  cases envelopes[chain]? <;> rfl

theorem lt_length_of_mem {entry : QueueEntry} (member : entry ∈ scheduler.entries chain) :
    chain < scheduler.chains.length := by
  cases lookup : scheduler.chains[chain]? with
  | none => simp [entries, queue?, lookup] at member
  | some held => exact (List.getElem?_eq_some_iff.mp lookup).1

theorem queue?_setQueue (scheduler : TxScheduler) (index chain : Nat) (queue : TxQueue) :
    (scheduler.setQueue index queue).queue? chain =
      if index = chain then (scheduler.queue? chain).map fun _ => queue
      else scheduler.queue? chain := by
  simp only [queue?, setQueue, List.getElem?_modify]
  by_cases same : index = chain
  · cases scheduler.chains[chain]? <;> simp [same]
  · cases scheduler.chains[chain]? <;> simp [same]

theorem entries_setQueue_same {held : TxQueue} (found : scheduler.queue? index = some held) :
    (scheduler.setQueue index queue).entries index = queue.entries := by
  simp [entries, queue?_setQueue, found]

theorem entries_setQueue_other (different : index ≠ chain) :
    (scheduler.setQueue index queue).entries chain = scheduler.entries chain := by
  simp [entries, queue?_setQueue, different]

/-- What a request can do. A refusal leaves all but the order of one queue; an acceptance puts
an entry that the queue accepts into its place, with a channel reserved for it. -/
inductive Placed (scheduler : TxScheduler) (now : UInt32) (packet : TransmitPacket)
    (packetClass : PacketClass) (after : TxScheduler) : Except TxError TxAcceptance → Prop where
  | unfit {fault : TxError} (same : after = scheduler) :
      Placed scheduler now packet packetClass after (.error fault)
  | refused {fault : TxError} {held : TxChain} {queue : TxQueue}
      (found : scheduler.chains[packet.rfChain.toNat]? = some held)
      (reordered : queue = held.queue ∨ queue = held.queue.sorted now)
      (same : after = scheduler.setQueue packet.rfChain.toNat queue) :
      Placed scheduler now packet packetClass after (.error fault)
  | queued {held : TxChain} {fitted : TransmitPacket} {entry : QueueEntry}
      {gate : Option ListenGate}
      (found : scheduler.chains[packet.rfChain.toNat]? = some held)
      (fits : held.envelope.fit packet = .ok fitted)
      (accepted : held.queue.accept now fitted packetClass = (.ok entry, held.queue.sorted now))
      (reserved : reserve scheduler.gate packetClass entry.packet now = .ok gate)
      (same : after = { scheduler.setQueue packet.rfChain.toNat
        ((held.queue.sorted now).insert now entry) with gate }) :
      Placed scheduler now packet packetClass after
        (.ok ⟨entry.sendTime, if fitted.power = packet.power then none else some fitted.power⟩)

theorem placed_of_place {outcome : Except TxError TxAcceptance}
    (placed : scheduler.place now packet packetClass = (outcome, after)) :
    Placed scheduler now packet packetClass after outcome := by
  unfold place at placed
  dsimp only at placed
  split at placed
  · cases placed
    exact .unfit rfl
  · rename_i held found
    split at placed
    · cases placed
      exact .unfit rfl
    · rename_i fitted fits
      have reordered := held.queue.accept_queue now fitted packetClass
      split at placed
      · rename_i fault queue asked
        rw [asked] at reordered
        cases placed
        exact .refused found reordered rfl
      · rename_i entry queue asked
        obtain ⟨rfl, -, -⟩ := TxQueue.accept_ok asked
        split at placed
        · cases placed
          exact .refused found (.inr rfl) rfl
        · rename_i gate reserved
          cases placed
          exact .queued found fits asked reserved rfl

theorem queue?_of_chain {held : TxChain} (found : scheduler.chains[index]? = some held) :
    scheduler.queue? index = some held.queue := by
  simp only [queue?, found, Option.map_some]

theorem entries_of_queue? (found : scheduler.queue? index = some queue) :
    scheduler.entries index = queue.entries := by
  simp only [entries, found, Option.elim_some]

/-- An accepted request puts an admitted entry on its chain: the packet with the power it got. -/
theorem place_ok (placed : scheduler.place now packet packetClass = (.ok acceptance, after)) :
    ∃ entry power, entry.sendTime = acceptance.sendTime ∧
      TxQueue.Admitted (scheduler.entries packet.rfChain.toNat) now { packet with power }
        packetClass entry ∧
      (after.entries packet.rfChain.toNat).Perm
        (entry :: scheduler.entries packet.rfChain.toNat) ∧
      ∀ chain ≠ packet.rfChain.toNat, after.entries chain = scheduler.entries chain := by
  cases placed_of_place placed with
  | @queued held fitted entry gate lookup fits asked reserved same =>
      have found := queue?_of_chain lookup
      have own := entries_of_queue? found
      obtain ⟨-, -, admitted⟩ := TxQueue.accept_ok asked
      rw [same]
      refine ⟨entry, fitted.power, rfl, ?_, ?_, fun chain other => ?_⟩
      · rw [own, ← TxEnvelope.fit_ok fits]
        exact admitted
      · change ((scheduler.setQueue _ _).entries _).Perm _
        rw [entries_setQueue_same found, own]
        exact (TxQueue.insert_perm _ now entry).trans ((held.queue.sorted_perm now).cons entry)
      · exact entries_setQueue_other (Ne.symm other)

/-- A refusal leaves every queue with what it held, in order perhaps. -/
theorem Placed.queue?_of_error {fault : TxError}
    (placed : Placed scheduler now packet packetClass after (.error fault)) (chain : Nat) :
    after.queue? chain = scheduler.queue? chain ∨
      after.queue? chain = (scheduler.queue? chain).map (·.sorted now) := by
  cases placed with
  | unfit same => exact .inl (by rw [same])
  | refused lookup reordered same =>
      rw [same, queue?_setQueue]
      by_cases own : packet.rfChain.toNat = chain
      · subst own
        rw [if_pos rfl, queue?_of_chain lookup]
        rcases reordered with rfl | rfl
        · exact .inl rfl
        · exact .inr rfl
      · exact .inl (if_neg own)

/-- Whatever the outcome, a request leaves the queues of the chains that it does not name. -/
theorem Placed.queue?_other {outcome : Except TxError TxAcceptance}
    (placed : Placed scheduler now packet packetClass after outcome)
    (other : chain ≠ packet.rfChain.toNat) : after.queue? chain = scheduler.queue? chain := by
  have kept (queue : TxQueue) :
      (scheduler.setQueue packet.rfChain.toNat queue).queue? chain = scheduler.queue? chain := by
    rw [queue?_setQueue, if_neg other.symm]
  cases placed with
  | unfit same => rw [same]
  | refused _ _ same => rw [same, kept]
  | queued _ _ _ _ same =>
      rw [same]
      exact kept _

theorem Placed.entries_of_error {fault : TxError}
    (placed : Placed scheduler now packet packetClass after (.error fault)) (chain : Nat) :
    (after.entries chain).Perm (scheduler.entries chain) := by
  unfold entries
  rcases placed.queue?_of_error chain with same | ordered
  · rw [same]
  · rw [ordered]
    cases scheduler.queue? chain with
    | none => exact .refl _
    | some queue => exact queue.sorted_perm now

theorem place_error {fault : TxError}
    (refused : scheduler.place now packet packetClass = (.error fault, after)) (chain : Nat) :
    (after.entries chain).Perm (scheduler.entries chain) :=
  (placed_of_place refused).entries_of_error chain

theorem place_length (scheduler : TxScheduler) (now : UInt32) (packet : TransmitPacket)
    (packetClass : PacketClass) :
    (scheduler.place now packet packetClass).2.chains.length = scheduler.chains.length := by
  cases placed : scheduler.place now packet packetClass with
  | mk outcome after =>
      cases placed_of_place placed with
      | unfit same => rw [same]
      | refused _ _ same | queued _ _ _ _ same =>
          rw [same]
          exact List.length_modify ..

theorem enqueue_entries (scheduler : TxScheduler) (now : UInt32) (packet : TransmitPacket)
    (packetClass : PacketClass) (chain : Nat) :
    (scheduler.enqueue now packet packetClass).2.entries chain =
      (scheduler.place now packet packetClass).2.entries chain :=
  rfl

theorem enqueue_outcome (scheduler : TxScheduler) (now : UInt32) (packet : TransmitPacket)
    (packetClass : PacketClass) :
    (scheduler.enqueue now packet packetClass).1 =
      (scheduler.place now packet packetClass).1 :=
  rfl

theorem queue?_of_change {change : TxQueue → TxQueue}
    (absent : scheduler.queue? index = none → after = scheduler)
    (present : ∀ queue, scheduler.queue? index = some queue →
      after = scheduler.setQueue index (change queue)) (chain : Nat) :
    after.queue? chain = if index = chain then (scheduler.queue? chain).map change
      else scheduler.queue? chain := by
  cases found : scheduler.queue? index with
  | none =>
      rw [absent found]
      split
      · rename_i own
        rw [← own, found]
        rfl
      · rfl
  | some queue =>
      rw [present queue found, queue?_setQueue]
      split
      · rename_i own
        rw [← own, found]
        rfl
      · rfl

theorem peek_queue? (scheduler : TxScheduler) (index : Nat) (now : UInt32) (chain : Nat) :
    (scheduler.peek index now).2.queue? chain =
      if index = chain then (scheduler.queue? chain).map fun queue => (queue.peek now).2
      else scheduler.queue? chain :=
  queue?_of_change (fun absent => by simp only [peek, absent])
    (fun queue found => by simp only [peek, found]) chain

theorem pop_queue? (scheduler : TxScheduler) (index : Nat) (now : UInt32) (chain : Nat) :
    (scheduler.pop index now).2.queue? chain =
      if index = chain then (scheduler.queue? chain).map fun queue => (queue.pop now).2
      else scheduler.queue? chain :=
  queue?_of_change (fun absent => by simp only [pop, absent])
    (fun queue found => by simp only [pop, found]) chain

theorem pop_fst_toList (scheduler : TxScheduler) (chain : Nat) (now : UInt32) :
    (scheduler.pop chain now).1.toList =
      (scheduler.queue? chain).elim [] fun queue => (queue.pop now).1.toList := by
  unfold pop
  cases scheduler.queue? chain <;> rfl

/-- What a transmit pass takes from a chain, in the order in which it is handed over. -/
def due (scheduler : TxScheduler) (chain : Nat) (now : UInt32) : List QueueEntry :=
  (scheduler.queue? chain).elim [] fun queue => (queue.drain now).1

theorem passChains_chains (now : UInt32) (chains : List TxChain) (radio : Concentrator) :
    (passChains now chains radio).1 =
      chains.map fun chain => { chain with queue := (chain.queue.drain now).2 } := by
  induction chains generalizing radio with
  | nil => rfl
  | cons chain rest induction =>
      simp only [passChains, List.map_cons]
      rw [induction]

theorem passChains_radio (now : UInt32) (chains : List TxChain) (radio : Concentrator) :
    (passChains now chains radio).2.1 =
      (radio.sendAll (chains.flatMap fun chain => (chain.queue.drain now).1.map (·.packet))).1 := by
  induction chains generalizing radio with
  | nil => rfl
  | cons chain rest induction =>
      simp only [passChains, List.flatMap_cons]
      rw [induction, Concentrator.sendAll_append]

theorem passAt_length (scheduler : TxScheduler) (now : UInt32) (radio : Concentrator) :
    (scheduler.passAt now radio).1.chains.length = scheduler.chains.length := by
  simp only [passAt, passChains_chains, List.length_map]

theorem passAt_queue? (scheduler : TxScheduler) (now : UInt32) (radio : Concentrator)
    (chain : Nat) :
    (scheduler.passAt now radio).1.queue? chain =
      (scheduler.queue? chain).map fun queue => (queue.drain now).2 := by
  simp only [passAt, queue?, passChains_chains, List.getElem?_map, Option.map_map]
  rfl

/-- A pass hands the concentrator what it took, chain by chain. -/
theorem passAt_radio (scheduler : TxScheduler) (now : UInt32) (radio : Concentrator) :
    (scheduler.passAt now radio).2 =
      (radio.sendAll ((List.range scheduler.chains.length).flatMap fun chain =>
        (scheduler.due chain now).map (·.packet))).1 := by
  have byChain : (List.range scheduler.chains.length).map (scheduler.due · now) =
      scheduler.chains.map fun chain => (chain.queue.drain now).1 := by
    refine List.ext_getElem (by simp) fun chain inside _ => ?_
    have bound : chain < scheduler.chains.length := by simpa using inside
    simp [due, queue?, List.getElem?_eq_getElem bound]
  have packets := congrArg (List.flatMap (List.map (·.packet))) byChain
  simp only [List.flatMap_map] at packets
  rw [packets]
  exact passChains_radio now scheduler.chains radio

end TxScheduler

end LorawanGateway
