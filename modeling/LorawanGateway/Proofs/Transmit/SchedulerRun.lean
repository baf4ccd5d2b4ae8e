import LorawanGateway.Proofs.Run
import LorawanGateway.Proofs.Transmit.Bookings
import LorawanGateway.Proofs.Transmit.SchedulerLaws

/-!
Runs of a scheduler. Events are the calls of its users and transmit passes, each with the
concentrator as it is found then; nothing is assumed of the readings of the counter. What becomes
of the packets is followed chain by chain: an event may accept an entry, take entries to be sent,
and drop those that a look at the queue finds to have gone by.
-/

namespace LorawanGateway

/-- A call of a scheduler with the value of the counter at it. -/
inductive SchedulerCall where
  | enqueue (now : UInt32) (packet : TransmitPacket) (packetClass : PacketClass)
  | peek (chain : Nat) (now : UInt32)
  | pop (chain : Nat) (now : UInt32)
  deriving DecidableEq, Repr

inductive SchedulerAnswer where
  | outcome (outcome : Except TxError TxAcceptance)
  | entry (entry : Option QueueEntry)

inductive SchedulerEvent where
  | call (call : SchedulerCall)
  | pass (radio : Concentrator)

/-- The reading of the counter at which an event looks for due packets of a chain. -/
def SchedulerEvent.look? (chain : Nat) : SchedulerEvent → Option UInt32
  | .call (.enqueue _ _ _) => none
  | .call (.peek index now) => if index = chain then some now else none
  | .call (.pop index now) => if index = chain then some now else none
  | .pass radio => radio.now?

/-- The entry that an accepted request is queued as. -/
def TxAcceptance.entry (acceptance : TxAcceptance) (packet : TransmitPacket)
    (packetClass : PacketClass) : QueueEntry :=
  let sent := { packet with
    power := acceptance.adjustedPower.getD packet.power
    counter := acceptance.sendTime
    mode := if packetClass = .classC then .timestamped else packet.mode }
  let (pre, post) := TxQueue.occupied packetClass sent
  ⟨packetClass, sent, pre, post⟩

namespace TxScheduler

def answer (scheduler : TxScheduler) : SchedulerCall → SchedulerAnswer × TxScheduler
  | .enqueue now packet packetClass =>
    let (outcome, scheduler) := scheduler.enqueue now packet packetClass
    (.outcome outcome, scheduler)
  | .peek chain now =>
    let (entry, scheduler) := scheduler.peek chain now
    (.entry entry, scheduler)
  | .pop chain now =>
    let (entry, scheduler) := scheduler.pop chain now
    (.entry entry, scheduler)

def answers (scheduler : TxScheduler) : List SchedulerCall → List SchedulerAnswer × TxScheduler
  | [] => ([], scheduler)
  | call :: rest =>
    let (answer, scheduler) := scheduler.answer call
    let (answers, scheduler) := scheduler.answers rest
    (answer :: answers, scheduler)

def apply (scheduler : TxScheduler) : SchedulerEvent → TxScheduler
  | .call call => (scheduler.answer call).2
  | .pass radio => (scheduler.pass radio).1

def run (scheduler : TxScheduler) (events : List SchedulerEvent) : TxScheduler :=
  events.foldl apply scheduler

/-- What an event adds to the queues. -/
def accepted (scheduler : TxScheduler) : SchedulerEvent → List QueueEntry
  | .call (.enqueue now packet packetClass) =>
    match (scheduler.enqueue now packet packetClass).1 with
    | .ok acceptance => [acceptance.entry packet packetClass]
    | .error _ => []
  | .call (.peek _ _) => []
  | .call (.pop _ _) => []
  | .pass _ => []

/-- What an event takes from a chain to be sent. -/
def taken (chain : Nat) (scheduler : TxScheduler) : SchedulerEvent → List QueueEntry
  | .call (.enqueue _ _ _) => []
  | .call (.peek _ _) => []
  | .call (.pop index now) => if index = chain then (scheduler.pop index now).1.toList else []
  | .pass radio => radio.now?.elim [] (scheduler.due chain)

/-- What an event finds on a chain to have gone by. -/
def outdated (chain : Nat) (scheduler : TxScheduler) (event : SchedulerEvent) : List QueueEntry :=
  (event.look? chain).elim [] fun now =>
    (scheduler.entries chain).filter fun entry => !TxQueue.isCurrent now entry

variable {scheduler after : TxScheduler} {chain index : Nat} {queue : TxQueue} {now : UInt32}
variable {packet : TransmitPacket} {packetClass : PacketClass} {acceptance : TxAcceptance}
variable {entry : QueueEntry} {event : SchedulerEvent}

theorem mem_accepted : entry ∈ scheduler.accepted event ↔
    ∃ now packet packetClass acceptance, event = .call (.enqueue now packet packetClass) ∧
      (scheduler.enqueue now packet packetClass).1 = .ok acceptance ∧
      entry = acceptance.entry packet packetClass := by
  constructor
  · intro member
    cases event with
    | pass radio => cases member
    | call call =>
        cases call with
        | peek chain now => cases member
        | pop chain now => cases member
        | enqueue now packet packetClass =>
            cases asked : (scheduler.enqueue now packet packetClass).1 with
            | error fault =>
                simp only [accepted, asked] at member
                cases member
            | ok acceptance =>
                simp only [accepted, asked, List.mem_singleton] at member
                exact ⟨now, packet, packetClass, acceptance, rfl, asked, member⟩
  · rintro ⟨now, packet, packetClass, acceptance, rfl, asked, rfl⟩
    simp only [accepted, asked, List.mem_singleton]

theorem entry_of_accept {held : TxQueue} {fitted : TransmitPacket}
    (fits : fitted = { packet with power := fitted.power })
    (asked : held.accept now fitted packetClass = (.ok entry, held.sorted now)) :
    entry = TxAcceptance.entry
      ⟨entry.sendTime, if fitted.power = packet.power then none else some fitted.power⟩
      packet packetClass := by
  -- The answer tells a power only if it replaces the requested one.
  have power : (if fitted.power = packet.power then none else some fitted.power).getD packet.power =
      fitted.power := by
    split
    · rename_i same
      exact same.symm
    · rfl
  obtain ⟨-, -, rfl, -⟩ := TxQueue.accept_ok_eq asked
  simp only [TxAcceptance.entry, power]
  rw [fits]
  cases packetClass <;> rfl

/-- What a refused request leaves behind. -/
structure Refused (before after : TxScheduler) : Prop where
  entries (chain : Nat) : (after.entries chain).Perm (before.entries chain)
  beaconCount (chain : Nat) : after.beaconCount chain = before.beaconCount chain
  gate : after.gate = before.gate
  statistics : after.statistics =
    { before.statistics with rejected := before.statistics.rejected + 1 }

/-- What becomes of the gate when a packet is queued: a beacon needs no reservation, and any other
packet gets one slot that was free. -/
def Reserves (now : UInt32) (entry : QueueEntry) :
    Option ListenGate → Option ListenGate → Prop
  | none, after => after = none
  | some gate, after =>
    if entry.isBeacon then after = some gate
    else ∃ slot held, gate.slots[slot]? = some held ∧ ListenGate.isFree now held = true ∧
      after = some ⟨gate.slots.set slot (some (.ofPacket entry.packet))⟩

/-- What an accepted request leaves behind. -/
structure Joined (before : TxScheduler) (now : UInt32) (entry : QueueEntry)
    (after : TxScheduler) : Prop where
  onChain : entry.packet.rfChain.toNat < before.chains.length
  entries : (after.entries entry.packet.rfChain.toNat).Perm
    (entry :: before.entries entry.packet.rfChain.toNat)
  beaconCount : after.beaconCount entry.packet.rfChain.toNat =
    before.beaconCount entry.packet.rfChain.toNat + if entry.isBeacon then 1 else 0
  others : ∀ chain ≠ entry.packet.rfChain.toNat, after.queue? chain = before.queue? chain
  gate : Reserves now entry before.gate after.gate
  statistics : after.statistics =
    { before.statistics with enqueued := before.statistics.enqueued + 1 }

theorem beaconCount_of_queue? (found : scheduler.queue? index = some queue) :
    scheduler.beaconCount index = queue.beaconCount := by
  simp only [beaconCount, found, Option.elim_some]

theorem queue?_congr (same : after.chains = scheduler.chains) (chain : Nat) :
    after.queue? chain = scheduler.queue? chain := by
  simp only [queue?, same]

/-- A request counts the outcome and does otherwise what placing the packet does. -/
theorem placed_of_enqueue {outcome : Except TxError TxAcceptance}
    (asked : scheduler.enqueue now packet packetClass = (outcome, after)) :
    ∃ before, Placed scheduler now packet packetClass before outcome ∧
      after.chains = before.chains ∧ after.gate = before.gate ∧
      after.statistics = TxStatistics.count before.statistics outcome := by
  cases placed : scheduler.place now packet packetClass with
  | mk verdict before =>
      simp only [enqueue, placed, Prod.mk.injEq] at asked
      obtain ⟨rfl, rfl⟩ := asked
      exact ⟨before, placed_of_place placed, rfl, rfl, rfl⟩

theorem enqueue_refused {fault : TxError}
    (refused : scheduler.enqueue now packet packetClass = (.error fault, after)) :
    Refused scheduler after := by
  obtain ⟨before, placed, chains, gate, statistics⟩ := placed_of_enqueue refused
  have kept : before.gate = scheduler.gate ∧ before.statistics = scheduler.statistics := by
    cases placed with
    | unfit same | refused _ _ same =>
        rw [same]
        exact ⟨rfl, rfl⟩
  have counted (chain : Nat) : after.beaconCount chain = scheduler.beaconCount chain := by
    unfold beaconCount
    rw [queue?_congr chains]
    rcases placed.queue?_of_error chain with same | ordered
    · rw [same]
    · rw [ordered]
      cases scheduler.queue? chain <;> rfl
  refine ⟨fun chain => ?_, counted, gate.trans kept.1, ?_⟩
  · unfold entries
    rw [queue?_congr chains]
    exact placed.entries_of_error chain
  · rw [statistics, kept.2]
    rfl

theorem reserve_some (gate : ListenGate) (entry : QueueEntry) (now : UInt32) :
    reserve (some gate) entry.packetClass entry.packet now =
      if entry.isBeacon then .ok (some gate)
      else (gate.reserve entry.packet now).map fun reserved => some reserved.2 := by
  unfold QueueEntry.isBeacon
  cases entry.packetClass <;> rfl

theorem reserves_of_reserve {gate reserved : Option ListenGate}
    (free : reserve gate entry.packetClass entry.packet now = .ok reserved) :
    Reserves now entry gate reserved := by
  cases gate with
  | none =>
      cases free
      rfl
  | some gate =>
      rw [reserve_some] at free
      simp only [Reserves]
      by_cases beacon : entry.isBeacon = true
      · rw [if_pos beacon] at free ⊢
        cases free
        rfl
      · rw [if_neg beacon] at free ⊢
        cases found : gate.reserve entry.packet now with
        | error fault => simp [found, Except.map] at free
        | ok answer =>
            obtain ⟨⟨held, inSlot, isFree⟩, same⟩ := ListenGate.reserve_ok found
            simp only [found, Except.map, Except.ok.injEq] at free
            exact ⟨answer.1, held, inSlot, isFree, by rw [← free, same]⟩

/-- What an accepted request finds at its chain and what it changes. -/
structure Queued (before : TxScheduler) (now : UInt32) (packet : TransmitPacket)
    (packetClass : PacketClass) (entry : QueueEntry) (after : TxScheduler) (held : TxChain)
    (fitted : TransmitPacket) : Prop where
  found : before.chains[packet.rfChain.toNat]? = some held
  fits : held.envelope.fit packet = .ok fitted
  admitted : TxQueue.Admitted held.queue.entries now fitted packetClass entry
  reserved : reserve before.gate entry.packetClass entry.packet now = .ok after.gate
  chains : after.chains = (before.setQueue packet.rfChain.toNat
    ((held.queue.sorted now).insert now entry)).chains
  statistics : after.statistics =
    { before.statistics with enqueued := before.statistics.enqueued + 1 }

theorem queued_of_enqueue
    (accepted : scheduler.enqueue now packet packetClass = (.ok acceptance, after)) :
    ∃ held fitted, Queued scheduler now packet packetClass (acceptance.entry packet packetClass)
      after held fitted := by
  obtain ⟨before, placed, chains, gate, statistics⟩ := placed_of_enqueue accepted
  cases placed with
  | @queued held fitted entry reserved found fits asked free same =>
      obtain ⟨-, -, admitted⟩ := TxQueue.accept_ok asked
      rw [← entry_of_accept (TxEnvelope.fit_ok fits) asked]
      refine ⟨held, fitted, found, fits, admitted, ?_, ?_, ?_⟩
      · rw [gate, same, admitted.ofClass]
        exact free
      · rw [chains, same]
      · rw [statistics, same]
        rfl

theorem enqueue_joined
    (accepted : scheduler.enqueue now packet packetClass = (.ok acceptance, after)) :
    Joined scheduler now (acceptance.entry packet packetClass) after := by
  obtain ⟨held, fitted, queued⟩ := queued_of_enqueue accepted
  have ownChain : packet.rfChain = (acceptance.entry packet packetClass).packet.rfChain := rfl
  generalize acceptance.entry packet packetClass = entry at queued ownChain ⊢
  have lookup := queued.found
  have found := queue?_of_chain lookup
  have placedQueue (chain : Nat) : after.queue? chain =
      if packet.rfChain.toNat = chain then
        (scheduler.queue? chain).map fun _ => (held.queue.sorted now).insert now entry
      else scheduler.queue? chain := by
    rw [queue?_congr queued.chains]
    exact queue?_setQueue ..
  have own := placedQueue packet.rfChain.toNat
  rw [if_pos rfl, found, Option.map_some] at own
  rw [ownChain] at lookup found own placedQueue
  refine ⟨(List.getElem?_eq_some_iff.mp lookup).1, ?_, ?_, fun chain other => ?_,
    reserves_of_reserve queued.reserved, queued.statistics⟩
  · rw [entries_of_queue? own, entries_of_queue? found]
    exact (TxQueue.insert_perm _ now entry).trans ((held.queue.sorted_perm now).cons entry)
  · rw [beaconCount_of_queue? own, beaconCount_of_queue? found]
    rfl
  · rw [placedQueue, if_neg other.symm]

def envelopes (scheduler : TxScheduler) : List TxEnvelope := scheduler.chains.map (·.envelope)

theorem envelopes_setQueue (scheduler : TxScheduler) (index : Nat) (queue : TxQueue) :
    (scheduler.setQueue index queue).envelopes = scheduler.envelopes := by
  refine List.ext_getElem? fun chain => ?_
  simp only [envelopes, setQueue, List.getElem?_map, List.getElem?_modify]
  cases scheduler.chains[chain]? with
  | none => rfl
  | some held => by_cases own : index = chain <;> simp [own]

/-- What an event can do: a request is refused or accepted, and all other events only look at
queues, which leaves the gate, the envelopes and the count of accepted requests. -/
inductive Applied (before : TxScheduler) (event : SchedulerEvent) (after : TxScheduler) : Prop where
  | refused {now : UInt32} {packet : TransmitPacket} {packetClass : PacketClass} {fault : TxError}
      (request : event = .call (.enqueue now packet packetClass))
      (asked : before.enqueue now packet packetClass = (.error fault, after))
      (silent : before.accepted event = [])
  | accepted {now : UInt32} {packet : TransmitPacket} {packetClass : PacketClass}
      {acceptance : TxAcceptance} (request : event = .call (.enqueue now packet packetClass))
      (asked : before.enqueue now packet packetClass = (.ok acceptance, after))
      (new : before.accepted event = [acceptance.entry packet packetClass])
  | looked (silent : before.accepted event = []) (gate : after.gate = before.gate)
      (enqueued : after.statistics.enqueued = before.statistics.enqueued)
      (envelopes : after.envelopes = before.envelopes)

theorem applied (scheduler : TxScheduler) (event : SchedulerEvent) :
    Applied scheduler event (scheduler.apply event) := by
  cases event with
  | pass radio =>
      simp only [apply, pass]
      cases radio.now? with
      | none => exact .looked rfl rfl rfl rfl
      | some now =>
          refine .looked rfl rfl rfl ?_
          simp only [envelopes, passAt, passChains_chains, List.map_map]
          rfl
  | call call =>
      cases call with
      | enqueue now packet packetClass =>
          simp only [apply, answer]
          cases asked : scheduler.enqueue now packet packetClass with
          | mk outcome after =>
              cases outcome with
              | error fault =>
                  exact .refused rfl asked (by simp only [TxScheduler.accepted, asked])
              | ok acceptance =>
                  exact .accepted rfl asked (by simp only [TxScheduler.accepted, asked])
      | peek index now =>
          simp only [apply, answer, peek]
          cases scheduler.queue? index with
          | none => exact .looked rfl rfl rfl rfl
          | some queue => exact .looked rfl rfl rfl (envelopes_setQueue ..)
      | pop index now =>
          simp only [apply, answer, pop]
          cases scheduler.queue? index with
          | none => exact .looked rfl rfl rfl rfl
          | some queue => exact .looked rfl rfl rfl (envelopes_setQueue ..)

end TxScheduler

end LorawanGateway
