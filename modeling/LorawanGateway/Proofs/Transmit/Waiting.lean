import LorawanGateway.Proofs.Transmit.Accounting
import LorawanGateway.Proofs.Transmit.Separation

/-!
Entries that wait for their send time beside the reservations of a gate. Entries leave the queues of
their chains on their own schedule, while the slots of the gate are shared by all chains and are
given away by the sign of a difference on the counter. Both follow from the same requests: every
accepted packet that is no beacon makes one reservation, and until it leaves nobody else is given
its slot. As the entries of a chain never share a send time, no two of them stand for one
reservation.
-/

namespace LorawanGateway

/-- An entry that was accepted, with the time at which it was. -/
structure Commitment where
  time : Nat
  entry : QueueEntry
  deriving DecidableEq, Repr

namespace Commitment

def start (commitment : Commitment) : Nat :=
  Counter.next commitment.entry.sendTime commitment.time

def Near (commitment : Commitment) : Prop := commitment.start < commitment.time + 2 ^ 31

instance (commitment : Commitment) : Decidable commitment.Near :=
  inferInstanceAs (Decidable (_ < _))

def request (commitment : Commitment) : Nat × TransmitPacket :=
  (commitment.time, commitment.entry.packet)

/-- What is asked of the gate for accepted entries: nothing for a beacon. -/
def requests (commitments : List Commitment) : List (Nat × TransmitPacket) :=
  (commitments.filter fun commitment => !commitment.entry.isBeacon).map request

theorem requests_append (first second : List Commitment) :
    requests (first ++ second) = requests first ++ requests second := by
  simp only [requests, List.filter_append, List.map_append]

theorem requests_singleton (commitment : Commitment) :
    requests [commitment] = if commitment.entry.isBeacon then [] else [commitment.request] := by
  cases beacon : commitment.entry.isBeacon <;> simp [requests, beacon]

theorem mem_requests {commitments : List Commitment} {asked : Nat × TransmitPacket} :
    asked ∈ requests commitments ↔
      ∃ commitment ∈ commitments, commitment.entry.isBeacon = false ∧
        commitment.request = asked := by
  simp only [requests, List.mem_map, List.mem_filter, Bool.not_eq_true', and_assoc]

end Commitment

theorem Commitment.booked {commitment : Commitment} {booking : Booking}
    (same : commitment.request = booking.request) :
    commitment.time = booking.time ∧ commitment.entry.packet = booking.packet ∧
      commitment.start = booking.start := by
  obtain ⟨time, packet⟩ := Prod.mk.inj same
  refine ⟨time, packet, ?_⟩
  rw [Booking.start, ← time, ← packet]
  rfl

/-- The reading of the counter at an event. -/
def SchedulerEvent.reading? : SchedulerEvent → Option UInt32
  | .call (.enqueue now _ _) => some now
  | .call (.peek _ now) => some now
  | .call (.pop _ now) => some now
  | .pass radio => radio.now?

/-- Events in the order of a clock that stands at a time behind them; each reads the clock modulo
one turn of the counter. -/
structure OnClock (events : List (Nat × SchedulerEvent)) (clock : Nat) : Prop where
  ordered : (events.map Prod.fst ++ [clock]).Pairwise (· ≤ ·)
  reads : ∀ event ∈ events, ∀ now ∈ event.2.reading?, now = Counter.ofTime event.1

namespace TxScheduler

open TxQueue

variable {scheduler after : TxScheduler} {gate : ListenGate} {chain clock : Nat} {now : UInt32}
variable {packet : TransmitPacket} {packetClass : PacketClass} {acceptance : TxAcceptance}
variable {event : Nat × SchedulerEvent} {events : List (Nat × SchedulerEvent)}
variable {promised : List Commitment} {entry : QueueEntry}

def commits (scheduler : TxScheduler) (event : Nat × SchedulerEvent) : List Commitment :=
  (scheduler.accepted event.2).map (Commitment.mk event.1)

/-- All entries that a run accepts, in their order. -/
def commitments (scheduler : TxScheduler) (events : List (Nat × SchedulerEvent)) :
    List Commitment :=
  gather (fun scheduler event => scheduler.apply event.2) commits scheduler events

/-- The queued entries of all chains that are to leave not before a time, beacons left out. -/
def waiting (scheduler : TxScheduler) (promised : List Commitment) (clock : Nat) :
    List QueueEntry :=
  ((List.range scheduler.chains.length).flatMap scheduler.entries).filter fun entry =>
    !entry.isBeacon &&
      promised.any fun commitment => commitment.entry = entry && clock ≤ commitment.start

theorem mem_waiting (member : entry ∈ scheduler.waiting promised clock) :
    (∃ chain, entry ∈ scheduler.entries chain) ∧ entry.isBeacon = false ∧
      ∃ commitment ∈ promised, commitment.entry = entry ∧ clock ≤ commitment.start := by
  simp only [waiting, List.mem_filter, List.mem_flatMap, List.mem_range, Bool.and_eq_true,
    Bool.not_eq_true', List.any_eq_true, decide_eq_true_eq] at member
  obtain ⟨⟨chain, -, queued⟩, other, pending⟩ := member
  exact ⟨⟨chain, queued⟩, other, pending⟩

theorem commitments_concat (scheduler : TxScheduler) (events : List (Nat × SchedulerEvent))
    (event : Nat × SchedulerEvent) :
    scheduler.commitments (events ++ [event]) =
      scheduler.commitments events ++ (scheduler.run (events.map Prod.snd)).commits event := by
  rw [commitments, gather_concat, run, List.foldl_map]
  rfl

theorem run_concat (scheduler : TxScheduler) (events : List (Nat × SchedulerEvent))
    (event : Nat × SchedulerEvent) :
    scheduler.run ((events ++ [event]).map Prod.snd) =
      (scheduler.run (events.map Prod.snd)).apply event.2 := by
  rw [List.map_append]
  exact List.foldl_concat ..

theorem times_commitments (scheduler : TxScheduler) (events : List (Nat × SchedulerEvent)) :
    ((scheduler.commitments events).map (·.time)).Sublist (events.map Prod.fst) := by
  induction events generalizing scheduler with
  | nil => exact .refl _
  | cons event rest induction =>
      have later := induction (scheduler.apply event.2)
      rw [commitments, gather, List.map_append, List.map_cons, commits]
      cases scheduler.applied event.2 with
      | refused request asked silent | looked silent =>
          rw [silent]
          exact later.cons _
      | accepted request asked new =>
          rw [new]
          exact later.cons_cons _

theorem times_requests (scheduler : TxScheduler) (events : List (Nat × SchedulerEvent)) :
    ((Commitment.requests (scheduler.commitments events)).map Prod.fst).Sublist
      (events.map Prod.fst) := by
  rw [Commitment.requests, List.map_map]
  exact (List.filter_sublist.map _).trans (scheduler.times_commitments events)

theorem booked_of_reserve {time : Nat} {reserved : Option ListenGate}
    (free : reserve (some gate) entry.packetClass entry.packet (Counter.ofTime time) =
      .ok reserved) :
    let requests := Commitment.requests [⟨time, entry⟩]
    reserved = some (gate.run requests) ∧
      (gate.bookings requests).map Booking.request = requests := by
  rw [reserve_some] at free
  rw [Commitment.requests_singleton]
  cases beacon : entry.isBeacon with
  | true =>
      rw [beacon] at free
      cases free
      exact ⟨rfl, rfl⟩
  | false =>
      rw [beacon] at free
      cases asked : gate.reserve entry.packet (Counter.ofTime time) with
      | error fault => simp [asked, Except.map] at free
      | ok answer =>
          simp only [asked, Except.map, Bool.false_eq_true, if_false, Except.ok.injEq] at free
          obtain ⟨ran, booked⟩ := ListenGate.run_of_reserve_ok asked
          exact ⟨free.symm.trans (congrArg some ran.symm), booked⟩

/-- The gate changes with what an event accepts and with nothing else. -/
theorem gate_apply (held : scheduler.gate = some gate)
    (reads : ∀ now ∈ event.2.reading?, now = Counter.ofTime event.1) :
    let requests := Commitment.requests (scheduler.commits event)
    (scheduler.apply event.2).gate = some (gate.run requests) ∧
      (gate.bookings requests).map Booking.request = requests := by
  obtain ⟨time, event⟩ := event
  cases scheduler.applied event with
  | refused request asked silent =>
      simp only [commits, silent]
      exact ⟨(enqueue_refused asked).gate.trans held, rfl⟩
  | looked silent same =>
      simp only [commits, silent]
      exact ⟨same.trans held, rfl⟩
  | @accepted now packet packetClass acceptance request asked new =>
      subst request
      obtain rfl : now = Counter.ofTime time := reads now rfl
      obtain ⟨_, _, queued⟩ := queued_of_enqueue asked
      have reserved := queued.reserved
      rw [held] at reserved
      simp only [commits, new]
      exact booked_of_reserve reserved

theorem gate_run (held : scheduler.gate = some gate)
    (reads : ∀ event ∈ events, ∀ now ∈ event.2.reading?, now = Counter.ofTime event.1) :
    let requests := Commitment.requests (scheduler.commitments events)
    (scheduler.run (events.map Prod.snd)).gate = some (gate.run requests) ∧
      (gate.bookings requests).map Booking.request = requests := by
  induction events using List.reverseRecOn with
  | nil => exact ⟨held, rfl⟩
  | append_singleton events event induction =>
      obtain ⟨readsBefore, readsLast⟩ := List.forall_mem_append.mp reads
      -- The gate after the events before is the one that the requests of the last event go to.
      obtain ⟨before, bookedBefore⟩ := induction readsBefore
      obtain ⟨last, bookedLast⟩ := gate_apply before (readsLast event List.mem_cons_self)
      simp only [commitments_concat, Commitment.requests_append, run_concat]
      rw [ListenGate.run_append, ListenGate.bookings_append, List.map_append, bookedBefore,
        bookedLast]
      exact ⟨last, rfl⟩

theorem kept_bookings (held : scheduler.gate = some gate) (onClock : OnClock events clock)
    (near : ∀ commitment ∈ scheduler.commitments events, commitment.Near) :
    let requests := Commitment.requests (scheduler.commitments events)
    ListenGate.Kept (gate.bookings requests) clock (gate.run requests) := by
  intro requests
  obtain ⟨-, booked⟩ := gate_run held onClock.reads
  refine .run gate ?_ fun booking member => ?_
  · exact onClock.ordered.sublist ((scheduler.times_requests events).append_right _)
  · have asked := List.mem_map_of_mem (f := Booking.request) member
    rw [booked] at asked
    obtain ⟨commitment, among, -, same⟩ := Commitment.mem_requests.mp asked
    obtain ⟨time, -, leaves⟩ := Commitment.booked same
    have nearby := near commitment among
    rw [Commitment.Near, leaves, time] at nearby
    exact nearby

theorem booking_of_waiting (held : scheduler.gate = some gate) (onClock : OnClock events clock)
    (member : entry ∈ after.waiting (scheduler.commitments events) clock) :
    ∃ booking ∈ gate.bookings (Commitment.requests (scheduler.commitments events)),
      booking.packet = entry.packet ∧ clock ≤ booking.start := by
  obtain ⟨-, booked⟩ := gate_run held onClock.reads
  obtain ⟨-, other, commitment, among, rfl, pending⟩ := mem_waiting member
  have asked := Commitment.mem_requests.mpr ⟨commitment, among, other, rfl⟩
  rw [← booked] at asked
  obtain ⟨booking, made, same⟩ := List.mem_map.mp asked
  obtain ⟨-, packet, leaves⟩ := Commitment.booked same.symm
  exact ⟨booking, made, packet.symm, leaves ▸ pending⟩

theorem spaced_apply (spaced : Spaced (scheduler.entries chain)) (event : SchedulerEvent) :
    Spaced ((scheduler.apply event).entries chain) := by
  have accounts := scheduler.apply_accounts event chain
  rw [List.append_assoc] at accounts
  have fewer := (List.sublist_append_left _ _).subperm.trans accounts.symm.subperm
  refine Spaced.subperm ?_ fewer
  -- An event can only take entries away from what was queued and what it accepts.
  cases scheduler.applied event with
  | refused request asked silent | looked silent =>
      rw [silent]
      exact spaced
  | @accepted now packet packetClass acceptance request asked new =>
      rw [new]
      by_cases own : packet.rfChain.toNat = chain
      · subst own
        obtain ⟨held, fitted, queued⟩ := queued_of_enqueue asked
        rw [entries_of_queue? (queue?_of_chain queued.found)] at spaced ⊢
        have admitted := queued.admitted
        simpa [QueueEntry.isOn, TxAcceptance.entry] using spaced.cons admitted
      · simpa [QueueEntry.isOn, TxAcceptance.entry, own] using spaced

theorem spaced_run (envelopes : List TxEnvelope) (gate : Option ListenGate)
    (events : List SchedulerEvent) (chain : Nat) :
    Spaced (((ofEnvelopes envelopes gate).run events).entries chain) := by
  induction events using List.reverseRecOn with
  | nil =>
      rw [run, List.foldl_nil, entries_ofEnvelopes]
      exact .nil
  | append_singleton events event induction =>
      rw [run, List.foldl_concat]
      exact spaced_apply induction event

theorem nodup_waiting (envelopes : List TxEnvelope) (gate : Option ListenGate)
    (events : List SchedulerEvent) (promised : List Commitment) (clock : Nat) :
    (((ofEnvelopes envelopes gate).run events).waiting promised clock).Nodup := by
  refine List.Nodup.filter _ (List.nodup_flatMap.mpr ⟨fun chain _ => ?_, ?_⟩)
  · exact .of_map _ (spaced_run envelopes gate events chain).sendTimes_nodup
  · refine List.nodup_range.imp fun different => ?_
    intro entry first second
    exact different ((accepted_of_mem_entries first).2.symm.trans
      (accepted_of_mem_entries second).2)

theorem eq_of_packet_eq {envelopes : List TxEnvelope} {gate : Option ListenGate}
    {events : List SchedulerEvent} {first second : QueueEntry} {here there : Nat}
    (queued : first ∈ ((ofEnvelopes envelopes gate).run events).entries here)
    (queuedToo : second ∈ ((ofEnvelopes envelopes gate).run events).entries there)
    (same : first.packet = second.packet) : first = second := by
  obtain rfl : here = there := by
    rw [← (accepted_of_mem_entries queued).2, ← (accepted_of_mem_entries queuedToo).2, same]
  -- On one chain the send time tells an entry from all others.
  have times := (spaced_run envelopes gate events here).sendTimes_nodup
  exact List.inj_on_of_nodup_map times queued queuedToo (congrArg TransmitPacket.counter same)

/-- With a gate, on a clock that does not go back and with every accepted packet less than half a
turn of the counter ahead: every accepted packet that is no beacon is booked once, and its slot
holds its channel and send time until that time has passed. So the waiting entries of all chains
have busy slots of their own, and there are never more of them than slots. -/
theorem waiting_entries_hold_slots (envelopes : List TxEnvelope) (gate : ListenGate)
    (events : List (Nat × SchedulerEvent)) (clock : Nat) (onClock : OnClock events clock)
    (near : ∀ commitment ∈ (ofEnvelopes envelopes (some gate)).commitments events,
      commitment.Near) :
    let start := ofEnvelopes envelopes (some gate)
    let reached := start.run (events.map Prod.snd)
    let promised := start.commitments events
    let made := gate.bookings (Commitment.requests promised)
    let waiting := reached.waiting promised clock
    ∃ listening, reached.gate = some listening ∧
      made.map Booking.request = Commitment.requests promised ∧
      (∀ booking ∈ made, clock ≤ booking.start →
        listening.slots[booking.slot]? = some (some booking.reservation)) ∧
      (∃ slotOf : QueueEntry → Nat, (waiting.map slotOf).Nodup ∧
        ∀ entry ∈ waiting,
          listening.slots[slotOf entry]? = some (some (.ofPacket entry.packet)) ∧
          ListenGate.isFree (Counter.ofTime clock) (some (.ofPacket entry.packet)) = false) ∧
      waiting.length ≤ gate.slots.length := by
  intro start reached promised made waiting
  have begins : start.gate = some gate := rfl
  obtain ⟨reachedGate, booked⟩ := gate_run begins onClock.reads
  have kept := kept_bookings begins onClock near
  have held : ∀ entry ∈ waiting, ∃ slot, ∃ booking ∈ made, booking.slot = slot ∧
      booking.packet = entry.packet ∧ clock ≤ booking.start := by
    intro entry member
    obtain ⟨booking, bookedFor, packet, pending⟩ := booking_of_waiting begins onClock member
    exact ⟨booking.slot, booking, bookedFor, rfl, packet, pending⟩
  choose! slotOf held using held
  have distinct : (waiting.map slotOf).Nodup := by
    refine (nodup_waiting envelopes (some gate) _ promised clock).map_on ?_
    intro first member second memberToo same
    obtain ⟨booking, bookedFor, slot, packet, pending⟩ := held first member
    obtain ⟨other, bookedToo, slotToo, packetToo, pendingToo⟩ := held second memberToo
    -- Both bookings are pending, and a slot has one pending booking only.
    have latest := kept.latest?_eq bookedFor pending
    rw [slot, same, ← slotToo, kept.latest?_eq bookedToo pendingToo] at latest
    cases latest
    obtain ⟨⟨here, queued⟩, -⟩ := mem_waiting member
    obtain ⟨⟨there, queuedToo⟩, -⟩ := mem_waiting memberToo
    exact eq_of_packet_eq queued queuedToo (packet.symm.trans packetToo)
  have inSlot : ∀ entry ∈ waiting,
      (gate.run (Commitment.requests promised)).slots[slotOf entry]? =
        some (some (.ofPacket entry.packet)) ∧
      ListenGate.isFree (Counter.ofTime clock) (some (.ofPacket entry.packet)) = false := by
    intro entry member
    obtain ⟨booking, bookedFor, slot, packet, pending⟩ := held entry member
    rw [← slot, ← packet]
    refine ⟨kept.held booking bookedFor pending, ?_⟩
    exact (kept.isFree_eq bookedFor).trans (Booking.not_spent_of_pending pending)
  refine ⟨_, reachedGate, booked, kept.held, ⟨slotOf, distinct, inSlot⟩, ?_⟩
  have inside : waiting.map slotOf ⊆ List.range gate.slots.length := by
    intro slot taken
    obtain ⟨entry, member, rfl⟩ := List.mem_map.mp taken
    rw [List.mem_range, ← gate.slots_length_run]
    exact (List.getElem?_eq_some_iff.mp (inSlot entry member).1).1
  have fewer := (distinct.subperm inside).length_le
  rwa [List.length_map, List.length_range] at fewer

/-- Requests on three chains; the slot of the first one is free again when the last one comes, and
the counter wraps before the pass. -/
def eventsOverWrap : List (Nat × SchedulerEvent) :=
  [(4294900000, .call (.enqueue 4294900000 { counter := 4294960000 } .classA)),
    (4294900000, .call (.enqueue 4294900000 { counter := 10000000, rfChain := 2 } .beacon)),
    (4294900010, .call (.enqueue 4294900010
      { counter := 100000, rfChain := 1, frequency := 869525000 } .classB)),
    (4294925000, .call (.pop 0 4294925000)),
    (4294961000, .call (.enqueue 4294961000 { counter := 200000 } .classA)),
    (4294967300, .pass { offset := 4 })]

theorem both_waiting_hold_slots_over_wrap :
    let start := ofEnvelopes [{}, {}, {}] (some (.ofSize 2))
    let reached := start.run (eventsOverWrap.map Prod.snd)
    let promised := start.commitments eventsOverWrap
    OnClock eventsOverWrap 4294967400 ∧ (∀ commitment ∈ promised, commitment.Near) ∧
    (reached.waiting promised 4294967400).map (·.sendTime) = [200000, 100000] ∧
    ∃ (listening : ListenGate) (slot other : Nat), reached.gate = some listening ∧
      slot ≠ other ∧
      listening.slots[slot]? = some (some ⟨868100000, 200000⟩) ∧
      listening.slots[other]? = some (some ⟨869525000, 100000⟩) := by
  intro start reached promised
  have onClock : OnClock eventsOverWrap 4294967400 := by
    refine ⟨by decide, ?_⟩
    simp only [eventsOverWrap, List.forall_mem_cons, SchedulerEvent.reading?, Concentrator.now?,
      Concentrator.counter, if_true, Option.mem_def, Option.some.injEq, forall_eq']
    exact ⟨rfl, rfl, rfl, rfl, rfl, rfl, by simp⟩
  have near : ∀ commitment ∈ promised, commitment.Near := by decide +kernel
  have waiting : reached.waiting promised 4294967400 =
      [⟨.classA, { counter := 200000 }, 41500, 25856⟩,
        ⟨.classB, { counter := 100000, rfChain := 1, frequency := 869525000 }, 41500, 25856⟩] := by
    decide +kernel
  obtain ⟨listening, held, -, -, ⟨slotOf, distinct, inSlot⟩, -⟩ :=
    waiting_entries_hold_slots [{}, {}, {}] (.ofSize 2) eventsOverWrap _ onClock near
  rw [waiting] at distinct inSlot
  have first := (inSlot _ List.mem_cons_self).1
  have second := (inSlot _ (List.mem_cons_of_mem _ List.mem_cons_self)).1
  refine ⟨onClock, near, ?_, listening, _, _, held, ?_, first, second⟩
  · rw [waiting]
    rfl
  · simpa using distinct

end TxScheduler

end LorawanGateway
