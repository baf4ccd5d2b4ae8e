import LorawanGateway.Proofs.Transmit.QueueHistory
import Mathlib.Data.List.Chain

/-!
The order in which a queue hands out its entries, on an absolute clock whose value modulo 2^32 is
the counter. What a request is promised is an absolute time, the clock at acceptance and the way to
the send time; the queue keeps the send time only. As long as the queue is looked at often enough,
an entry whose time has passed is met while it still seems far ahead and is dropped. So what is
taken is due at the promised time and not a turn of the counter later, and as nothing accepted after
a taking is promised an earlier time, the promised times of all takings ascend.
-/

namespace LorawanGateway

open TxQueue

namespace QueueCall

def asks : QueueCall → Bool
  | enqueue _ _ _ => true
  | accept _ _ _ => false
  | peek _ => false
  | pop _ => false

end QueueCall

def lookTimes (calls : List (Nat × QueueCall)) : List Nat :=
  (calls.filter (·.2.looks)).map Prod.fst

def askTimes (calls : List (Nat × QueueCall)) : List Nat :=
  (calls.filter (·.2.asks)).map Prod.fst

/-- Whether a queue is looked at often enough: before the next look, an entry that was missed at one
has not come round so far that it seems to lie ahead again. -/
def Watched (looks : List Nat) : Prop :=
  looks.IsChain fun earlier later => later ≤ earlier + (2 ^ 32 - Timing.maxAdvance.toNat)

instance (looks : List Nat) : Decidable (Watched looks) :=
  inferInstanceAs (Decidable (List.IsChain _ looks))

/-- What was promised last for a send time: the clock at the acceptance plus the way from there to
the send time. -/
def promised? (past : List TxRecord) (sendTime : UInt32) : Option Nat :=
  past.reverse.findSome? fun
    | .accepted time accepted =>
      if accepted = sendTime then some (Counter.next accepted time) else none
    | .handedOver _ _ => none

theorem promised?_append_accepted (past : List TxRecord) (time : Nat)
    (accepted sendTime : UInt32) :
    promised? (past ++ [.accepted time accepted]) sendTime =
      if accepted = sendTime then some (Counter.next accepted time)
      else promised? past sendTime := by
  simp only [promised?, List.reverse_append, List.reverse_singleton, List.singleton_append,
    List.findSome?_cons]
  by_cases same : accepted = sendTime
  · simp only [if_pos same]
  · simp only [if_neg same]

theorem promised?_append_handedOver (past : List TxRecord) (time : Nat) (entry : QueueEntry)
    (sendTime : UInt32) :
    promised? (past ++ [.handedOver time entry]) sendTime = promised? past sendTime := by
  simp only [promised?, List.reverse_append, List.reverse_singleton, List.singleton_append,
    List.findSome?_cons]

/-- The times of all takings on record, each with what was promised for the entry taken. -/
def departures (past : List TxRecord) : List TxRecord → List (Nat × Option Nat)
  | [] => []
  | .accepted time sendTime :: rest => departures (past ++ [.accepted time sendTime]) rest
  | .handedOver time entry :: rest =>
    (time, promised? past entry.sendTime) :: departures (past ++ [.handedOver time entry]) rest

theorem departures_append (past first second : List TxRecord) :
    departures past (first ++ second) =
      departures past first ++ departures (past ++ first) second := by
  induction first generalizing past with
  | nil => simp [departures]
  | cons record rest induction =>
      cases record with
      | accepted time sendTime =>
          simp only [List.cons_append, departures, induction, List.append_assoc, List.nil_append]
      | handedOver time entry =>
          simp only [List.cons_append, departures, induction, List.append_assoc, List.nil_append]

/-- What holds of the promises for the queued entries at a time of a run: none lies before the last
look at the queue, and none farther ahead than one turn of the counter. -/
def Promised (past : List TxRecord) (since clock : Nat) (entries : List QueueEntry) : Prop :=
  ∀ entry ∈ entries, ∃ start, promised? past entry.sendTime = some start ∧
    since ≤ start ∧ start < clock + 2 ^ 32 ∧ start % 2 ^ 32 = entry.sendTime.toNat

namespace Promised

variable {past : List TxRecord} {since clock later time : Nat} {before after : List QueueEntry}
variable {queue : TxQueue} {entry : QueueEntry}

theorem fewer (promised : Promised past since clock before) (kept : after ⊆ before) :
    Promised past since clock after :=
  fun entry member => promised entry (kept member)

theorem wait (promised : Promised past since clock before) (passed : clock ≤ later) :
    Promised past since later before := by
  intro entry member
  obtain ⟨start, found, pending, near, shows⟩ := promised entry member
  exact ⟨start, found, pending, by omega, shows⟩

theorem accept {packet : TransmitPacket} {packetClass : PacketClass}
    (promised : Promised past since clock before) (passed : since ≤ clock)
    (admitted : Admitted before (Counter.ofTime clock) packet packetClass entry)
    (joined : after.Perm (entry :: before)) :
    Promised (past ++ [.accepted clock entry.sendTime]) since clock after := by
  intro other member
  rw [promised?_append_accepted]
  rcases List.mem_cons.mp (joined.mem_iff.mp member) with rfl | among
  · rw [if_pos rfl]
    exact ⟨_, rfl, Nat.le_trans passed (Counter.le_next _ _), Counter.next_lt _ _,
      Counter.next_mod _ _⟩
  · rw [if_neg (admitted.sendTime_ne among)]
    exact promised other among

/-- What is current at a look leaves when it was promised to. An entry that has been missed since
the last look would seem `Timing.maxAdvance` or more ahead. -/
theorem look (promised : Promised past since clock queue.entries)
    (watched : time ≤ since + (2 ^ 32 - Timing.maxAdvance.toNat)) (passed : clock ≤ time)
    (current : entry ∈ queue.current (Counter.ofTime time)) :
    promised? past entry.sendTime = some (entry.startFrom time) := by
  obtain ⟨member, near⟩ := mem_current.mp current
  obtain ⟨start, found, pending, bounded, shows⟩ := promised entry member
  have leaves : entry.startFrom time < time + Timing.maxAdvance.toNat :=
    Nat.add_lt_add_left near time
  have reached : time ≤ entry.startFrom time := Counter.le_next _ _
  have same : entry.startFrom time % 2 ^ 32 = entry.sendTime.toNat := Counter.next_mod _ _
  have onTime : entry.startFrom time = start := by
    rw [Timing.toNat_maxAdvance] at watched leaves
    omega
  rw [found, onTime]

/-- What is left after a look was promised for that time or later. -/
theorem afterLook (promised : Promised past since clock queue.entries)
    (watched : time ≤ since + (2 ^ 32 - Timing.maxAdvance.toNat)) (passed : clock ≤ time)
    (left : ∀ entry ∈ after, entry ∈ queue.current (Counter.ofTime time)) :
    Promised past time time after := by
  intro entry member
  refine ⟨_, promised.look watched passed (left entry member), ?_, ?_, ?_⟩
  · exact Counter.le_next _ _
  · exact Counter.next_lt _ _
  · exact Counter.next_mod _ _

/-- One call keeps the promises, and what it takes leaves when it was promised to. A look starts the
span anew in which the next one has to come. -/
theorem apply {call : QueueCall} {rest : List (Nat × QueueCall)}
    (promised : Promised past since clock queue.entries) (behind : since ≤ clock)
    (passed : clock ≤ time) (onClock : call.now = Counter.ofTime time)
    (watched : Watched (since :: lookTimes ((time, call) :: rest))) :
    departures past (queue.records time call) =
        (takings (queue.records time call)).map (fun taking => (taking.1, some taking.2)) ∧
      ∃ last ≤ time, Promised (past ++ queue.records time call) last time
          (queue.apply call).entries ∧
        Watched (last :: lookTimes rest) := by
  have waiting := promised.wait passed
  cases call with
  | enqueue now packet packetClass =>
      obtain rfl : now = Counter.ofTime time := onClock
      cases asked : queue.enqueue (Counter.ofTime time) packet packetClass with
      | mk outcome after =>
          simp only [TxQueue.records, TxQueue.apply, asked]
          cases outcome with
          | error fault =>
              have kept := waiting.fewer (enqueue_error asked).subset
              exact ⟨rfl, since, by omega, by simpa using kept, watched⟩
          | ok sendTime =>
              obtain ⟨entry, rfl, admitted, joined⟩ := enqueue_ok asked
              exact ⟨rfl, since, by omega, waiting.accept (by omega) admitted joined, watched⟩
  | accept now packet packetClass =>
      have kept := waiting.fewer (queue.accept_perm now packet packetClass).subset
      exact ⟨rfl, since, by omega, by simpa [TxQueue.records, TxQueue.apply] using kept, watched⟩
  | peek now =>
      obtain rfl : now = Counter.ofTime time := onClock
      obtain ⟨soon, watchedRest⟩ := List.isChain_cons_cons.mp watched
      have kept := promised.afterLook soon passed
        fun entry member => mem_current_of_looks (.peek (Counter.ofTime time)) rfl member
      exact ⟨rfl, time, Nat.le_refl _, by simpa [TxQueue.records] using kept, watchedRest⟩
  | pop now =>
      obtain rfl : now = Counter.ofTime time := onClock
      obtain ⟨soon, watchedRest⟩ := List.isChain_cons_cons.mp watched
      have kept := promised.afterLook soon passed
        fun entry member => mem_current_of_looks (.pop (Counter.ofTime time)) rfl member
      cases taken : queue.pop (Counter.ofTime time) with
      | mk outcome after =>
          simp only [TxQueue.records, TxQueue.apply, taken] at kept ⊢
          cases outcome with
          | none => exact ⟨rfl, time, Nat.le_refl _, by simpa using kept, watchedRest⟩
          | some entry =>
              have current := (pop_some taken).1.mem_iff.mpr List.mem_cons_self
              have leaves := promised.look soon passed current
              refine ⟨?_, time, Nat.le_refl _, ?_, watchedRest⟩
              · simp only [Option.map_some, Option.toList_some, departures, leaves]
                rfl
              · intro other member
                simpa [promised?_append_handedOver] using kept other member

/-- Over a run, everything taken leaves when it was promised to. -/
theorem departures_history {calls : List (Nat × QueueCall)}
    (promised : Promised past since clock queue.entries) (behind : since ≤ clock)
    (onClock : ∀ event ∈ calls, event.2.now = Counter.ofTime event.1)
    (ordered : (clock :: calls.map Prod.fst).Pairwise (· ≤ ·))
    (watched : Watched (since :: lookTimes calls)) :
    departures past (queue.history calls) =
      (takings (queue.history calls)).map fun taking => (taking.1, some taking.2) := by
  induction calls generalizing queue past since clock with
  | nil => rfl
  | cons event rest induction =>
      obtain ⟨time, call⟩ := event
      obtain ⟨future, following⟩ := List.pairwise_cons.mp ordered
      obtain ⟨now, onClockRest⟩ := List.forall_mem_cons.mp onClock
      obtain ⟨here, last, reached, kept, watchedRest⟩ :=
        promised.apply behind (future time List.mem_cons_self) now watched
      have there := induction kept reached onClockRest following watchedRest
      simp only [TxQueue.history, departures_append, takings_append, List.map_append, here, there]

end Promised

namespace TxQueue

variable {queue : TxQueue} {calls : List (Nat × QueueCall)}

/-- Nothing is promised before the first request, and from then on promises are watched. -/
theorem departures_of_empty (none : queue.entries = [])
    (onClock : ∀ event ∈ calls, event.2.now = Counter.ofTime event.1)
    (ordered : (calls.map Prod.fst).Pairwise (· ≤ ·))
    (watched : Watched ((askTimes calls).take 1 ++ lookTimes calls)) :
    departures [] (queue.history calls) =
      (takings (queue.history calls)).map fun taking => (taking.1, some taking.2) := by
  induction calls generalizing queue with
  | nil => rfl
  | cons event rest induction =>
      obtain ⟨time, call⟩ := event
      have nothing : Promised [] time time queue.entries := by
        rw [none]
        intro entry member
        cases member
      have fromHere : (time :: ((time, call) :: rest).map Prod.fst).Pairwise (· ≤ ·) := by
        refine List.pairwise_cons.mpr ⟨?_, ordered⟩
        intro later member
        rcases List.mem_cons.mp member with rfl | member
        · exact Nat.le_refl _
        · exact List.rel_of_pairwise_cons ordered member
      have looked (look : lookTimes ((time, call) :: rest) = time :: lookTimes rest) :
          departures [] (queue.history ((time, call) :: rest)) =
            (takings (queue.history ((time, call) :: rest))).map
              fun taking => (taking.1, some taking.2) := by
        have again := watched.right_of_append
        refine nothing.departures_history (Nat.le_refl _) onClock fromHere ?_
        rw [look] at again ⊢
        exact List.isChain_cons_cons.mpr ⟨Nat.le_add_right _ _, again⟩
      cases call with
      | enqueue now packet packetClass =>
          exact nothing.departures_history (Nat.le_refl _) onClock fromHere watched
      | accept now packet packetClass =>
          have still : (queue.accept now packet packetClass).2.entries = [] :=
            (none ▸ queue.accept_perm now packet packetClass).eq_nil
          exact induction still (List.forall_mem_cons.mp onClock).2
            (List.pairwise_cons.mp ordered).2 watched
      | peek now => exact looked rfl
      | pop now => exact looked rfl

/-- A queue that is looked at often enough takes every entry less than the lead before the absolute
time that was promised at its acceptance, and the promised times of what is taken ascend. At no time
do two entries share a send time, so that the last acceptance for a send time is that of the entry
taken. -/
theorem taken_on_time_and_in_order (capacity beaconTarget : Nat) (calls : List (Nat × QueueCall))
    (onClock : ∀ event ∈ calls, event.2.now = Counter.ofTime event.1)
    (ordered : (calls.map Prod.fst).Pairwise (· ≤ ·))
    (watched : Watched ((askTimes calls).take 1 ++ lookTimes calls)) :
    let departures := departures [] ((empty capacity beaconTarget).history calls)
    (∀ departure ∈ departures, ∃ start, departure.2 = some start ∧
        departure.1 ≤ start ∧ start < departure.1 + Timing.lead.toNat) ∧
      (departures.Pairwise fun earlier later =>
        ∀ start ∈ earlier.2, ∀ laterStart ∈ later.2, start < laterStart) ∧
      ∀ reached, reached <+: calls →
        ((empty capacity beaconTarget).run (reached.map Prod.snd)).entries.Pairwise
          fun entry other => entry.sendTime ≠ other.sendTime := by
  have fromStart : (0 :: calls.map Prod.fst).Pairwise (· ≤ ·) :=
    List.pairwise_cons.mpr ⟨fun _ _ => Nat.zero_le _, ordered⟩
  have nothing : (empty capacity beaconTarget).entries = [] := rfl
  have start : Orderly [] 0 (empty capacity beaconTarget).entries := .nil 0
  obtain ⟨now, orderly⟩ := orderly_history start onClock fromStart
  have same := departures_of_empty nothing onClock ordered watched
  have near := takings_near onClock (empty capacity beaconTarget)
  intro departures
  change departures = _ at same
  rw [same]
  refine ⟨?_, List.pairwise_map.mpr (orderly.takings_pairwise.imp ?_), ?_⟩
  · intro departure member
    obtain ⟨taking, taken, rfl⟩ := List.mem_map.mp member
    exact ⟨taking.2, rfl, near taking taken⟩
  · intro earlier later ascending start first laterStart second
    cases first
    cases second
    exact ascending
  · intro reached _
    have spaced : Spaced (empty capacity beaconTarget).entries := .nil
    exact (spaced.run (reached.map Prod.snd)).apart.imp fun apart => apart.1.1

/-- An answer before the counter wraps, and one behind, asked for between the takings. -/
def answersOverWrap : List (Nat × QueueCall) :=
  [(4294900000, .enqueue 4294900000 { counter := 4294950000 } .classA),
    (4294915000, .pop 4294915000),
    (4294920000, .enqueue 4294920000 { counter := 100000 } .classA),
    (4294990000, .peek 22704),
    (4295030000, .pop 62704)]

theorem answers_taken_over_wrap :
    (∀ event ∈ answersOverWrap, event.2.now = Counter.ofTime event.1) ∧
    (answersOverWrap.map Prod.fst).Pairwise (· ≤ ·) ∧
    Watched ((askTimes answersOverWrap).take 1 ++ lookTimes answersOverWrap) ∧
    departures [] ((empty 32 3).history answersOverWrap) =
      [(4294915000, some 4294950000), (4295030000, some 4295067296)] ∧
    (4295030000 ≤ 4295067296 ∧ 4295067296 < 4295030000 + Timing.lead.toNat) ∧
    4294950000 < 4295067296 := by
  have onClock : ∀ event ∈ answersOverWrap, event.2.now = Counter.ofTime event.1 := by decide
  have ordered : (answersOverWrap.map Prod.fst).Pairwise (· ≤ ·) := by decide
  have watched : Watched ((askTimes answersOverWrap).take 1 ++ lookTimes answersOverWrap) := by
    decide
  have taken : departures [] ((empty 32 3).history answersOverWrap) =
      [(4294915000, some 4294950000), (4295030000, some 4295067296)] := by decide +kernel
  have kept := taken_on_time_and_in_order 32 3 answersOverWrap onClock ordered watched
  simp only [taken] at kept
  obtain ⟨onTime, ascending, -⟩ := kept
  obtain ⟨start, same, near⟩ := onTime (4295030000, some 4295067296) (by simp)
  cases same
  have before := List.rel_of_pairwise_cons ascending List.mem_cons_self
  exact ⟨onClock, ordered, watched, taken, near, before _ rfl _ rfl⟩

end TxQueue

end LorawanGateway
