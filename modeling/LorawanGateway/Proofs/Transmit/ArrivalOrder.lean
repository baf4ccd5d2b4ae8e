import Mathlib.Data.List.Nodup
import LorawanGateway.Proofs.Transmit.Places
import LorawanGateway.Proofs.Transmit.Separation

/-!
The order in which answers are requested. Whether a queue takes an answer of class A or B depends on
its entries and not on their order, and two such answers are tested against each other in the same
way whichever comes first. As no two entries share a send time, the entries have one order, and so
two answers that a queue takes one after the other leave the same queue the other way round.
-/

namespace LorawanGateway

/-- Whether an entry passes the collision test against one that was there before it. -/
def QueueEntry.ClearOf (entry other : QueueEntry) : Prop :=
  collides entry.sendTime (TxQueue.guardAgainst entry.packetClass other entry.pre) entry.post
    other.sendTime other.pre other.post = false

namespace TxQueue

open QueueEntry

variable {queue after : TxQueue} {entries others : List QueueEntry}
variable {entry first second : QueueEntry}
variable {now time : UInt32} {packet : TransmitPacket} {packetClass : PacketClass}

/-- Entries of different send times have one order. -/
theorem inOrder_eq_of_perm (same : entries.Perm others)
    (distinct : (entries.map QueueEntry.sendTime).Nodup) :
    inOrder now entries = inOrder now others := by
  have reordered : (inOrder now entries).Perm (inOrder now others) :=
    (inOrder_perm now entries).trans (same.trans (inOrder_perm now others).symm)
  refine List.Perm.eq_of_pairwise (fun first second among there before behind => ?_)
    (inOrder_pairwise now entries) (inOrder_pairwise now others) reordered
  have equallyFar : first.ahead now = second.ahead now :=
    UInt32.toNat_inj.mp (Nat.le_antisymm before behind)
  have together : first.sendTime = second.sendTime := (UInt32.sub_left_inj now).mp equallyFar
  refine List.inj_on_of_nodup_map distinct ?_ ?_ together
  · exact (inOrder_perm now entries).mem_iff.mp among
  · exact same.mem_iff.mpr ((inOrder_perm now others).mem_iff.mp there)

/-- The queue with one entry more, in order. -/
def join (queue : TxQueue) (now : UInt32) (entry : QueueEntry) : TxQueue :=
  (queue.sorted now).insert now entry

theorem sorted_append_perm (queue : TxQueue) (now : UInt32) (entry : QueueEntry) :
    ((queue.sorted now).entries ++ [entry]).Perm (entry :: queue.entries) :=
  (List.perm_append_singleton entry _).trans ((queue.sorted_perm now).cons entry)

theorem join_perm (queue : TxQueue) (now : UInt32) (entry : QueueEntry) :
    (queue.join now entry).entries.Perm (entry :: queue.entries) :=
  (inOrder_perm now _).trans (queue.sorted_append_perm now entry)

theorem join_join (distinct : ((second :: first :: queue.entries).map sendTime).Nodup) :
    (queue.join now first).join now second = (queue.join now second).join now first := by
  have oneWay := (sorted_append_perm (queue.join now first) now second).trans
    ((queue.join_perm now first).cons second)
  have otherWay := (sorted_append_perm (queue.join now second) now first).trans
    ((queue.join_perm now second).cons first)
  have swapped := oneWay.trans ((List.Perm.swap first second queue.entries).trans otherWay.symm)
  have entriesSame : ((queue.join now first).join now second).entries =
      ((queue.join now second).join now first).entries :=
    inOrder_eq_of_perm swapped ((oneWay.map sendTime).nodup_iff.mpr distinct)
  have countSame : ((queue.join now first).join now second).beaconCount =
      ((queue.join now second).join now first).beaconCount := Nat.add_right_comm ..
  exact congrArg₂ (TxQueue.mk · queue.capacity queue.beaconTarget ·) entriesSame countSame

/-- What admission asks of a queue and an entry: a place, enough notice, and no collision. -/
structure Takes (queue : TxQueue) (now : UInt32) (entry : QueueEntry) : Prop where
  place : queue.hasPlace entry.packetClass = true
  timely : timingFault? entry.packetClass (entry.ahead now) = none
  clear : ∀ other ∈ queue.entries, entry.ClearOf other

theorem collision?_eq_none_iff :
    collision? entries entry = none ↔ ∀ other ∈ entries, entry.ClearOf other := by
  simp only [collision?, Option.map_eq_none_iff, List.find?_eq_none, Bool.not_eq_true, ClearOf]

theorem takes_iff : queue.Takes now entry ↔ queue.hasPlace entry.packetClass = true ∧
    fault? (queue.sorted now).entries now entry = none := by
  rw [fault?, Option.or_eq_none_iff, collision?_eq_none_iff]
  simp only [(queue.sorted_perm now).mem_iff]
  exact ⟨fun takes => ⟨takes.place, takes.timely, takes.clear⟩,
    fun asked => ⟨asked.1, asked.2.1, asked.2.2⟩⟩

/-- The entry of an answer that leaves at the time it was requested for. -/
def requested (packet : TransmitPacket) (packetClass : PacketClass) : QueueEntry :=
  ⟨packetClass, packet, (occupied packetClass packet).1, (occupied packetClass packet).2⟩

theorem newcomer_eq_requested (chosen : packetClass ≠ .classC) :
    newcomer entries now packet packetClass = requested packet packetClass := by
  rw [newcomer, placed_of_ne chosen, requested]

theorem enqueue_eq_ok_iff (chosen : packetClass ≠ .classC) :
    queue.enqueue now packet packetClass = (.ok time, after) ↔
      queue.Takes now (requested packet packetClass) ∧ packet.counter = time ∧
        queue.join now (requested packet packetClass) = after := by
  rw [takes_iff, enqueue, accept_eq, newcomer_eq_requested chosen, requested, join]
  dsimp only
  by_cases place : queue.hasPlace packetClass = true
  · rw [if_pos place]
    cases fault? (queue.sorted now).entries now _ with
    | none => simp [place, QueueEntry.sendTime]
    | some fault => simp
  · rw [if_neg place]
    simp [place]

/-- Answers are tested against each other in the same way, whichever was there before. -/
theorem clearOf_comm (firstAnswer : first.packetClass ≠ .beacon)
    (secondAnswer : second.packetClass ≠ .beacon) :
    first.ClearOf second ↔ second.ClearOf first := by
  have guardSame {entry other : QueueEntry} (answer : other.packetClass ≠ .beacon) :
      guardAgainst entry.packetClass other entry.pre = entry.pre := by
    unfold guardAgainst
    split <;> simp_all
  rw [ClearOf, ClearOf, guardSame firstAnswer, guardSame secondAnswer, collides, collides,
    Bool.or_comm]

theorem hasPlace_join (answer : entry.packetClass ≠ .beacon) (chosen : packetClass ≠ .beacon) :
    (queue.join now entry).hasPlace packetClass = true ↔
      queue.size + 1 + (queue.beaconTarget - queue.beaconCount) < queue.capacity := by
  have larger : (queue.join now entry).size = queue.size + 1 :=
    (queue.join_perm now entry).length_eq
  have noBeacon : (queue.join now entry).beaconCount = queue.beaconCount := by
    simp [join, insert, isBeacon, answer, sorted]
  rw [hasPlace_of_ne_beacon chosen, larger, noBeacon]
  rfl

/-- Two answers that a queue takes one after the other it takes the other way round too. -/
theorem Takes.swap (firstAnswer : first.packetClass ≠ .beacon)
    (secondAnswer : second.packetClass ≠ .beacon) (takesFirst : queue.Takes now first)
    (takesSecond : (queue.join now first).Takes now second) :
    queue.Takes now second ∧ (queue.join now second).Takes now first := by
  have room := (hasPlace_join firstAnswer secondAnswer).mp takesSecond.place
  have others (other) (member : other ∈ first :: queue.entries) : second.ClearOf other :=
    takesSecond.clear other ((queue.join_perm now first).mem_iff.mpr member)
  constructor
  · constructor
    case place => exact (hasPlace_of_ne_beacon secondAnswer).mpr (by omega)
    case timely => exact takesSecond.timely
    case clear => exact fun other member => others other (List.mem_cons_of_mem first member)
  · constructor
    case place => exact (hasPlace_join secondAnswer firstAnswer).mpr room
    case timely => exact takesFirst.timely
    case clear =>
      intro other member
      rcases List.mem_cons.mp ((queue.join_perm now second).mem_iff.mp member) with rfl | before
      · exact (clearOf_comm secondAnswer firstAnswer).mp (others first List.mem_cons_self)
      · exact takesFirst.clear other before

theorem Takes.sendTime_new (takes : queue.Takes now entry) :
    entry.sendTime ∉ queue.entries.map sendTime := by
  intro taken
  obtain ⟨other, member, same⟩ := List.mem_map.mp taken
  exact sendTime_ne_of_clear (takes.clear other member) same.symm

theorem Takes.sendTimes_nodup (takesFirst : queue.Takes now first)
    (takesSecond : (queue.join now first).Takes now second)
    (distinct : (queue.entries.map sendTime).Nodup) :
    ((second :: first :: queue.entries).map sendTime).Nodup := by
  have joined := (queue.join_perm now first).map sendTime
  have secondNew : second.sendTime ∉ (first :: queue.entries).map sendTime :=
    fun taken => takesSecond.sendTime_new (joined.mem_iff.mpr taken)
  exact List.nodup_cons.mpr ⟨secondNew, List.nodup_cons.mpr ⟨takesFirst.sendTime_new, distinct⟩⟩

/-- Two answers that a queue accepts one after the other, it accepts the other way round with the
same send times, and is the same in the end. This holds of all air times, as the collision test is
the same both ways even where its sums pass the end of the counter. -/
theorem answers_accepted_either_way (capacity beaconTarget : Nat) (calls : List QueueCall)
    (now : UInt32) (first second : TransmitPacket) (firstClass secondClass : PacketClass)
    (firstAnswer : firstClass = .classA ∨ firstClass = .classB)
    (secondAnswer : secondClass = .classA ∨ secondClass = .classB)
    {firstTime secondTime : UInt32} {between after : TxQueue} :
    let queue := (empty capacity beaconTarget).run calls
    queue.enqueue now first firstClass = (.ok firstTime, between) →
      between.enqueue now second secondClass = (.ok secondTime, after) →
        ∃ other, queue.enqueue now second secondClass = (.ok secondTime, other) ∧
          other.enqueue now first firstClass = (.ok firstTime, after) := by
  intro queue acceptedFirst acceptedSecond
  obtain ⟨firstTimed, firstOther⟩ := ne_of_answer firstAnswer
  obtain ⟨secondTimed, secondOther⟩ := ne_of_answer secondAnswer
  obtain ⟨takesFirst, leavesFirst, rfl⟩ := (enqueue_eq_ok_iff firstTimed).mp acceptedFirst
  obtain ⟨takesSecond, leavesSecond, rfl⟩ := (enqueue_eq_ok_iff secondTimed).mp acceptedSecond
  have start : Spaced (empty capacity beaconTarget).entries := .nil
  have distinct := takesFirst.sendTimes_nodup takesSecond (start.run calls).sendTimes_nodup
  obtain ⟨takesSecondFirst, takesFirstThen⟩ :=
    Takes.swap firstOther secondOther takesFirst takesSecond
  refine ⟨_, (enqueue_eq_ok_iff secondTimed).mpr ⟨takesSecondFirst, leavesSecond, rfl⟩, ?_⟩
  exact (enqueue_eq_ok_iff firstTimed).mpr ⟨takesFirstThen, leavesFirst, (join_join distinct).symm⟩

/-- A beacon in the queue shortly before the counter wraps, its send time behind the wrap. -/
def beaconAhead : TxQueue :=
  (empty 32 3).run [.enqueue 4290000000 { counter := 10000000 } .beacon]

/-- That queue with an answer behind the beacon. -/
def answerBehindBeacon : TxQueue where
  entries := [⟨.beacon, { counter := 10000000 }, 3041500, 2120000⟩,
    ⟨.classA, { counter := 12200000 }, 41500, 25856⟩]
  capacity := 32
  beaconTarget := 3
  beaconCount := 1

theorem answers_around_beacon_either_way :
    ∃ after other,
      beaconAhead.enqueue 4290000000 { counter := 12200000 } .classA =
          (.ok 12200000, answerBehindBeacon) ∧
        answerBehindBeacon.enqueue 4290000000 { counter := 4294000000 } .classB =
          (.ok 4294000000, after) ∧
        beaconAhead.enqueue 4290000000 { counter := 4294000000 } .classB = (.ok 4294000000, other) ∧
        other.enqueue 4290000000 { counter := 12200000 } .classA = (.ok 12200000, after) := by
  have first : beaconAhead.enqueue 4290000000 { counter := 12200000 } .classA =
      (.ok 12200000, answerBehindBeacon) := by cbv
  have takes : answerBehindBeacon.Takes 4290000000 (requested { counter := 4294000000 } .classB) :=
    ⟨by decide, by decide, by unfold ClearOf; decide⟩
  have second : answerBehindBeacon.enqueue 4290000000 { counter := 4294000000 } .classB =
      (.ok 4294000000, _) := (enqueue_eq_ok_iff (by decide)).mpr ⟨takes, rfl, rfl⟩
  obtain ⟨other, before, behind⟩ := answers_accepted_either_way 32 3
    [.enqueue 4290000000 { counter := 10000000 } .beacon] 4290000000 _ _ .classA .classB (.inl rfl)
    (.inr rfl) first second
  exact ⟨_, other, first, second, before, behind⟩

end TxQueue

end LorawanGateway
