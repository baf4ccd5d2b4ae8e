import LorawanGateway.Proofs.Transmit.QueueRun

/-!
The places of a transmit queue. The number of queued beacons is kept in a counter beside the
entries, and three operations change it on their own: insertion, purging and taking. As long as it
agrees with the entries, the two tests at admission leave each kind of entry its own places: other
packets never take those that are reserved, and a beacon is refused for want of a place only when
the queue holds as many beacons as it may.
-/

namespace LorawanGateway.TxQueue

open QueueEntry

variable {queue : TxQueue} {entry : QueueEntry} {entries : List QueueEntry}
variable {now : UInt32} {packet : TransmitPacket} {packetClass : PacketClass}

def beacons (entries : List QueueEntry) : Nat := entries.countP isBeacon

def others (entries : List QueueEntry) : Nat := entries.countP fun e => !e.isBeacon

theorem beacons_add_others (entries : List QueueEntry) :
    beacons entries + others entries = entries.length := by
  have both := List.length_eq_countP_add_countP isBeacon (l := entries)
  simp only [Bool.not_eq_true, Bool.decide_eq_false] at both
  exact both.symm

theorem beacons_of_perm_cons {joined : List QueueEntry} (same : joined.Perm (entry :: entries)) :
    beacons joined = beacons entries + if entry.isBeacon then 1 else 0 := by
  rw [beacons, same.countP_eq, List.countP_cons]
  rfl

theorem others_of_perm_cons {joined : List QueueEntry} (same : joined.Perm (entry :: entries)) :
    others joined = others entries + if entry.isBeacon then 0 else 1 := by
  rw [others, same.countP_eq, List.countP_cons]
  cases entry.isBeacon <;> rfl

/-- The counter of beacons is right, and neither kind of entries takes the other's places. -/
structure Allotted (queue : TxQueue) : Prop where
  counted : queue.beaconCount = beacons queue.entries
  beacons_le : queue.beaconCount ≤ queue.beaconTarget
  others_le : others queue.entries + queue.beaconTarget ≤ queue.capacity

theorem hasPlace_beacon : queue.hasPlace .beacon = true ↔
    queue.size < queue.capacity ∧ queue.beaconCount < queue.beaconTarget := by
  simp [hasPlace, isFull]

theorem hasPlace_of_ne_beacon (other : packetClass ≠ .beacon) :
    queue.hasPlace packetClass = true ↔
      queue.size + (queue.beaconTarget - queue.beaconCount) < queue.capacity := by
  have room : queue.hasPlace packetClass = true ↔ queue.size < queue.capacity ∧
      queue.size + (queue.beaconTarget - queue.beaconCount) < queue.capacity := by
    cases packetClass with
    | beacon => exact absurd rfl other
    | classA | classB | classC => simp [hasPlace, isFull]
  rw [room]
  omega

theorem hasPlace_sorted (queue : TxQueue) (now : UInt32) (packetClass : PacketClass) :
    (queue.sorted now).hasPlace packetClass = queue.hasPlace packetClass := by
  have sizes : (queue.sorted now).size = queue.size := (queue.sorted_perm now).length_eq
  unfold hasPlace isFull
  rw [sizes]
  rfl

namespace Allotted

theorem empty (capacity beaconTarget : Nat) : Allotted (empty capacity beaconTarget) where
  counted := rfl
  beacons_le := Nat.zero_le _
  others_le := by
    simp only [TxQueue.empty, others, List.countP_nil, Nat.zero_add]
    exact Nat.min_le_right beaconTarget capacity

theorem size_le (allotted : Allotted queue) : queue.size ≤ queue.capacity := by
  have both := beacons_add_others queue.entries
  have counted := allotted.counted
  have beaconsLe := allotted.beacons_le
  have othersLe := allotted.others_le
  unfold size
  omega

theorem sorted (allotted : Allotted queue) (now : UInt32) : Allotted (queue.sorted now) where
  counted := allotted.counted.trans ((queue.sorted_perm now).countP_eq _).symm
  beacons_le := allotted.beacons_le
  others_le := by
    rw [others, (queue.sorted_perm now).countP_eq]
    exact allotted.others_le

theorem insert (allotted : Allotted queue) (now : UInt32)
    (place : queue.hasPlace entry.packetClass = true) : Allotted (queue.insert now entry) := by
  have beaconsNow := beacons_of_perm_cons (queue.insert_perm now entry)
  have othersNow := others_of_perm_cons (queue.insert_perm now entry)
  have counted := allotted.counted
  have beaconsLe := allotted.beacons_le
  have othersLe := allotted.others_le
  have both := beacons_add_others queue.entries
  cases kind : entry.isBeacon with
  | true =>
      have ofClass : entry.packetClass = .beacon := by simpa [isBeacon] using kind
      have free := (hasPlace_beacon.mp (ofClass ▸ place)).2
      refine ⟨?_, ?_, ?_⟩ <;>
        simp only [TxQueue.insert, kind, if_true] at beaconsNow othersNow ⊢ <;>
        omega
  | false =>
      have ofClass : entry.packetClass ≠ .beacon := by simpa [isBeacon] using kind
      have free := (hasPlace_of_ne_beacon ofClass).mp place
      unfold size at free
      refine ⟨?_, ?_, ?_⟩ <;>
        simp only [TxQueue.insert, kind, Bool.false_eq_true, if_false] at beaconsNow othersNow ⊢ <;>
        omega

/-- The beacons that a purge drops and those that it keeps are all there were. -/
theorem beacons_current_add_dropped (queue : TxQueue) (now : UInt32) :
    beacons (queue.current now) +
        (queue.entries.filter fun e => !isCurrent now e && e.isBeacon).length =
      beacons queue.entries := by
  rw [beacons, current, List.countP_filter, ← List.countP_eq_length_filter, beacons]
  induction queue.entries with
  | nil => rfl
  | cons first rest induction =>
      simp only [List.countP_cons]
      cases isCurrent now first <;> cases first.isBeacon <;> simp <;> omega

theorem purge (allotted : Allotted queue) (now : UInt32) : Allotted (queue.purge now) := by
  have kept := queue.purge_perm now
  have counted := allotted.counted
  have split := beacons_current_add_dropped queue now
  have fewer : others (queue.current now) ≤ others queue.entries :=
    List.filter_sublist.countP_le
  refine ⟨?_, ?_, ?_⟩
  · rw [beacons, kept.countP_eq, ← beacons]
    simp only [TxQueue.purge]
    omega
  · exact Nat.le_trans (Nat.sub_le ..) allotted.beacons_le
  · rw [others, kept.countP_eq, ← others]
    exact Nat.le_trans (Nat.add_le_add_right fewer _) allotted.others_le

theorem pop (allotted : Allotted queue) (now : UInt32) : Allotted (queue.pop now).2 := by
  have purged := allotted.purge now
  unfold TxQueue.pop
  dsimp only
  split
  · exact purged
  · rename_i entry found
    have parted := List.perm_cons_erase (due?_eq_some found).1
    have beaconsThen := beacons_of_perm_cons parted
    have othersThen := others_of_perm_cons parted
    have counted := purged.counted
    have beaconsLe := purged.beacons_le
    have othersLe := purged.others_le
    refine ⟨?_, ?_, ?_⟩ <;> dsimp only <;> omega

theorem accept (allotted : Allotted queue) (now : UInt32) (packet : TransmitPacket)
    (packetClass : PacketClass) : Allotted (queue.accept now packet packetClass).2 := by
  rcases queue.accept_queue now packet packetClass with same | same <;> rw [same]
  · exact allotted
  · exact allotted.sorted now

theorem enqueue (allotted : Allotted queue) (now : UInt32) (packet : TransmitPacket)
    (packetClass : PacketClass) : Allotted (queue.enqueue now packet packetClass).2 := by
  unfold TxQueue.enqueue
  split
  · rename_i fault after asked
    simpa only [asked] using allotted.accept now packet packetClass
  · rename_i entry after asked
    obtain ⟨rfl, place, admitted⟩ := accept_ok asked
    refine (allotted.sorted now).insert now ?_
    rw [hasPlace_sorted, admitted.ofClass]
    exact place

theorem apply (allotted : Allotted queue) (call : QueueCall) : Allotted (queue.apply call) := by
  cases call with
  | enqueue now packet packetClass => exact allotted.enqueue now packet packetClass
  | accept now packet packetClass => exact allotted.accept now packet packetClass
  | peek now => exact allotted.purge now
  | pop now => exact allotted.pop now

theorem run (allotted : Allotted queue) (calls : List QueueCall) : Allotted (queue.run calls) :=
  run_induction Allotted allotted fun _ call _ allotted => allotted.apply call

end Allotted

/-- The number of places, in all and for beacons. -/
def places (queue : TxQueue) : Nat × Nat := (queue.capacity, queue.beaconTarget)

theorem places_apply (queue : TxQueue) (call : QueueCall) :
    (queue.apply call).places = queue.places := by
  have accepting (now packet packetClass) :
      (queue.accept now packet packetClass).2.places = queue.places := by
    rcases queue.accept_queue now packet packetClass with same | same
    · rw [same]
    · rw [same]
      rfl
  cases call with
  | enqueue now packet packetClass =>
      have asking := accepting now packet packetClass
      simp only [apply, enqueue]
      split
      · rename_i asked
        simpa only [asked] using asking
      · rename_i entry after asked
        rw [asked] at asking
        exact asking
  | accept now packet packetClass => exact accepting now packet packetClass
  | peek now => rfl
  | pop now =>
      simp only [apply, pop]
      split <;> rfl

theorem places_run (queue : TxQueue) (calls : List QueueCall) :
    (queue.run calls).places = queue.places :=
  run_induction (fun reached => reached.places = queue.places) rfl
    fun before call _ same => (before.places_apply call).trans same

theorem timingFault?_ne_full (packetClass : PacketClass) (ahead : UInt32) :
    timingFault? packetClass ahead ≠ some .full := by
  unfold timingFault?
  split
  · simp
  · split <;> simp

theorem collision?_ne_full (entries : List QueueEntry) (newcomer : QueueEntry) :
    collision? entries newcomer ≠ some .full := by
  intro full
  rcases collision?_eq_some full with other | other <;> cases other

theorem fault?_ne_full (entries : List QueueEntry) (now : UInt32) (entry : QueueEntry) :
    fault? entries now entry ≠ some .full := by
  intro full
  rcases Option.or_eq_some_iff.mp full with late | ⟨-, collided⟩
  · exact timingFault?_ne_full _ _ late
  · exact collision?_ne_full _ _ collided

/-- Only the want of a place is reported as such. -/
theorem accept_full_iff : (queue.accept now packet packetClass).1 = .error .full ↔
    queue.hasPlace packetClass = false := by
  rw [accept_eq]
  cases queue.hasPlace packetClass with
  | false => simp
  | true =>
      have other := fault?_ne_full (queue.sorted now).entries now
        (newcomer (queue.sorted now).entries now packet packetClass)
      cases found : fault? (queue.sorted now).entries now
          (newcomer (queue.sorted now).entries now packet packetClass) with
      | none => simp [found]
      | some fault =>
          rw [found] at other
          simpa [found] using other

theorem enqueue_full_iff : (queue.enqueue now packet packetClass).1 = .error .full ↔
    (queue.accept now packet packetClass).1 = .error .full := by
  rw [enqueue_fst]
  cases (queue.accept now packet packetClass).1 <;> simp [Except.map]

theorem Allotted.hasPlace_beacon_eq_false_iff (allotted : Allotted queue) :
    queue.hasPlace .beacon = false ↔ queue.beaconCount = queue.beaconTarget := by
  have both := beacons_add_others queue.entries
  have counted := allotted.counted
  have beaconsLe := allotted.beacons_le
  have othersLe := allotted.others_le
  rw [← Bool.not_eq_true, hasPlace_beacon]
  unfold size
  omega

/-- Whatever the calls and the readings of the counter, the counter of beacons agrees with the
queue, beacons and other packets keep to their own places, and a beacon is refused for want of one
exactly when the queue holds as many beacons as it may. -/
theorem beacon_places_kept (capacity beaconTarget : Nat) (calls : List QueueCall) :
    let queue := (empty capacity beaconTarget).run calls
    let target := min beaconTarget capacity
    queue.beaconCount = queue.entries.countP isBeacon ∧
      queue.beaconCount ≤ target ∧
      (queue.entries.countP fun e => !e.isBeacon) ≤ capacity - target ∧
      queue.size ≤ capacity ∧
      ∀ now packet,
        ((queue.accept now packet .beacon).1 = .error .full ↔ queue.beaconCount = target) ∧
          ((queue.enqueue now packet .beacon).1 = .error .full ↔ queue.beaconCount = target) := by
  intro queue target
  have allotted : Allotted queue := (Allotted.empty capacity beaconTarget).run calls
  have places : queue.places = (capacity, target) := places_run _ calls
  have capacityKept : queue.capacity = capacity := congrArg Prod.fst places
  have targetKept : queue.beaconTarget = target := congrArg Prod.snd places
  have refused (now packet) :
      (queue.accept now packet .beacon).1 = .error .full ↔ queue.beaconCount = target := by
    rw [accept_full_iff, allotted.hasPlace_beacon_eq_false_iff, targetKept]
  refine ⟨allotted.counted, targetKept ▸ allotted.beacons_le, ?_, capacityKept ▸ allotted.size_le,
    fun now packet => ⟨refused now packet, enqueue_full_iff.trans (refused now packet)⟩⟩
  have othersLe := allotted.others_le
  rw [capacityKept, targetKept] at othersLe
  exact Nat.le_sub_of_add_le othersLe

end LorawanGateway.TxQueue
