import LorawanGateway.Proofs.Transmit.Counter

/-!
What each operation of a transmit queue does to its entries: a packet that is accepted is
`Admitted` and joins them, a refusal leaves them as they are, purging keeps what is current, and
taking removes the entry that lies nearest ahead. The order of the entries is left open, as no
operation depends on it but for ties.
-/

namespace LorawanGateway.TxQueue

variable {queue after : TxQueue} {entries : List QueueEntry} {entry other : QueueEntry}
variable {now : UInt32} {packet : TransmitPacket} {packetClass : PacketClass}

theorem inOrder_perm (now : UInt32) (entries : List QueueEntry) :
    (inOrder now entries).Perm entries :=
  List.mergeSort_perm _ _

theorem inOrder_pairwise (now : UInt32) (entries : List QueueEntry) :
    (inOrder now entries).Pairwise fun other entry =>
      (other.ahead now).toNat ≤ (entry.ahead now).toNat := by
  have transitive (first second third : QueueEntry)
      (nearer : decide (first.ahead now ≤ second.ahead now) = true)
      (farther : decide (second.ahead now ≤ third.ahead now) = true) :
      decide (first.ahead now ≤ third.ahead now) = true :=
    decide_eq_true (UInt32.le_trans (of_decide_eq_true nearer) (of_decide_eq_true farther))
  have total (first second : QueueEntry) :
      (decide (first.ahead now ≤ second.ahead now) ||
        decide (second.ahead now ≤ first.ahead now)) = true := by
    simpa using UInt32.le_total _ _
  have sorted := List.pairwise_mergeSort transitive total entries
  exact sorted.imp fun ordered => UInt32.le_iff_toNat_le.mp (of_decide_eq_true ordered)

theorem sorted_perm (queue : TxQueue) (now : UInt32) :
    (queue.sorted now).entries.Perm queue.entries :=
  inOrder_perm now queue.entries

/-- An entry as it is accepted among others at a counter value: the packet that was asked for, at
the send time it got, far enough ahead and clear of all others. -/
structure Admitted (entries : List QueueEntry) (now : UInt32) (packet : TransmitPacket)
    (packetClass : PacketClass) (entry : QueueEntry) : Prop where
  ofClass : entry.packetClass = packetClass
  ofPacket : entry.packet = { packet with counter := entry.sendTime, mode := entry.packet.mode }
  asRequested : packetClass ≠ .classC → entry.packet = packet
  spans : (entry.pre, entry.post) = occupied entry.packetClass entry.packet
  notLate : Timing.shortNotice < (entry.ahead now).toNat
  notEarly : packetClass = .classA ∨ packetClass = .classB →
    (entry.ahead now).toNat ≤ Timing.maxAdvance.toNat
  clear : ∀ other ∈ entries,
    collides entry.sendTime (guardAgainst entry.packetClass other entry.pre) entry.post
      other.sendTime other.pre other.post = false

/-- The spans of a packet depend neither on its send time nor on the way it is timed. -/
theorem occupied_placed (entries : List QueueEntry) (now : UInt32) (packetClass : PacketClass)
    (packet : TransmitPacket) :
    occupied packetClass (placed entries now packetClass packet) = occupied packetClass packet := by
  cases packetClass <;> rfl

theorem placed_eq (entries : List QueueEntry) (now : UInt32) (packetClass : PacketClass)
    (packet : TransmitPacket) :
    placed entries now packetClass packet =
      { packet with
        counter := (placed entries now packetClass packet).counter
        mode := (placed entries now packetClass packet).mode } := by
  unfold placed
  split <;> rfl

theorem placed_of_ne (other : packetClass ≠ .classC) :
    placed entries now packetClass packet = packet := by
  simp only [placed, if_neg other]

theorem ne_of_answer (answer : packetClass = .classA ∨ packetClass = .classB) :
    packetClass ≠ .classC ∧ packetClass ≠ .beacon := by
  rcases answer with rfl | rfl <;> simp

theorem timingFault?_eq_none {ahead : UInt32} (timely : timingFault? packetClass ahead = none) :
    Timing.shortNotice < ahead.toNat ∧ (packetClass = .classA ∨ packetClass = .classB →
      ahead.toNat ≤ Timing.maxAdvance.toNat) := by
  unfold timingFault? at timely
  split at timely
  · contradiction
  · rename_i notLate
    have late : Timing.shortNotice < ahead.toNat :=
      UInt32.lt_iff_toNat_lt.mp (UInt32.not_le.mp notLate)
    split at timely
    · contradiction
    · rename_i notEarly
      refine ⟨late, fun bounded => ?_⟩
      have within := UInt32.not_lt.mp fun early => notEarly ⟨bounded, early⟩
      exact UInt32.le_iff_toNat_le.mp within

theorem collision?_eq_none (free : collision? entries entry = none) (member : other ∈ entries) :
    collides entry.sendTime (guardAgainst entry.packetClass other entry.pre) entry.post
      other.sendTime other.pre other.post = false := by
  have absent := List.find?_eq_none.mp (Option.map_eq_none_iff.mp free) other member
  simpa using absent

theorem collision?_eq_some {fault : TxError} (collided : collision? entries entry = some fault) :
    fault = .beaconCollision ∨ fault = .packetCollision := by
  obtain ⟨other, -, rfl⟩ := Option.map_eq_some_iff.mp collided
  unfold collisionWith
  split
  · exact .inl rfl
  · exact .inr rfl

/-- The entry that a packet would be among others. -/
def newcomer (entries : List QueueEntry) (now : UInt32) (packet : TransmitPacket)
    (packetClass : PacketClass) : QueueEntry :=
  ⟨packetClass, placed entries now packetClass packet, (occupied packetClass packet).1,
    (occupied packetClass packet).2⟩

/-- What admission has against an entry that there is a place for. -/
def fault? (entries : List QueueEntry) (now : UInt32) (entry : QueueEntry) : Option TxError :=
  (timingFault? entry.packetClass (entry.ahead now)).or (collision? entries entry)

theorem accept_eq (queue : TxQueue) (now : UInt32) (packet : TransmitPacket)
    (packetClass : PacketClass) :
    queue.accept now packet packetClass =
      if queue.hasPlace packetClass then
        let entry := newcomer (queue.sorted now).entries now packet packetClass
        ((fault? (queue.sorted now).entries now entry).elim (.ok entry) .error, queue.sorted now)
      else (.error .full, queue) := by
  unfold accept
  cases queue.hasPlace packetClass with
  | false => rfl
  | true =>
      simp only [Bool.not_true, Bool.false_eq_true, if_false, if_true, fault?, newcomer]
      split
      · rename_i late
        rw [late]
        rfl
      · rename_i timely
        rw [timely]
        split <;> rename_i collided <;> rw [collided] <;> rfl

theorem admitted_newcomer
    (faultless : fault? entries now (newcomer entries now packet packetClass) = none) :
    Admitted entries now packet packetClass (newcomer entries now packet packetClass) := by
  obtain ⟨timely, free⟩ := Option.or_eq_none_iff.mp faultless
  obtain ⟨notLate, notEarly⟩ := timingFault?_eq_none timely
  refine ⟨rfl, placed_eq _ _ _ _, placed_of_ne, ?_, notLate, notEarly, ?_⟩
  · exact (occupied_placed _ _ _ _).symm
  · intro other member
    exact collision?_eq_none free member

theorem Admitted.perm (admitted : Admitted entries now packet packetClass entry)
    {reordered : List QueueEntry} (same : reordered.Perm entries) :
    Admitted reordered now packet packetClass entry :=
  { admitted with clear := fun other member => admitted.clear other (same.mem_iff.mp member) }

theorem accept_ok_eq (accepted : queue.accept now packet packetClass = (.ok entry, after)) :
    after = queue.sorted now ∧ queue.hasPlace packetClass = true ∧
      entry = newcomer (queue.sorted now).entries now packet packetClass ∧
      fault? (queue.sorted now).entries now entry = none := by
  rw [accept_eq] at accepted
  split at accepted
  · rename_i place
    dsimp only at accepted
    cases found : fault? (queue.sorted now).entries now
        (newcomer (queue.sorted now).entries now packet packetClass) with
    | some fault =>
        rw [found] at accepted
        cases accepted
    | none =>
        rw [found] at accepted
        cases accepted
        exact ⟨rfl, place, rfl, found⟩
  · cases accepted

theorem accept_ok (accepted : queue.accept now packet packetClass = (.ok entry, after)) :
    after = queue.sorted now ∧ queue.hasPlace packetClass = true ∧
      Admitted queue.entries now packet packetClass entry := by
  obtain ⟨ordered, place, rfl, faultless⟩ := accept_ok_eq accepted
  exact ⟨ordered, place, (admitted_newcomer faultless).perm (queue.sorted_perm now).symm⟩

theorem accept_queue (queue : TxQueue) (now : UInt32) (packet : TransmitPacket)
    (packetClass : PacketClass) :
    (queue.accept now packet packetClass).2 = queue ∨
      (queue.accept now packet packetClass).2 = queue.sorted now := by
  rw [accept_eq]
  split
  · exact .inr rfl
  · exact .inl rfl

theorem accept_perm (queue : TxQueue) (now : UInt32) (packet : TransmitPacket)
    (packetClass : PacketClass) :
    (queue.accept now packet packetClass).2.entries.Perm queue.entries := by
  rcases queue.accept_queue now packet packetClass with same | same
  · rw [same]
  · rw [same]
    exact queue.sorted_perm now

theorem insert_perm (queue : TxQueue) (now : UInt32) (entry : QueueEntry) :
    (queue.insert now entry).entries.Perm (entry :: queue.entries) :=
  (inOrder_perm now _).trans (List.perm_append_singleton entry queue.entries)

theorem enqueue_fst (queue : TxQueue) (now : UInt32) (packet : TransmitPacket)
    (packetClass : PacketClass) :
    (queue.enqueue now packet packetClass).1 =
      (queue.accept now packet packetClass).1.map QueueEntry.sendTime := by
  unfold enqueue
  split <;> rename_i asked <;> rw [asked] <;> rfl

theorem enqueue_ok {sendTime : UInt32}
    (accepted : queue.enqueue now packet packetClass = (.ok sendTime, after)) :
    ∃ entry, entry.sendTime = sendTime ∧ Admitted queue.entries now packet packetClass entry ∧
      after.entries.Perm (entry :: queue.entries) := by
  unfold enqueue at accepted
  split at accepted
  · cases accepted
  · rename_i entry ordered asked
    cases accepted
    obtain ⟨rfl, -, admitted⟩ := accept_ok asked
    exact ⟨entry, rfl, admitted,
      (insert_perm _ now entry).trans ((queue.sorted_perm now).cons entry)⟩

theorem enqueue_error {fault : TxError}
    (refused : queue.enqueue now packet packetClass = (.error fault, after)) :
    after.entries.Perm queue.entries := by
  have asking := queue.accept_perm now packet packetClass
  unfold enqueue at refused
  split at refused
  · rename_i asked
    cases refused
    simpa only [asked] using asking
  · cases refused

def current (queue : TxQueue) (now : UInt32) : List QueueEntry :=
  queue.entries.filter (isCurrent now)

theorem isCurrent_iff : isCurrent now entry = true ↔
    (entry.ahead now).toNat < Timing.maxAdvance.toNat := by
  simp only [isCurrent, decide_eq_true_eq, UInt32.lt_iff_toNat_lt]

theorem mem_current : entry ∈ queue.current now ↔
    entry ∈ queue.entries ∧ (entry.ahead now).toNat < Timing.maxAdvance.toNat := by
  rw [current, List.mem_filter, isCurrent_iff]

theorem purge_perm (queue : TxQueue) (now : UInt32) :
    (queue.purge now).entries.Perm (queue.current now) := by
  unfold purge
  dsimp only
  split
  · rename_i all
    have kept := List.filter_eq_self.mpr (List.length_filter_eq_length_iff.mp all)
    rw [current, kept]
  · exact inOrder_perm now _

theorem nearest?_eq_none : nearest? now entries = none ↔ entries = [] := by
  cases entries with
  | nil => simp [nearest?]
  | cons first rest =>
      unfold nearest?
      split
      · simp
      · split <;> simp

theorem nearest?_eq_some (found : nearest? now entries = some entry) :
    entry ∈ entries ∧ ∀ other ∈ entries, entry.ahead now ≤ other.ahead now := by
  induction entries generalizing entry with
  | nil => cases found
  | cons first rest induction =>
      unfold nearest? at found
      cases nearest : nearest? now rest with
      | none =>
          rw [nearest] at found
          cases found
          rw [nearest?_eq_none.mp nearest]
          simp
      | some second =>
          obtain ⟨member, least⟩ := induction nearest
          rw [nearest] at found
          dsimp only at found
          split at found
          · rename_i nearer
            cases found
            refine ⟨List.mem_cons_self, fun other among => ?_⟩
            rcases List.mem_cons.mp among with rfl | among
            · exact UInt32.le_refl _
            · exact UInt32.le_trans nearer (least other among)
          · rename_i farther
            cases found
            refine ⟨List.mem_cons_of_mem _ member, fun other among => ?_⟩
            rcases List.mem_cons.mp among with rfl | among
            · exact UInt32.le_of_lt (UInt32.not_le.mp farther)
            · exact least other among

theorem due?_eq_some (found : due? now entries = some entry) :
    entry ∈ entries ∧ (∀ other ∈ entries, (entry.ahead now).toNat ≤ (other.ahead now).toNat) ∧
      (entry.ahead now).toNat < Timing.lead.toNat := by
  obtain ⟨nearest, near⟩ := Option.filter_eq_some_iff.mp found
  obtain ⟨member, least⟩ := nearest?_eq_some nearest
  refine ⟨member, fun other among => UInt32.le_iff_toNat_le.mp (least other among), ?_⟩
  exact UInt32.lt_iff_toNat_lt.mp (decide_eq_true_eq.mp near)

theorem due?_eq_none (absent : due? now entries = none) (member : entry ∈ entries) :
    Timing.lead.toNat ≤ (entry.ahead now).toNat := by
  cases nearest : nearest? now entries with
  | none =>
      rw [nearest?_eq_none.mp nearest] at member
      cases member
  | some first =>
      have far : ¬ first.ahead now < Timing.lead := by
        simpa [due?, nearest, Option.filter] using absent
      have least := (nearest?_eq_some nearest).2 entry member
      exact UInt32.le_iff_toNat_le.mp (UInt32.le_trans (UInt32.not_lt.mp far) least)

theorem peek_perm (queue : TxQueue) (now : UInt32) :
    (queue.peek now).2.entries.Perm (queue.current now) :=
  queue.purge_perm now

/-- What is taken lies nearest ahead of all that is current, and less than the lead ahead. -/
theorem pop_some (taken : queue.pop now = (some entry, after)) :
    (queue.current now).Perm (entry :: after.entries) ∧
      (∀ other ∈ queue.current now, (entry.ahead now).toNat ≤ (other.ahead now).toNat) ∧
      (entry.ahead now).toNat < Timing.lead.toNat := by
  have purged := queue.purge_perm now
  unfold pop at taken
  dsimp only at taken
  split at taken
  · cases taken
  · rename_i found
    cases taken
    obtain ⟨member, least, near⟩ := due?_eq_some found
    refine ⟨purged.symm.trans (List.perm_cons_erase member), fun other among => ?_, near⟩
    exact least other (purged.mem_iff.mpr among)

theorem pop_none (refused : queue.pop now = (none, after)) :
    after.entries.Perm (queue.current now) ∧
      ∀ other ∈ queue.current now, Timing.lead.toNat ≤ (other.ahead now).toNat := by
  have purged := queue.purge_perm now
  unfold pop at refused
  dsimp only at refused
  split at refused
  · rename_i absent
    cases refused
    exact ⟨purged, fun other among => due?_eq_none absent (purged.mem_iff.mpr among)⟩
  · cases refused

theorem current_of_pop_some (taken : queue.pop now = (some entry, after)) :
    after.current now = after.entries := by
  refine List.filter_eq_self.mpr fun other member => ?_
  have kept := (pop_some taken).1.mem_iff.mpr (List.mem_cons_of_mem entry member)
  exact (List.mem_filter.mp kept).2

/-- Draining splits what is current: all that lies less than the lead ahead is taken, the rest
stays. -/
theorem drain_go_spec {count : Nat} {due : List QueueEntry} (room : queue.size ≤ count)
    (drained : drain.go now count queue = (due, after)) :
    (queue.current now).Perm (due ++ after.entries) ∧
      (∀ entry ∈ due, (entry.ahead now).toNat < Timing.lead.toNat) ∧
      ∀ entry ∈ after.entries, Timing.lead.toNat ≤ (entry.ahead now).toNat := by
  induction count generalizing queue due with
  | zero =>
      have none : queue.current now = [] := by
        rw [current, List.length_eq_zero_iff.mp (Nat.le_zero.mp room)]
        rfl
      cases drained
      have purged := queue.purge_perm now
      rw [none] at purged
      simp [none, purged.eq_nil]
  | succ count induction =>
      unfold drain.go at drained
      split at drained
      · rename_i refused
        cases drained
        obtain ⟨same, far⟩ := pop_none refused
        exact ⟨same.symm, by simp, fun entry member => far entry (same.mem_iff.mp member)⟩
      · rename_i entry middle taken
        cases drained
        obtain ⟨split, -, near⟩ := pop_some taken
        -- Every pop takes an entry, so the count is not used up before the queue is.
        have fewer : middle.size ≤ count := by
          have sizes := split.length_eq
          have kept := List.length_filter_le (isCurrent now) queue.entries
          rw [current, List.length_cons] at sizes
          unfold size at room ⊢
          omega
        obtain ⟨rest, restNear, restFar⟩ := induction fewer rfl
        rw [current_of_pop_some taken] at rest
        exact ⟨split.trans (rest.cons entry), List.forall_mem_cons.mpr ⟨near, restNear⟩, restFar⟩

theorem drain_spec (queue : TxQueue) (now : UInt32) :
    (queue.current now).Perm ((queue.drain now).1 ++ (queue.drain now).2.entries) ∧
      (∀ entry ∈ (queue.drain now).1, (entry.ahead now).toNat < Timing.lead.toNat) ∧
      ∀ entry ∈ (queue.drain now).2.entries, Timing.lead.toNat ≤ (entry.ahead now).toNat :=
  drain_go_spec (Nat.le_refl _) rfl

end LorawanGateway.TxQueue
