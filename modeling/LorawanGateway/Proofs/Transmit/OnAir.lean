import LorawanGateway.Proofs.Transmit.Separation
import LorawanGateway.Proofs.Transmit.Transmitter

/-!
What is on the air together. Admission looks at the entries of the queue only, and an entry leaves
the queue up to `Timing.lead` before its send time. So packets that were queued together are never
on the air together, as far as their spans cover their air times; and a request that is accepted
after a packet was handed over may get a send time while that packet is on the air. The main
statement says that there is no other way.
-/

namespace LorawanGateway

namespace QueueEntry

variable {entry other : QueueEntry} {time later moment : Nat}

/-- When a packet handed over at a time leaves: the counter next shows its send time. -/
def startFrom (entry : QueueEntry) (time : Nat) : Nat := Counter.next entry.sendTime time

def OnAir (entry : QueueEntry) (time moment : Nat) : Prop :=
  entry.startFrom time ≤ moment ∧ moment < entry.startFrom time + entry.packet.airTime.toNat

/-- Whether the span that is kept free for a class covers the air time: that of a beacon is fixed,
and that of any other class is the air time, unless it is so long that the test wraps. -/
def Reserved (entry : QueueEntry) : Prop :=
  entry.packet.airTime.toNat ≤
    if entry.isBeacon then Timing.beaconReserved.toNat else Timing.longestSpan

theorem Reserved.covered (reserved : entry.Reserved)
    (spans : (entry.pre, entry.post) = TxQueue.occupied entry.packetClass entry.packet) :
    entry.packet.airTime.toNat ≤ entry.post.toNat ∧ entry.post.toNat ≤ Timing.longestSpan := by
  have span : entry.post = (TxQueue.occupied entry.packetClass entry.packet).2 :=
    congrArg Prod.snd spans
  unfold Reserved isBeacon at reserved
  cases ofClass : entry.packetClass with
  | beacon =>
      rw [ofClass] at reserved
      rw [span, ofClass]
      exact ⟨reserved, (by decide : Timing.beaconReserved.toNat ≤ Timing.longestSpan)⟩
  | classA | classB | classC =>
      rw [ofClass] at reserved
      rw [span, ofClass]
      exact ⟨Nat.le_refl _, reserved⟩

/-- A start that comes behind an entry handed over: after its start, and after its end as well if
its air time was reserved and the exception is not given. -/
def Precedes (entry : QueueEntry) (time start : Nat) (exception : Prop) : Prop :=
  entry.startFrom time < start ∧
    (entry.Reserved → ¬ exception → entry.startFrom time + entry.packet.airTime.toNat ≤ start)

theorem Precedes.mono {start farther : Nat} {exception wider : Prop}
    (precedes : entry.Precedes time start exception) (behind : start ≤ farther)
    (implied : exception → wider) : entry.Precedes time farther wider :=
  ⟨Nat.lt_of_lt_of_le precedes.1 behind, fun reserved absent =>
    Nat.le_trans (precedes.2 reserved fun given => absent (implied given)) behind⟩

theorem Precedes.recorded {start : Nat} {past records : List TxRecord}
    {pattern : Nat → List TxRecord}
    (precedes : entry.Precedes time start (∃ requested, (pattern requested).Sublist past)) :
    entry.Precedes time start (∃ requested, (pattern requested).Sublist (past ++ records)) := by
  refine precedes.mono (Nat.le_refl _) ?_
  rintro ⟨requested, found⟩
  exact ⟨requested, found.trans (List.sublist_append_left past records)⟩

/-- Of two entries queued together, the one that lies nearer ahead ends before the other starts. -/
theorem precedes_of_apart {exception : Prop} (apart : other.Apart entry)
    (spans : (entry.pre, entry.post) = TxQueue.occupied entry.packetClass entry.packet)
    (nearer : (entry.ahead (Counter.ofTime time)).toNat ≤
      (other.ahead (Counter.ofTime time)).toNat) :
    entry.Precedes time (other.startFrom time) exception := by
  have way := Counter.next_eq_add (Nat.add_le_add_left nearer time)
  have turn := Counter.toNat_sub_add_toNat_sub apart.1
  have back := (entry.sendTime - other.sendTime).toNat_lt
  constructor
  · unfold startFrom
    omega
  · intro reserved _
    obtain ⟨covered, short⟩ := reserved.covered spans
    have distance := apart.2 short
    unfold KeepsDistanceAfter at distance
    unfold startFrom
    omega

end QueueEntry

open QueueEntry TxQueue

/-- What holds of the record of a chain and its queue at any time of a run. -/
structure Orderly (past : List TxRecord) (clock : Nat) (entries : List QueueEntry) : Prop where
  spaced : Spaced entries
  left : ∀ time entry, .handedOver time entry ∈ past →
    entry.startFrom time < clock + Timing.lead.toNat
  queued : ∀ time entry, .handedOver time entry ∈ past → ∀ other ∈ entries,
    entry.Precedes time (other.startFrom clock)
      (∃ requested, [.handedOver time entry, .accepted requested other.sendTime].Sublist past)
  handed : ∀ time entry later other,
    [.handedOver time entry, .handedOver later other].Sublist past →
    entry.Precedes time (other.startFrom later)
      (∃ requested, [.handedOver time entry, .accepted requested other.sendTime,
        .handedOver later other].Sublist past)

theorem pair_sublist_append_singleton {first second last : TxRecord} {past : List TxRecord}
    (pair : [first, second].Sublist (past ++ [last])) :
    [first, second].Sublist past ∨ first ∈ past ∧ second = last := by
  obtain ⟨front, back, split, inPast, inLast⟩ := List.sublist_append_iff.mp pair
  rcases List.sublist_singleton.mp inLast with rfl | rfl
  · rw [List.append_nil] at split
    exact .inl (split ▸ inPast)
  · have parted : [first] ++ [second] = front ++ [last] := split
    have parts := List.append_inj' parted rfl
    cases parts.1
    cases parts.2
    exact .inr ⟨List.singleton_sublist.mp inPast, rfl⟩

namespace Orderly

variable {past : List TxRecord} {clock later : Nat} {before after : List QueueEntry}
variable {records : List TxRecord}

theorem nil (clock : Nat) : Orderly [] clock [] :=
  ⟨.nil, by simp, by simp, by simp⟩

theorem wait (orderly : Orderly past clock before) (passed : clock ≤ later) :
    Orderly past later before where
  spaced := orderly.spaced
  left time entry member :=
    Nat.lt_of_lt_of_le (orderly.left time entry member) (Nat.add_le_add_right passed _)
  queued time entry member other among :=
    (orderly.queued time entry member other among).mono (Counter.next_le_next _ passed) id
  handed := orderly.handed

theorem fewer (orderly : Orderly past clock before) (kept : after.Subperm before) :
    Orderly past clock after where
  spaced := orderly.spaced.subperm kept
  left := orderly.left
  queued time entry member other among :=
    orderly.queued time entry member other (kept.subset among)
  handed := orderly.handed

/-- A newcomer starts later than all that was handed over, and its acceptance is on record behind
them. -/
theorem accept {entry : QueueEntry} {packet : TransmitPacket} {packetClass : PacketClass}
    (orderly : Orderly past clock before)
    (admitted : Admitted before (Counter.ofTime clock) packet packetClass entry)
    (joined : after.Perm (entry :: before)) :
    Orderly (past ++ [.accepted clock entry.sendTime]) clock after where
  spaced := (orderly.spaced.cons admitted).subperm joined.subperm
  left time handed member :=
    orderly.left time handed (by simpa using member)
  queued time handed member other among := by
    have earlier : .handedOver time handed ∈ past := by simpa using member
    rcases List.mem_cons.mp (joined.mem_iff.mp among) with rfl | among
    -- What is handed over starts less than the lead from now, a newcomer more than that.
    · have gone := orderly.left time handed earlier
      have ahead : clock + Timing.shortNotice < other.startFrom clock :=
        Nat.add_lt_add_left admitted.notLate clock
      rw [Timing.shortNotice_eq] at ahead
      refine ⟨?_, fun _ absent => absurd ⟨clock, ?_⟩ absent⟩
      · rw [Timing.toNat_lead] at gone
        omega
      · exact (List.singleton_sublist.mpr earlier).append (List.Sublist.refl _)
    · exact (orderly.queued time handed earlier other among).recorded
  handed time first later second pair := by
    rcases pair_sublist_append_singleton pair with pair | ⟨-, impossible⟩
    · exact (orderly.handed time first later second pair).recorded
    · cases impossible

/-- The entry handed over starts behind all that went before, and ends before all that is left
starts. -/
theorem handOver {entry : QueueEntry} (orderly : Orderly past clock before)
    (parted : before.Perm (entry :: after))
    (first : ∀ other ∈ before, (entry.ahead (Counter.ofTime clock)).toNat ≤
      (other.ahead (Counter.ofTime clock)).toNat)
    (near : (entry.ahead (Counter.ofTime clock)).toNat < Timing.lead.toNat) :
    Orderly (past ++ [.handedOver clock entry]) clock after where
  spaced := orderly.spaced.subperm ((List.sublist_cons_self entry after).subperm.trans
    parted.symm.subperm)
  left time handed member := by
    rcases List.mem_append.mp member with earlier | now
    · exact orderly.left time handed earlier
    · cases List.mem_singleton.mp now
      exact Nat.add_lt_add_left near clock
  queued time handed member other among := by
    have inQueue := parted.mem_iff.mpr (List.mem_cons_of_mem entry among)
    rcases List.mem_append.mp member with earlier | now
    · exact (orderly.queued time handed earlier other inQueue).recorded
    · cases List.mem_singleton.mp now
      have spaced := orderly.spaced.subperm parted.symm.subperm
      exact precedes_of_apart (List.rel_of_pairwise_cons spaced.apart among).2
        (spaced.spans entry List.mem_cons_self) (first other inQueue)
  handed time earlier later second pair := by
    rcases pair_sublist_append_singleton pair with pair | ⟨member, same⟩
    · exact (orderly.handed time earlier later second pair).recorded
    · cases same
      have inQueue := parted.mem_iff.mpr List.mem_cons_self
      refine (orderly.queued time earlier member entry inQueue).mono (Nat.le_refl _) ?_
      exact fun ⟨requested, found⟩ => ⟨requested, found.append (List.Sublist.refl [_])⟩

theorem change (orderly : Orderly past clock before) (change : Change clock before records after) :
    Orderly (past ++ records) clock after := by
  cases change with
  | fewer kept => simpa using orderly.fewer kept
  | accept admitted joined => exact orderly.accept admitted joined
  | handOver parted first near => exact orderly.handOver parted first near

theorem changes (orderly : Orderly past clock before)
    (changes : Changes clock before records after) : Orderly (past ++ records) clock after := by
  induction changes generalizing past with
  | none => simpa using orderly
  | more first others induction =>
      rw [← List.append_assoc]
      exact induction (orderly.change first)

theorem run {transmitter : Transmitter} {chain : Nat} {events : List (Nat × TxEvent)}
    (orderly : Orderly past clock (transmitter.entries chain))
    (ordered : (clock :: events.map Prod.fst).Pairwise (· ≤ ·)) :
    ∃ now, Orderly (past ++ transmitter.history chain events) now
      ((transmitter.run events).entries chain) := by
  induction events generalizing transmitter past clock with
  | nil => exact ⟨clock, by simpa [Transmitter.history, Transmitter.run] using orderly⟩
  | cons event rest induction =>
      obtain ⟨time, event⟩ := event
      obtain ⟨future, following⟩ := List.pairwise_cons.mp ordered
      have passed : clock ≤ time := future time List.mem_cons_self
      have stepped := (orderly.wait passed).changes (transmitter.step_changes chain time event)
      obtain ⟨now, result⟩ := induction stepped following
      exact ⟨now, by
        simpa only [Transmitter.history, Transmitter.run, List.append_assoc] using result⟩

/-- At any time of a run from the start the record of each chain is orderly. -/
theorem fresh (envelopes : List TxEnvelope) (gate : Option ListenGate) (radio : Concentrator)
    {events : List (Nat × TxEvent)} (ordered : (events.map Prod.fst).Pairwise (· ≤ ·))
    (chain : Nat) :
    ∃ now, Orderly ((Transmitter.fresh envelopes gate radio).history chain events) now
      (((Transmitter.fresh envelopes gate radio).run events).entries chain) := by
  have start : Orderly [] 0 ((Transmitter.fresh envelopes gate radio).entries chain) := by
    rw [Transmitter.entries_fresh]
    exact .nil 0
  exact start.run (List.pairwise_cons.mpr ⟨fun _ _ => Nat.zero_le _, ordered⟩)

end Orderly

/-- Of two packets that one chain handed over, the first one is still on the air with the second
exactly if the second starts before the first has ended; and then either the first took longer than
its class keeps free, or the second was only accepted after the first had been handed over. -/
theorem on_air_together_iff (envelopes : List TxEnvelope) (gate : Option ListenGate)
    (radio : Concentrator) (events : List (Nat × TxEvent))
    (ordered : (events.map Prod.fst).Pairwise (· ≤ ·)) (chain : Nat)
    (time later : Nat) (entry other : QueueEntry)
    (handed : [.handedOver time entry, .handedOver later other].Sublist
      ((Transmitter.fresh envelopes gate radio).history chain events)) :
    (∃ moment, entry.OnAir time moment ∧ other.OnAir later moment) ↔
      other.startFrom later < entry.startFrom time + entry.packet.airTime.toNat ∧
        0 < other.packet.airTime.toNat ∧
        (¬ entry.Reserved ∨
          ∃ requested, [.handedOver time entry, .accepted requested other.sendTime,
            .handedOver later other].Sublist
              ((Transmitter.fresh envelopes gate radio).history chain events)) := by
  obtain ⟨now, orderly⟩ := Orderly.fresh envelopes gate radio ordered chain
  obtain ⟨starts, ends⟩ := orderly.handed time entry later other handed
  constructor
  · rintro ⟨moment, ⟨-, mine⟩, theirs, theirEnd⟩
    refine ⟨Nat.lt_of_le_of_lt theirs mine, by omega, ?_⟩
    by_cases reserved : entry.Reserved
    · by_contra absent
      have ended := ends reserved fun given => absent (.inr given)
      omega
    · exact .inl reserved
  · rintro ⟨early, lasts, -⟩
    exact ⟨other.startFrom later, ⟨Nat.le_of_lt starts, early⟩, Nat.le_refl _, by omega⟩

def slowPacket (counter : UInt32) : TransmitPacket :=
  { counter, dataRate := .lora .sf12 .bw125, payload := List.replicate 13 0 }

/-- Two slow packets, asked for before either is handed over. -/
def earlyRequests : List (Nat × TxEvent) :=
  [(0, .request (slowPacket 100000) .classA), (10000, .request (slowPacket 1400000) .classA),
    (70000, .pass), (1370000, .pass)]

theorem early_requests_not_together :
    (earlyRequests.map Prod.fst).Pairwise (· ≤ ·) ∧
    ∃ first second : QueueEntry,
      (Transmitter.fresh [{}] none {}).history 0 earlyRequests =
        [.accepted 0 100000, .accepted 10000 1400000, .handedOver 70000 first,
          .handedOver 1370000 second] ∧
      ¬ ∃ moment, first.OnAir 70000 moment ∧ second.OnAir 1370000 moment := by
  have ordered : (earlyRequests.map Prod.fst).Pairwise (· ≤ ·) := by decide
  let first : QueueEntry := ⟨.classA, slowPacket 100000, 41500, 1155072⟩
  let second : QueueEntry := ⟨.classA, slowPacket 1400000, 41500, 1155072⟩
  have history : (Transmitter.fresh [{}] none {}).history 0 earlyRequests =
      [.accepted 0 100000, .accepted 10000 1400000, .handedOver 70000 first,
        .handedOver 1370000 second] := by cbv
  have handed : [.handedOver 70000 first, .handedOver 1370000 second].Sublist
      ((Transmitter.fresh [{}] none {}).history 0 earlyRequests) := by
    rw [history]
    decide
  refine ⟨ordered, first, second, history, fun together => ?_⟩
  obtain ⟨early, -⟩ := (on_air_together_iff [{}] none {} earlyRequests ordered 0
    70000 1370000 first second handed).mp together
  exact absurd early (by decide)

/-- A slow packet is handed over and still on the air when a second one, asked for behind the
pass, starts; all passes follow one another within the lead. -/
def lateRequest : List (Nat × TxEvent) :=
  [(900000, .request (slowPacket 1000000) .classA), (970000, .pass),
    (975000, .request (slowPacket 1100000) .classA), (1005000, .pass), (1040000, .pass),
    (1075000, .pass)]

theorem late_request_together :
    (lateRequest.map Prod.fst).Pairwise (· ≤ ·) ∧
    (passTimes lateRequest).IsChain (fun earlier later => later < earlier + 40000) ∧
    ∃ first second : QueueEntry,
      (Transmitter.fresh [{}] none {}).history 0 lateRequest =
        [.accepted 900000 1000000, .handedOver 970000 first, .accepted 975000 1100000,
          .handedOver 1075000 second] ∧
      first.Reserved ∧ first.OnAir 970000 1100000 ∧ second.OnAir 1075000 1100000 := by
  refine ⟨by decide, by decide, ⟨.classA, slowPacket 1000000, 41500, 1155072⟩,
    ⟨.classA, slowPacket 1100000, 41500, 1155072⟩, ?_, ?_, ?_, ?_⟩
  · decide +kernel
  · unfold QueueEntry.Reserved
    decide
  · unfold QueueEntry.OnAir
    decide
  · unfold QueueEntry.OnAir
    decide

end LorawanGateway
