import LorawanGateway.Proofs.Transmit.QueueRun
import Mathlib.Algebra.Module.Submodule.Lattice
import Mathlib.Data.List.Permutation

/-!
Distances in a transmit queue. The test at admission looks at a newcomer and an entry, and not at
both in the same way: an answer may come closer behind a beacon than its own span asks for. What
the test secures, whichever of the two came first, is `QueueEntry.KeepsDistanceAfter` in both
directions. Distances are taken round the counter, so that no reading of it matters.
-/

namespace LorawanGateway

/-- A span up to which the sums of the collision test stay below one turn of the counter. -/
def Timing.longestSpan : Nat := 4290000000

namespace QueueEntry

variable {entry other : QueueEntry} {counter : UInt32}

/-- The microseconds an entry keeps free ahead of its send time after another one. -/
def guardAfter (entry other : QueueEntry) : Nat :=
  match entry.packetClass, other.packetClass with
  | .beacon, _ => Timing.startDelay.toNat + Timing.beaconGuard.toNat + Timing.lead.toNat
  | .classA, .beacon => Timing.startDelay.toNat
  | .classC, .beacon => Timing.startDelay.toNat
  | _, _ => Timing.startDelay.toNat + Timing.lead.toNat

/-- On the way round the counter from the other entry, this one leaves after the other's span, its
own guard and the margin. -/
def KeepsDistanceAfter (entry other : QueueEntry) : Prop :=
  entry.guardAfter other + other.post.toNat + Timing.margin.toNat <
    (entry.sendTime - other.sendTime).toNat

/-- Whether an entry has a counter value to itself against another one: from its guard to the end
of its span. -/
def Claims (entry other : QueueEntry) (counter : UInt32) : Prop :=
  (counter - entry.sendTime).toNat ≤ entry.post.toNat ∨
    (entry.sendTime - counter).toNat ≤ entry.guardAfter other

theorem claims_disjoint (behind : entry.KeepsDistanceAfter other)
    (ahead : other.KeepsDistanceAfter entry) (mine : entry.Claims other counter) :
    ¬ other.Claims entry counter := by
  intro theirs
  unfold KeepsDistanceAfter at behind ahead
  unfold Claims at mine theirs
  have apart := Counter.toNat_sub_cases entry.sendTime other.sendTime
  have back := Counter.toNat_sub_cases other.sendTime entry.sendTime
  have fromMine := Counter.toNat_sub_cases counter entry.sendTime
  have toMine := Counter.toNat_sub_cases entry.sendTime counter
  have fromTheirs := Counter.toNat_sub_cases counter other.sendTime
  have toTheirs := Counter.toNat_sub_cases other.sendTime counter
  rcases mine with mine | mine <;> rcases theirs with theirs | theirs <;> omega

/-- Two entries never share a send time, and this one keeps its distance after the other one
unless that one's span is so long that the test wraps. -/
def Apart (entry other : QueueEntry) : Prop :=
  entry.sendTime ≠ other.sendTime ∧
    (other.post.toNat ≤ Timing.longestSpan → entry.KeepsDistanceAfter other)

end QueueEntry

open QueueEntry

namespace TxQueue

variable {entries kept : List QueueEntry} {entry other : QueueEntry}
variable {queue : TxQueue} {calls : List QueueCall}
variable {now : UInt32} {packet : TransmitPacket} {packetClass : PacketClass}

theorem collides_eq_false {time₁ pre₁ post₁ time₂ pre₂ post₂ : UInt32}
    (clear : collides time₁ pre₁ post₁ time₂ pre₂ post₂ = false) :
    (pre₁ + post₂ + Timing.margin).toNat < (time₁ - time₂).toNat ∧
      (pre₂ + post₁ + Timing.margin).toNat < (time₂ - time₁).toNat := by
  simp only [collides, Bool.or_eq_false_iff, decide_eq_false_iff_not, UInt32.not_le] at clear
  exact ⟨UInt32.lt_iff_toNat_lt.mp clear.1, UInt32.lt_iff_toNat_lt.mp clear.2⟩

theorem toNat_sum {pre post : UInt32} (small : pre.toNat ≤ 3041500)
    (bounded : post.toNat ≤ Timing.longestSpan) :
    (pre + post + Timing.margin).toNat = pre.toNat + post.toNat + Timing.margin.toNat := by
  rw [UInt32.toNat_add, UInt32.toNat_add, Timing.toNat_margin]
  unfold Timing.longestSpan at bounded
  omega

/-- The guard that admission tests a newcomer with is the one it keeps after the entry. -/
theorem toNat_guardAgainst (other : QueueEntry)
    (spans : (entry.pre, entry.post) = occupied entry.packetClass entry.packet) :
    (guardAgainst entry.packetClass other entry.pre).toNat = entry.guardAfter other := by
  have ownGuard := congrArg (fun spans => spans.1.toNat) spans
  cases ofClass : entry.packetClass <;> cases ofOther : other.packetClass <;>
    simp only [ofClass, occupied] at ownGuard <;>
    simp only [guardAgainst, guardAfter, ofClass, ofOther, ownGuard] <;> rfl

theorem guardAfter_le (other : QueueEntry)
    (spans : (entry.pre, entry.post) = occupied entry.packetClass entry.packet) :
    entry.guardAfter other ≤ entry.pre.toNat ∧ entry.pre.toNat ≤ 3041500 := by
  have ownGuard := congrArg (fun spans => spans.1.toNat) spans
  cases ofClass : entry.packetClass <;> cases ofOther : other.packetClass <;>
    simp only [ofClass, occupied] at ownGuard <;>
    simp only [guardAfter, ofClass, ofOther, ownGuard] <;> decide

/-- The entries of a queue at any time: their spans are those of their classes, and no two of them
come too close. -/
structure Spaced (entries : List QueueEntry) : Prop where
  spans : ∀ entry ∈ entries, (entry.pre, entry.post) = occupied entry.packetClass entry.packet
  apart : entries.Pairwise fun entry other => entry.Apart other ∧ other.Apart entry

theorem Spaced.nil : Spaced [] := ⟨by simp, .nil⟩

theorem Spaced.subperm (spaced : Spaced entries) (fewer : kept.Subperm entries) : Spaced kept := by
  obtain ⟨chosen, reordered, sublist⟩ := fewer
  refine ⟨fun entry member => spaced.spans entry ?_, ?_⟩
  · exact sublist.subset (reordered.mem_iff.mpr member)
  · exact (spaced.apart.sublist sublist).perm reordered And.symm

theorem Spaced.sendTimes_nodup (spaced : Spaced entries) : (entries.map (·.sendTime)).Nodup :=
  List.pairwise_map.mpr (spaced.apart.imp fun apart => apart.1.1)

/-- Entries that do not collide leave at different times. -/
theorem sendTime_ne_of_clear {guard : UInt32}
    (clear : collides entry.sendTime guard entry.post other.sendTime other.pre other.post = false) :
    entry.sendTime ≠ other.sendTime := by
  intro same
  obtain ⟨behind, -⟩ := collides_eq_false clear
  rw [same, UInt32.sub_self] at behind
  exact Nat.not_lt_zero _ behind

/-- What is admitted among entries leaves at a time of its own. -/
theorem Admitted.sendTime_ne (admitted : Admitted entries now packet packetClass entry)
    (member : other ∈ entries) : entry.sendTime ≠ other.sendTime :=
  sendTime_ne_of_clear (admitted.clear other member)

theorem Spaced.cons (spaced : Spaced entries)
    (admitted : Admitted entries now packet packetClass entry) : Spaced (entry :: entries) := by
  refine ⟨List.forall_mem_cons.mpr ⟨admitted.spans, spaced.spans⟩,
    List.pairwise_cons.mpr ⟨fun other member => ?_, spaced.apart⟩⟩
  obtain ⟨behind, ahead⟩ := collides_eq_false (admitted.clear other member)
  have tested := toNat_guardAgainst other admitted.spans
  obtain ⟨covered, small⟩ := guardAfter_le other admitted.spans
  obtain ⟨otherCovered, otherSmall⟩ := guardAfter_le entry (spaced.spans other member)
  have different := admitted.sendTime_ne member
  -- One way the newcomer's own guard was tested, the other way the span ahead of the entry.
  refine ⟨⟨different, fun bounded => ?_⟩, ⟨different.symm, fun bounded => ?_⟩⟩
  · rw [toNat_sum (by omega) bounded, tested] at behind
    exact behind
  · rw [toNat_sum otherSmall bounded] at ahead
    unfold KeepsDistanceAfter
    omega

theorem Spaced.apply (spaced : Spaced queue.entries) (call : QueueCall) :
    Spaced (queue.apply call).entries := by
  rcases queue.apply_entries call with fewer | ⟨entry, packet, packetClass, -, admitted, joined⟩
  · exact spaced.subperm fewer
  · exact (spaced.cons admitted).subperm joined.subperm

theorem Spaced.run (spaced : Spaced queue.entries) (calls : List QueueCall) :
    Spaced (queue.run calls).entries :=
  run_induction (fun queue => Spaced queue.entries) spaced
    (fun _ call _ spaced => spaced.apply call)

theorem Admitted.post_le {longest : Nat}
    (admitted : Admitted entries now packet packetClass entry)
    (reserved : Timing.beaconReserved.toNat ≤ longest)
    (bounded : packet.airTime.toNat ≤ longest) : entry.post.toNat ≤ longest := by
  have span : entry.post = (occupied entry.packetClass entry.packet).2 :=
    congrArg Prod.snd admitted.spans
  have airTime : entry.packet.airTime = packet.airTime := by
    rw [admitted.ofPacket]
    rfl
  cases ofClass : entry.packetClass with
  | beacon =>
      rw [span, ofClass]
      exact reserved
  | classA | classB | classC =>
      rw [ofClass] at span
      rw [span]
      simpa only [occupied, airTime] using bounded

theorem post_le_of_airTime_le {longest : Nat} (capacity beaconTarget : Nat)
    (reserved : Timing.beaconReserved.toNat ≤ longest)
    (bounded : ∀ call ∈ calls, ∀ packet ∈ call.packet?, packet.airTime.toNat ≤ longest) :
    ∀ entry ∈ ((empty capacity beaconTarget).run calls).entries, entry.post.toNat ≤ longest := by
  refine run_induction (fun queue => ∀ entry ∈ queue.entries, entry.post.toNat ≤ longest)
    (by simp [empty]) ?_
  intro before call member short entry among
  rcases before.apply_entries call with
    fewer | ⟨newcomer, packet, packetClass, brought, admitted, joined⟩
  · exact short entry (fewer.subset among)
  · rcases List.mem_cons.mp (joined.mem_iff.mp among) with rfl | among
    · exact admitted.post_le reserved (bounded call member packet brought)
    · exact short entry among

/-- Whatever the calls and the readings of the counter, any two entries keep their distance from
each other, and so no value of the counter is claimed by both. -/
theorem entries_keep_distance (capacity beaconTarget : Nat) (calls : List QueueCall)
    (bounded : ∀ call ∈ calls, ∀ packet ∈ call.packet?,
      packet.airTime.toNat ≤ Timing.longestSpan) :
    let entries := ((empty capacity beaconTarget).run calls).entries
    ∀ (i j : Nat) (entry other : QueueEntry), i ≠ j →
      entries[i]? = some entry → entries[j]? = some other →
      entry.KeepsDistanceAfter other ∧
        ∀ counter, entry.Claims other counter → ¬ other.Claims entry counter := by
  intro entries i j entry other different first second
  have start : Spaced (empty capacity beaconTarget).entries := .nil
  have spaced : Spaced entries := start.run calls
  have short := post_le_of_airTime_le capacity beaconTarget (by decide) bounded
  have apart : entry.Apart other ∧ other.Apart entry := by
    obtain ⟨firstBound, rfl⟩ := List.getElem?_eq_some_iff.mp first
    obtain ⟨secondBound, rfl⟩ := List.getElem?_eq_some_iff.mp second
    have ordered := List.pairwise_iff_getElem.mp spaced.apart
    rcases Nat.lt_or_gt_of_ne different with before | after
    · exact ordered i j firstBound secondBound before
    · exact (ordered j i secondBound firstBound after).symm
  have behind := apart.1.2 (short other (List.mem_of_getElem? second))
  have ahead := apart.2.2 (short entry (List.mem_of_getElem? first))
  exact ⟨behind, fun counter => claims_disjoint behind ahead⟩

/-- A beacon, and an answer behind its reserved time. -/
def beaconThenAnswer : List QueueCall :=
  [.enqueue 0 { counter := 10000000 } .beacon, .enqueue 0 { counter := 12200000 } .classA]

theorem answer_keeps_distance_after_beacon :
    (∀ call ∈ beaconThenAnswer, ∀ packet ∈ call.packet?,
      packet.airTime.toNat ≤ Timing.longestSpan) ∧
    ∃ beacon answer, ((empty 32 3).run beaconThenAnswer).entries = [beacon, answer] ∧
      answer.KeepsDistanceAfter beacon ∧ beacon.KeepsDistanceAfter answer := by
  have bounded : ∀ call ∈ beaconThenAnswer, ∀ packet ∈ call.packet?,
      packet.airTime.toNat ≤ Timing.longestSpan := by decide
  have held : ((empty 32 3).run beaconThenAnswer).entries =
      [⟨.beacon, { counter := 10000000 }, 3041500, 2120000⟩,
        ⟨.classA, { counter := 12200000 }, 41500, 25856⟩] := by cbv
  have kept := entries_keep_distance 32 3 beaconThenAnswer bounded
  rw [held] at kept
  exact ⟨bounded, _, _, held, (kept 1 0 _ _ (by decide) rfl rfl).1,
    (kept 0 1 _ _ (by decide) rfl rfl).1⟩

end TxQueue

end LorawanGateway
