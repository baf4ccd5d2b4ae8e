import LorawanGateway.Proofs.Transmit.Places
import LorawanGateway.Proofs.Transmit.Separation

/-!
The time that class C gets. The search goes through the entries in the order in which they lie
ahead and tests the time behind each of them against the next entry only. As entries keep their
distance, a time that ends before the next entry ends before all that follow. The search goes wrong
in one case: an answer may follow a beacon closer than class C may, and may be over before the time
that class C gets behind the beacon. That time is then behind the next entry and not ahead of it,
and nothing says that it is ahead of those that follow.
-/

namespace LorawanGateway

namespace Timing

/-- The air time that placing a packet of class C allows for: ten seconds. -/
def longestAirTime : Nat := 10000000

/-- Microseconds that an answer keeps free ahead of its send time. -/
def guard : UInt32 := startDelay + lead

@[simp] theorem toNat_guard : guard.toNat = 41500 := rfl

end Timing

namespace QueueEntry

variable {entry other : QueueEntry} {now : UInt32}

/-- An answer that is over before the time that class C is given behind a beacon. -/
def SlipsBehind (answer beacon : QueueEntry) : Prop :=
  beacon.packetClass = .beacon ∧
    (answer.packetClass = .classA ∨ answer.packetClass = .classC) ∧
    (answer.sendTime - beacon.sendTime).toNat + answer.post.toNat <
      beacon.post.toNat + Timing.lead.toNat

/-- Seen from the present, an entry lies ahead of another one and keeps its distance. -/
def Follows (now : UInt32) (other entry : QueueEntry) : Prop :=
  (other.ahead now).toNat + other.post.toNat + entry.guardAfter other + Timing.margin.toNat <
    (entry.ahead now).toNat

theorem follows_of_le (distant : entry.KeepsDistanceAfter other)
    (ordered : (other.ahead now).toNat ≤ (entry.ahead now).toNat) : Follows now other entry := by
  have way := Counter.toNat_sub_of_le ordered
  unfold KeepsDistanceAfter at distant
  unfold Follows ahead at *
  omega

/-- Seen from the present, a time for a packet lies far enough behind an entry. -/
def Before (now slot pre : UInt32) (entry : QueueEntry) : Prop :=
  (entry.ahead now).toNat + entry.post.toNat + pre.toNat + Timing.margin.toNat <
    (slot - now).toNat

def After (now slot post : UInt32) (entry : QueueEntry) : Prop :=
  (slot - now).toNat + post.toNat + entry.pre.toNat + Timing.margin.toNat <
    (entry.ahead now).toNat

end QueueEntry

namespace TxQueue

open QueueEntry

variable {queue : TxQueue} {entries front rest : List QueueEntry} {entry other beacon : QueueEntry}
variable {now slot pre post : UInt32} {packet : TransmitPacket}

/-- An entry keeps its own guard after another one, but for an answer behind a beacon. -/
theorem guardAfter_cases (other : QueueEntry)
    (spans : (entry.pre, entry.post) = occupied entry.packetClass entry.packet)
    (otherSpans : (other.pre, other.post) = occupied other.packetClass other.packet) :
    entry.guardAfter other = entry.pre.toNat ∧ 41500 ≤ entry.pre.toNat ∨
      other.packetClass = .beacon ∧
        (entry.packetClass = .classA ∨ entry.packetClass = .classC) ∧
        entry.guardAfter other = 1500 ∧ entry.pre.toNat = 41500 ∧
        other.pre.toNat = 3041500 := by
  have ownGuard := congrArg (fun spans => spans.1.toNat) spans
  have otherGuard := congrArg (fun spans => spans.1.toNat) otherSpans
  cases ofClass : entry.packetClass <;> cases ofOther : other.packetClass <;>
    simp only [ofClass, ofOther, occupied] at ownGuard otherGuard <;>
    simp only [guardAfter, ofClass, ofOther, ownGuard, otherGuard] <;> decide

theorem guardAgainst_classC (other : QueueEntry) (pre : UInt32) :
    guardAgainst .classC other pre =
      if other.packetClass = .beacon then Timing.startDelay else pre := by
  cases ofClass : other.packetClass <;> simp [guardAgainst, ofClass]

theorem toNat_soonest_sub (now : UInt32) : (soonest now - now).toNat = 2 * Timing.lead.toNat := by
  rw [soonest, UInt32.add_comm, UInt32.add_sub_cancel]
  rfl

/-- The search stops behind an entry whose next one the time there does not collide with. -/
theorem gapAfter_eq (pre post slot : UInt32) (some : entries ≠ []) :
    ∃ front entry rest, entries = front ++ entry :: rest ∧
      gapAfter pre post slot entries = afterEntry pre entry ∧
      ∀ next ∈ rest.head?,
        collides (afterEntry pre entry) pre post next.sendTime next.pre next.post = false := by
  induction entries generalizing slot with
  | nil => exact absurd rfl some
  | cons first tail induction =>
      cases tail with
      | nil => exact ⟨[], first, [], rfl, rfl, by simp⟩
      | cons next rest =>
          cases collided : collides (afterEntry pre first) pre post next.sendTime next.pre
              next.post with
          | false =>
              refine ⟨[], first, next :: rest, rfl, ?_, by simpa using collided⟩
              simp only [gapAfter, collided, Bool.false_eq_true, if_false]
          | true =>
              obtain ⟨front, entry, behind, split, found, clear⟩ :=
                induction (afterEntry pre first) (by simp)
              refine ⟨first :: front, entry, behind, by rw [split, List.cons_append], ?_, clear⟩
              simp only [gapAfter, collided, if_true, found]

theorem freeSlot_cases (entries : List QueueEntry) (now pre post : UInt32) :
    freeSlot entries now pre post = soonest now ∧
        (∀ other ∈ entries,
          collides (soonest now) pre post other.sendTime other.pre other.post = false) ∨
      ∃ front entry rest, entries = front ++ entry :: rest ∧
        freeSlot entries now pre post = afterEntry pre entry ∧
        ∀ next ∈ rest.head?,
          collides (afterEntry pre entry) pre post next.sendTime next.pre next.post = false := by
  simp only [freeSlot]
  split
  · rename_i clear
    exact .inl ⟨rfl, by simpa using clear⟩
  · rename_i taken
    refine .inr (gapAfter_eq pre post (soonest now) ?_)
    rintro rfl
    exact taken rfl

/-- Entries in order, with none that has gone by: what a search for a free time meets. -/
structure Laid (now : UInt32) (entries : List QueueEntry) : Prop where
  spans : ∀ entry ∈ entries, (entry.pre, entry.post) = occupied entry.packetClass entry.packet
  near : ∀ entry ∈ entries, (entry.ahead now).toNat < Timing.maxAdvance.toNat
  short : ∀ entry ∈ entries, entry.post.toNat ≤ Timing.longestAirTime
  follows : entries.Pairwise (Follows now)

theorem Spaced.laid (spaced : Spaced entries)
    (near : ∀ entry ∈ entries, (entry.ahead now).toNat < Timing.maxAdvance.toNat)
    (short : ∀ entry ∈ entries, entry.post.toNat ≤ Timing.longestAirTime) :
    Laid now (inOrder now entries) := by
  have same := inOrder_perm now entries
  have again := spaced.subperm same.subperm
  refine ⟨again.spans, fun entry member => near entry (same.mem_iff.mp member),
    fun entry member => short entry (same.mem_iff.mp member), ?_⟩
  refine (again.apart.and (inOrder_pairwise now entries)).imp_of_mem ?_
  intro other entry otherMember member ⟨⟨_, apart⟩, ordered⟩
  have bounded := short other (same.mem_iff.mp otherMember)
  exact follows_of_le (apart.2 (Nat.le_trans bounded (by decide))) ordered

namespace Laid

theorem follows_of_lt (laid : Laid now entries) (otherMember : other ∈ entries)
    (member : entry ∈ entries) (ordered : (other.ahead now).toNat < (entry.ahead now).toNat) :
    Follows now other entry := by
  obtain ⟨front, rest, rfl⟩ := List.append_of_mem otherMember
  obtain ⟨-, behind, before⟩ := List.pairwise_append.mp laid.follows
  rcases List.mem_append.mp member with earlier | there
  · have follows := before entry earlier other List.mem_cons_self
    unfold Follows at follows
    omega
  · rcases List.mem_cons.mp there with rfl | later
    · omega
    · exact List.rel_of_pairwise_cons behind later

theorem collides_iff (laid : Laid now entries) (member : entry ∈ entries)
    (near : (slot - now).toNat < 2 ^ 30) (small : pre.toNat ≤ Timing.guard.toNat)
    (short : post.toNat ≤ Timing.longestAirTime) :
    collides slot pre post entry.sendTime entry.pre entry.post = false ↔
      Before now slot pre entry ∨ After now slot post entry := by
  have entryNear := laid.near entry member
  have entryShort := laid.short entry member
  have entrySmall := (guardAfter_le entry (laid.spans entry member)).2
  have within : Timing.longestAirTime ≤ Timing.longestSpan := by decide
  have behind := toNat_sum (Nat.le_trans small (by decide)) (Nat.le_trans entryShort within)
  have ahead := toNat_sum entrySmall (Nat.le_trans short within)
  have forward := Counter.toNat_sub_cases slot entry.sendTime
  have backward := Counter.toNat_sub_cases entry.sendTime slot
  have fromNow := Counter.toNat_sub_cases slot now
  have entryFromNow := Counter.toNat_sub_cases entry.sendTime now
  simp only [collides, Bool.or_eq_false_iff, decide_eq_false_iff_not, UInt32.not_le,
    UInt32.lt_iff_toNat_lt, behind, ahead, Before, After]
  simp only [Timing.longestAirTime, Timing.toNat_maxAdvance, Timing.toNat_margin,
    Timing.toNat_guard, QueueEntry.ahead] at *
  omega

theorem toNat_afterEntry_sub (laid : Laid now entries) (member : entry ∈ entries) :
    (afterEntry Timing.guard entry - now).toNat =
      (entry.ahead now).toNat + entry.post.toNat + 82500 := by
  have near := laid.near entry member
  have short := laid.short entry member
  have whole := Counter.toNat_sub_over (afterEntry Timing.guard entry) entry.sendTime now
  have step : (afterEntry Timing.guard entry - entry.sendTime).toNat =
      entry.post.toNat + 82500 := by
    rw [afterEntry, UInt32.add_comm, UInt32.add_sub_cancel]
    simp only [UInt32.toNat_add, Timing.toNat_guard, Timing.toNat_lead, Timing.toNat_margin]
    unfold Timing.longestAirTime at short
    omega
  rw [whole, step]
  simp only [Timing.longestAirTime, Timing.toNat_maxAdvance, QueueEntry.ahead] at *
  omega

theorem freeSlot_near (laid : Laid now entries) (post : UInt32) :
    2 * Timing.lead.toNat ≤ (freeSlot entries now Timing.guard post - now).toNat ∧
      (freeSlot entries now Timing.guard post - now).toNat < 2 ^ 30 := by
  rcases freeSlot_cases entries now Timing.guard post with
    ⟨found, -⟩ | ⟨front, entry, rest, split, found, -⟩
  · rw [found, toNat_soonest_sub]
    decide
  · have member : entry ∈ entries := by simp [split]
    have near := laid.near entry member
    have short := laid.short entry member
    rw [found, laid.toNat_afterEntry_sub member]
    simp only [Timing.longestAirTime, Timing.toNat_maxAdvance, Timing.toNat_lead] at *
    omega

theorem before_afterEntry (laid : Laid now (front ++ entry :: rest))
    (member : other ∈ front ++ [entry]) :
    Before now (afterEntry Timing.guard entry) Timing.guard other := by
  unfold Before
  rw [laid.toNat_afterEntry_sub (by simp), Timing.toNat_guard, Timing.toNat_margin]
  rcases List.mem_append.mp member with earlier | last
  · obtain ⟨-, -, before⟩ := List.pairwise_append.mp laid.follows
    have follows := before other earlier entry List.mem_cons_self
    unfold Follows at follows
    omega
  · obtain rfl := List.mem_singleton.mp last
    omega

theorem after_of_follows (laid : Laid now entries) (member : entry ∈ entries)
    (otherMember : other ∈ entries) (follows : Follows now entry other)
    (after : After now slot post entry) : After now slot post other := by
  unfold After Follows at *
  rcases guardAfter_cases entry (laid.spans other otherMember) (laid.spans entry member) with
    ⟨own, -⟩ | ⟨-, -, shorter, small, large⟩ <;> omega

theorem slipsBehind (laid : Laid now entries) (member : entry ∈ entries)
    (otherMember : other ∈ entries) (follows : Follows now entry other)
    (before : Before now (afterEntry Timing.guard entry) Timing.guard other) :
    other.SlipsBehind entry := by
  have ordered : (entry.ahead now).toNat ≤ (other.ahead now).toNat := by
    unfold Follows at follows
    omega
  have between := Counter.toNat_sub_of_le ordered
  unfold Before at before
  unfold Follows at follows
  rw [laid.toNat_afterEntry_sub member, Timing.toNat_guard, Timing.toNat_margin] at before
  rw [Timing.toNat_margin] at follows
  rcases guardAfter_cases entry (laid.spans other otherMember) (laid.spans entry member) with
    ⟨own, wide⟩ | ⟨ofBeacon, answers, -⟩
  · omega
  · refine ⟨ofBeacon, answers, ?_⟩
    rw [Timing.toNat_lead]
    unfold ahead at *
    omega

/-- The time that class C is given is clear of all entries, unless it lies behind a beacon and
behind an answer that has slipped in there. -/
theorem freeSlot_clear_or (laid : Laid now entries) (short : post.toNat ≤ Timing.longestAirTime) :
    (∀ other ∈ entries, collides (freeSlot entries now Timing.guard post) Timing.guard post
        other.sendTime other.pre other.post = false) ∨
      ∃ beacon ∈ entries, ∃ answer ∈ entries, answer.SlipsBehind beacon ∧
        freeSlot entries now Timing.guard post = afterEntry Timing.guard beacon := by
  rcases freeSlot_cases entries now Timing.guard post with
    ⟨found, clear⟩ | ⟨front, entry, rest, split, found, clear⟩
  · rw [found]
    exact .inl clear
  have near := (laid.freeSlot_near post).2
  rw [found] at near ⊢
  have member : entry ∈ entries := by simp [split]
  have before : ∀ other ∈ front ++ [entry],
      Before now (afterEntry Timing.guard entry) Timing.guard other :=
    fun other among => before_afterEntry (split ▸ laid) among
  have clear_iff {other} (among : other ∈ entries) :=
    laid.collides_iff among near (Nat.le_refl _) short
  cases rest with
  | nil => exact .inl fun other among => (clear_iff among).mpr (.inl (before other (split ▸ among)))
  | cons next rest =>
      have nextMember : next ∈ entries := by simp [split]
      have pairs := List.pairwise_append.mp (split ▸ laid.follows)
      obtain ⟨follows, followsNext⟩ := List.pairwise_cons.mp pairs.2.1
      -- The search asked for no collision with the next entry, not for a time ahead of it.
      rcases (clear_iff nextMember).mp (clear next rfl) with slipped | after
      · have slips := laid.slipsBehind member nextMember (follows next List.mem_cons_self) slipped
        exact .inr ⟨entry, member, next, nextMember, slips, rfl⟩
      · refine .inl fun other among => (clear_iff among).mpr ?_
        have places := split ▸ among
        rw [List.append_cons] at places
        rcases List.mem_append.mp places with earlier | later
        · exact .inl (before other earlier)
        rcases List.mem_cons.mp later with rfl | later
        · exact .inr after
        · have following := List.rel_of_pairwise_cons followsNext later
          exact .inr (laid.after_of_follows nextMember among following after)

theorem admissible_of_clear (laid : Laid now entries) (member : other ∈ entries)
    (near : (slot - now).toNat < 2 ^ 30) (short : post.toNat ≤ Timing.longestAirTime)
    (clear : collides slot Timing.guard post other.sendTime other.pre other.post = false) :
    collides slot (guardAgainst .classC other Timing.guard) post other.sendTime other.pre
      other.post = false := by
  -- Against a beacon admission asks for less than the search does.
  have smaller : (guardAgainst .classC other Timing.guard).toNat ≤ Timing.guard.toNat := by
    rw [guardAgainst_classC]
    split <;> decide
  rw [laid.collides_iff member near (Nat.le_refl _) short] at clear
  rw [laid.collides_iff member near smaller short]
  refine clear.imp_left fun before => ?_
  unfold Before at *
  omega

theorem clear_of_admissible (laid : Laid now entries) (member : other ∈ entries)
    (beaconMember : beacon ∈ entries) (ofBeacon : beacon.packetClass = .beacon)
    (near : (afterEntry Timing.guard beacon - now).toNat < 2 ^ 30)
    (short : post.toNat ≤ Timing.longestAirTime)
    (admissible : collides (afterEntry Timing.guard beacon)
      (guardAgainst .classC other Timing.guard) post other.sendTime other.pre other.post = false) :
    collides (afterEntry Timing.guard beacon) Timing.guard post other.sendTime other.pre
      other.post = false := by
  rw [guardAgainst_classC] at admissible
  by_cases otherOfBeacon : other.packetClass = .beacon
  · rw [if_pos otherOfBeacon, laid.collides_iff member near (by decide) short] at admissible
    rw [laid.collides_iff member near (Nat.le_refl _) short]
    refine admissible.imp_left fun before => ?_
    have samePost : other.post = beacon.post := by
      have span := congrArg Prod.snd (laid.spans other member)
      have beaconSpan := congrArg Prod.snd (laid.spans beacon beaconMember)
      simp only [occupied, otherOfBeacon, ofBeacon] at span beaconSpan
      rw [span, beaconSpan]
    -- A later beacon leaves its own guard free, and is farther off than the time in question.
    have wide : other.guardAfter beacon = 3041500 := by
      simp only [guardAfter, otherOfBeacon]
      decide
    have notLater : (other.ahead now).toNat ≤ (beacon.ahead now).toNat := by
      by_contra later
      have follows := laid.follows_of_lt beaconMember member (Nat.lt_of_not_le later)
      unfold Before at before
      unfold Follows at follows
      rw [laid.toNat_afterEntry_sub beaconMember, samePost] at before
      rw [wide] at follows
      omega
    unfold Before
    rw [laid.toNat_afterEntry_sub beaconMember, samePost, Timing.toNat_guard, Timing.toNat_margin]
    omega
  · rw [if_neg otherOfBeacon] at admissible
    exact admissible

end Laid

def slotFor (entries : List QueueEntry) (now : UInt32) (packet : TransmitPacket) : UInt32 :=
  freeSlot (inOrder now entries) now Timing.guard packet.airTime

def Free (entries : List QueueEntry) (packet : TransmitPacket) (slot : UInt32) : Prop :=
  ∀ other ∈ entries, collides slot Timing.guard packet.airTime other.sendTime other.pre
    other.post = false

instance (entries : List QueueEntry) (packet : TransmitPacket) (slot : UInt32) :
    Decidable (Free entries packet slot) :=
  inferInstanceAs (Decidable (∀ other ∈ entries, _))

/-- The time that class C would be given lies behind a beacon and behind an answer that has slipped
in there, and some entry is in its way. -/
def Obstructed (entries : List QueueEntry) (now : UInt32) (packet : TransmitPacket) : Prop :=
  (∃ beacon ∈ entries, ∃ answer ∈ entries, answer.SlipsBehind beacon ∧
      slotFor entries now packet = afterEntry Timing.guard beacon) ∧
    ¬ Free entries packet (slotFor entries now packet)

theorem newcomer_classC (entries : List QueueEntry) (now : UInt32) (packet : TransmitPacket) :
    newcomer (inOrder now entries) now packet .classC =
      ⟨.classC, { packet with counter := slotFor entries now packet, mode := .timestamped },
        Timing.guard, packet.airTime⟩ := rfl

theorem enqueue_of_hasPlace {packetClass : PacketClass}
    (place : queue.hasPlace packetClass = true) :
    let entry := newcomer (inOrder now queue.entries) now packet packetClass
    (queue.enqueue now packet packetClass).1 =
      (fault? (inOrder now queue.entries) now entry).elim (.ok entry.sendTime) .error := by
  intro entry
  rw [enqueue_fst, accept_eq, if_pos place]
  dsimp only [sorted]
  cases fault? (inOrder now queue.entries) now entry <;> rfl

theorem timingFault?_classC {ahead : UInt32} (late : Timing.shortNotice < ahead.toNat) :
    timingFault? .classC ahead = none := by
  have after : ¬ ahead ≤ Timing.startDelay + Timing.margin + Timing.lead := by
    rw [UInt32.not_le, UInt32.lt_iff_toNat_lt]
    exact late
  simp [timingFault?, after]

namespace Laid

theorem fault?_classC (laid : Laid now (inOrder now entries)) (packet : TransmitPacket) :
    fault? (inOrder now entries) now (newcomer (inOrder now entries) now packet .classC) =
      collision? (inOrder now entries) (newcomer (inOrder now entries) now packet .classC) := by
  have timely : timingFault? .classC (slotFor entries now packet - now) = none := by
    have near := laid.freeSlot_near packet.airTime
    refine timingFault?_classC ?_
    rw [Timing.toNat_lead] at near
    rw [Timing.shortNotice_eq]
    unfold slotFor
    omega
  rw [newcomer_classC]
  unfold fault?
  dsimp only [ahead, sendTime]
  rw [timely, Option.none_or]

theorem free_of_not_obstructed (laid : Laid now (inOrder now entries))
    (short : packet.airTime.toNat ≤ Timing.longestAirTime)
    (clear : ¬ Obstructed entries now packet) :
    Free entries packet (slotFor entries now packet) := by
  have same := inOrder_perm now entries
  rcases laid.freeSlot_clear_or short with
    free | ⟨beacon, beaconMember, answer, answerMember, slips, found⟩
  · exact fun other member => free other (same.mem_iff.mpr member)
  · by_contra taken
    exact clear ⟨⟨beacon, same.mem_iff.mp beaconMember, answer, same.mem_iff.mp answerMember, slips,
      found⟩, taken⟩

theorem collision?_of_free (laid : Laid now (inOrder now entries))
    (short : packet.airTime.toNat ≤ Timing.longestAirTime)
    (free : Free entries packet (slotFor entries now packet)) :
    collision? (inOrder now entries) (newcomer (inOrder now entries) now packet .classC) =
      none := by
  have near := (laid.freeSlot_near packet.airTime).2
  rw [newcomer_classC]
  refine Option.map_eq_none_iff.mpr (List.find?_eq_none.mpr fun other member => ?_)
  have clear := free other ((inOrder_perm now entries).mem_iff.mp member)
  exact Bool.eq_false_iff.mp (laid.admissible_of_clear member near short clear)

theorem collision?_of_obstructed (laid : Laid now (inOrder now entries))
    (short : packet.airTime.toNat ≤ Timing.longestAirTime)
    (obstructed : Obstructed entries now packet) :
    ∃ other ∈ entries,
      collision? (inOrder now entries) (newcomer (inOrder now entries) now packet .classC) =
        some (collisionWith other) := by
  have same := inOrder_perm now entries
  have near := (laid.freeSlot_near packet.airTime).2
  obtain ⟨⟨beacon, beaconMember, answer, -, slips, found⟩, taken⟩ := obstructed
  rw [newcomer_classC]
  unfold collision?
  cases met : (inOrder now entries).find? fun e =>
      collides (slotFor entries now packet) (guardAgainst .classC e Timing.guard) packet.airTime
        e.sendTime e.pre e.post with
  | some other =>
      refine ⟨other, same.mem_iff.mp (List.mem_of_find?_eq_some met), ?_⟩
      dsimp only [sendTime] at met ⊢
      rw [met, Option.map_some]
  | none =>
      refine absurd (fun other member => ?_) taken
      have clear := List.find?_eq_none.mp met other (same.mem_iff.mpr member)
      unfold slotFor at found clear ⊢
      rw [found] at near clear ⊢
      exact laid.clear_of_admissible (same.mem_iff.mpr member) (same.mem_iff.mpr beaconMember)
        slips.1 near short (by simpa using clear)

end Laid

/-- Right after a look at a queue, class C gets a place clear of all entries but in the one case
that it is obstructed. -/
theorem classC_placed_unless_obstructed (capacity beaconTarget : Nat) (calls : List QueueCall)
    (look : QueueCall) (packet : TransmitPacket) (looks : look.looks = true)
    (bounded : ∀ call ∈ calls, ∀ packet ∈ call.packet?,
      packet.airTime.toNat ≤ Timing.longestAirTime)
    (short : packet.airTime.toNat ≤ Timing.longestAirTime) :
    let queue := ((empty capacity beaconTarget).run calls).apply look
    let slot := slotFor queue.entries look.now packet
    let outcome := (queue.enqueue look.now packet .classC).1
    queue.size + (queue.beaconTarget - queue.beaconCount) < queue.capacity →
      (Obstructed queue.entries look.now packet →
        ∃ other ∈ queue.entries, outcome = .error (collisionWith other)) ∧
      (¬ Obstructed queue.entries look.now packet →
        outcome = .ok slot ∧ 2 * Timing.lead.toNat ≤ (slot - look.now).toNat ∧
          (slot - look.now).toNat < 2 ^ 30 ∧ Free queue.entries packet slot) := by
  intro queue slot outcome room
  have start : Spaced (empty capacity beaconTarget).entries := .nil
  have spaced : Spaced queue.entries := (start.run calls).apply look
  have current (entry) (member : entry ∈ queue.entries) :=
    mem_current.mp (mem_current_of_looks look looks member)
  have shortAll := post_le_of_airTime_le capacity beaconTarget (by decide) bounded
  have laid : Laid look.now (inOrder look.now queue.entries) :=
    spaced.laid (fun entry member => (current entry member).2)
      (fun entry member => shortAll entry (current entry member).1)
  have place : queue.hasPlace .classC = true := (hasPlace_of_ne_beacon (by decide)).mpr room
  have asked : outcome = _ := enqueue_of_hasPlace place
  rw [laid.fault?_classC packet] at asked
  refine ⟨fun obstructed => ?_, fun clear => ?_⟩
  · obtain ⟨other, member, met⟩ := laid.collision?_of_obstructed short obstructed
    rw [met] at asked
    exact ⟨other, member, asked⟩
  · have free := laid.free_of_not_obstructed short clear
    have near := laid.freeSlot_near packet.airTime
    rw [laid.collision?_of_free short free] at asked
    exact ⟨asked, near.1, near.2, free⟩

def answersApart : List QueueCall :=
  [.enqueue 0 { counter := 100000 } .classA, .enqueue 0 { counter := 1000000 } .classA]

theorem classC_placed_between_answers :
    let queue := ((empty 32 3).run answersApart).apply (.peek 0)
    (QueueCall.peek 0).looks = true ∧
      (∀ call ∈ answersApart, ∀ packet ∈ call.packet?,
        packet.airTime.toNat ≤ Timing.longestAirTime) ∧
      ({} : TransmitPacket).airTime.toNat ≤ Timing.longestAirTime ∧
      queue.size + (queue.beaconTarget - queue.beaconCount) < queue.capacity ∧
      ¬ Obstructed queue.entries 0 {} ∧
      (queue.enqueue 0 {} .classC).1 = .ok 208356 ∧ Free queue.entries {} 208356 := by
  have looks : (QueueCall.peek 0).looks = true := rfl
  have bounded : ∀ call ∈ answersApart, ∀ packet ∈ call.packet?,
      packet.airTime.toNat ≤ Timing.longestAirTime := by decide
  have short : ({} : TransmitPacket).airTime.toNat ≤ Timing.longestAirTime := by decide
  have held : ((empty 32 3).run answersApart).apply (.peek 0) =
      ⟨[⟨.classA, { counter := 100000 }, 41500, 25856⟩,
        ⟨.classA, { counter := 1000000 }, 41500, 25856⟩], 32, 3, 0⟩ := by cbv
  have placed := classC_placed_unless_obstructed 32 3 answersApart (.peek 0) {} looks bounded short
  rw [held] at placed ⊢
  intro queue
  have room : queue.size + (queue.beaconTarget - queue.beaconCount) < queue.capacity := by decide
  have clear : ¬ Obstructed queue.entries 0 {} := by
    rintro ⟨⟨beacon, member, answer, -, ⟨ofBeacon, -⟩, -⟩, -⟩
    have answers : ∀ entry ∈ queue.entries, entry.packetClass ≠ .beacon := by decide
    exact answers beacon member ofBeacon
  have slot : slotFor queue.entries 0 {} = 208356 := by cbv
  obtain ⟨accepted, -, -, free⟩ := (placed room).2 clear
  exact ⟨looks, bounded, short, room, clear, slot ▸ accepted, slot ▸ free⟩

def answersBehindBeacon : List QueueCall :=
  [.enqueue 0 { counter := 1000000 } .beacon, .enqueue 0 { counter := 3122501 } .classA,
    .enqueue 0 { counter := 3202501 } .classA]

/-- In the gap behind the beacon class C is refused, although there is room behind both answers. -/
theorem classC_refused_behind_beacon :
    let queue := ((empty 32 3).run answersBehindBeacon).apply (.peek 0)
    (QueueCall.peek 0).looks = true ∧
      (∀ call ∈ answersBehindBeacon, ∀ packet ∈ call.packet?,
        packet.airTime.toNat ≤ Timing.longestAirTime) ∧
      ({} : TransmitPacket).airTime.toNat ≤ Timing.longestAirTime ∧
      queue.size + (queue.beaconTarget - queue.beaconCount) < queue.capacity ∧
      (queue.enqueue 0 {} .classC).1 = .error .packetCollision ∧
      Free queue.entries {} 3310857 := by
  have held : ((empty 32 3).run answersBehindBeacon).apply (.peek 0) =
      ⟨[⟨.beacon, { counter := 1000000 }, 3041500, 2120000⟩,
        ⟨.classA, { counter := 3122501 }, 41500, 25856⟩,
        ⟨.classA, { counter := 3202501 }, 41500, 25856⟩], 32, 3, 1⟩ := by cbv
  rw [held]
  exact ⟨rfl, by decide, by decide, by decide, by cbv, by decide⟩

end TxQueue

end LorawanGateway
