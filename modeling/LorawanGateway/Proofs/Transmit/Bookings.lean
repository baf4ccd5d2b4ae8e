import LorawanGateway.Proofs.Run
import LorawanGateway.Proofs.Transmit.Counter
import LorawanGateway.Transmit.ListenGate
import Mathlib.Data.List.Induction
import Mathlib.Data.List.Nodup

/-!
Reservations of a gate on an absolute clock whose value modulo 2^32 is the counter. A slot holds the
send time as the counter shows it, and which side of the present that is on is told by half a turn.
Up to the send time of a packet less than half a turn ahead this is right, so that no reservation is
overwritten before. Behind the send time it is right for half a turn only: in the other half the
reservation seems to be still ahead, and its slot is taken again although the packet has left.
-/

namespace LorawanGateway

/-- A reservation that was made, with its slot and the time at which it was made. -/
structure Booking where
  slot : Nat
  time : Nat
  packet : TransmitPacket
  deriving DecidableEq, Repr

namespace Booking

variable {booking : Booking} {clock : Nat}

def reservation (booking : Booking) : Reservation := .ofPacket booking.packet

/-- When the packet leaves: the counter first shows its send time. -/
def start (booking : Booking) : Nat := Counter.next booking.packet.counter booking.time

def request (booking : Booking) : Nat × TransmitPacket := (booking.time, booking.packet)

def Near (booking : Booking) : Prop := booking.start < booking.time + 2 ^ 31

instance (booking : Booking) : Decidable booking.Near := inferInstanceAs (Decidable (_ < _))

def pending (clock : Nat) (booking : Booking) : Bool := clock ≤ booking.start

/-- Whether the send time lies back, by less than half a turn of the counter beside whole ones. -/
def spent (clock : Nat) (booking : Booking) : Bool :=
  let since := (clock - booking.start) % 2 ^ 32
  0 < since && since < 2 ^ 31

/-- Whether the send time lies back and seems to lie ahead. -/
def returned (clock : Nat) (booking : Booking) : Bool :=
  !booking.pending clock && !booking.spent clock

theorem pending_iff : booking.pending clock = true ↔ clock ≤ booking.start := decide_eq_true_iff

theorem spent_iff : booking.spent clock = true ↔
    0 < (clock - booking.start) % 2 ^ 32 ∧ (clock - booking.start) % 2 ^ 32 < 2 ^ 31 := by
  simp only [spent, Bool.and_eq_true, decide_eq_true_eq]

theorem hasPassed_reservation (near : booking.Near) (made : booking.time ≤ clock) :
    booking.reservation.hasPassed (Counter.ofTime clock) = booking.spent clock := by
  have half : (0x80000000 : UInt32).toNat = 2 ^ 31 := rfl
  have since : booking.reservation.hasPassed (Counter.ofTime clock) = true ↔
      0 < (Counter.ofTime clock - booking.packet.counter).toNat ∧
        (Counter.ofTime clock - booking.packet.counter).toNat < 2 ^ 31 := by
    simp only [Reservation.hasPassed, reservation, Reservation.ofPacket, Bool.and_eq_true,
      decide_eq_true_eq, UInt32.lt_iff_toNat_lt, UInt32.toNat_zero, half]
  rw [Bool.eq_iff_iff, since, spent_iff]
  have shows := Counter.next_mod booking.packet.counter booking.time
  have way := Counter.toNat_sub_cases (Counter.ofTime clock) booking.packet.counter
  have bound := (Counter.ofTime clock - booking.packet.counter).toNat_lt
  rw [Counter.toNat_ofTime] at way
  unfold Near at near
  unfold start at near ⊢
  omega

theorem not_spent_of_pending (pending : clock ≤ booking.start) : booking.spent clock = false := by
  simp [spent, Nat.sub_eq_zero_of_le pending]

end Booking

namespace ListenGate

variable {gate after : ListenGate} {packet : TransmitPacket} {now : UInt32} {slot clock : Nat}
variable {made : List Booking} {booking : Booking} {requests : List (Nat × TransmitPacket)}

theorem reserve_ok (reserved : gate.reserve packet now = .ok (slot, after)) :
    (∃ held, gate.slots[slot]? = some held ∧ isFree now held = true) ∧
      after = ⟨gate.slots.set slot (some (.ofPacket packet))⟩ := by
  unfold reserve at reserved
  split at reserved
  · cases reserved
  · rename_i index found
    cases reserved
    obtain ⟨inside, free, -⟩ := List.findIdx?_eq_some_iff_getElem.mp found
    exact ⟨⟨gate.slots[slot], List.getElem?_eq_getElem inside, free⟩, rfl⟩

theorem reserve_full_iff : gate.reserve packet now = .error .full ↔
    ∀ held ∈ gate.slots, isFree now held = false := by
  rw [← List.findIdx?_eq_none_iff]
  unfold reserve
  cases gate.slots.findIdx? (isFree now) <;> simp

def request (gate : ListenGate) (asked : Nat × TransmitPacket) : ListenGate :=
  match gate.reserve asked.2 (Counter.ofTime asked.1) with
  | .ok (_, reserved) => reserved
  | .error _ => gate

def booked (gate : ListenGate) (asked : Nat × TransmitPacket) : List Booking :=
  match gate.reserve asked.2 (Counter.ofTime asked.1) with
  | .ok (slot, _) => [⟨slot, asked.1, asked.2⟩]
  | .error _ => []

def run (gate : ListenGate) (requests : List (Nat × TransmitPacket)) : ListenGate :=
  requests.foldl request gate

/-- The reservations that the requests of a run made, in their order. -/
def bookings (gate : ListenGate) (requests : List (Nat × TransmitPacket)) : List Booking :=
  gather request booked gate requests

theorem run_append (gate : ListenGate) (first second : List (Nat × TransmitPacket)) :
    gate.run (first ++ second) = (gate.run first).run second :=
  List.foldl_append ..

theorem bookings_append (gate : ListenGate) (first second : List (Nat × TransmitPacket)) :
    gate.bookings (first ++ second) = gate.bookings first ++ (gate.run first).bookings second :=
  gather_append ..

theorem run_concat (gate : ListenGate) (requests : List (Nat × TransmitPacket))
    (asked : Nat × TransmitPacket) :
    gate.run (requests ++ [asked]) = (gate.run requests).request asked :=
  List.foldl_concat ..

theorem bookings_concat (gate : ListenGate) (requests : List (Nat × TransmitPacket))
    (asked : Nat × TransmitPacket) :
    gate.bookings (requests ++ [asked]) =
      gate.bookings requests ++ (gate.run requests).booked asked :=
  gather_concat ..

theorem request_cases (gate : ListenGate) (asked : Nat × TransmitPacket) :
    (∃ slot after, gate.reserve asked.2 (Counter.ofTime asked.1) = .ok (slot, after) ∧
      gate.booked asked = [⟨slot, asked.1, asked.2⟩] ∧ gate.request asked = after) ∨
      gate.booked asked = [] ∧ gate.request asked = gate := by
  unfold booked request
  cases gate.reserve asked.2 (Counter.ofTime asked.1) with
  | error fault => exact .inr ⟨rfl, rfl⟩
  | ok reserved => exact .inl ⟨reserved.1, reserved.2, rfl, rfl, rfl⟩

theorem run_of_reserve_ok {time : Nat} {answer : Nat × ListenGate}
    (reserved : gate.reserve packet (Counter.ofTime time) = .ok answer) :
    gate.run [(time, packet)] = answer.2 ∧
      (gate.bookings [(time, packet)]).map Booking.request = [(time, packet)] := by
  simp only [run, bookings, gather, List.foldl_cons, List.foldl_nil, request, booked, reserved]
  exact ⟨trivial, rfl⟩

theorem slots_length_run (gate : ListenGate) (requests : List (Nat × TransmitPacket)) :
    (gate.run requests).slots.length = gate.slots.length := by
  induction requests using List.reverseRecOn with
  | nil => rfl
  | append_singleton requests asked induction =>
      rw [run_concat, ← induction]
      rcases (gate.run requests).request_cases asked with
        ⟨slot, after, reserved, -, same⟩ | ⟨-, same⟩
      · rw [same, (reserve_ok reserved).2]
        exact List.length_set
      · rw [same]

/-- What holds of the reservations made so far at a time of a run: up to its send time each is in
its slot, and nobody else is given that slot. -/
structure Kept (made : List Booking) (clock : Nat) (gate : ListenGate) : Prop where
  near : ∀ booking ∈ made, booking.time ≤ clock ∧ booking.Near
  held : ∀ booking ∈ made, clock ≤ booking.start →
    gate.slots[booking.slot]? = some (some booking.reservation)
  apart : made.Pairwise fun earlier later => clock ≤ earlier.start → earlier.slot ≠ later.slot

namespace Kept

theorem nil (clock : Nat) (gate : ListenGate) : Kept [] clock gate := ⟨by simp, by simp, .nil⟩

theorem wait {later : Nat} (kept : Kept made clock gate) (passed : clock ≤ later) :
    Kept made later gate where
  near booking member :=
    ⟨Nat.le_trans (kept.near booking member).1 passed, (kept.near booking member).2⟩
  held booking member pending := kept.held booking member (Nat.le_trans passed pending)
  apart := kept.apart.imp fun others pending => others (Nat.le_trans passed pending)

theorem isFree_eq (kept : Kept made clock gate) (member : booking ∈ made) :
    isFree (Counter.ofTime clock) (some booking.reservation) = booking.spent clock :=
  Booking.hasPassed_reservation (kept.near booking member).2 (kept.near booking member).1

theorem reserve (kept : Kept made clock gate)
    (reserved : gate.reserve packet (Counter.ofTime clock) = .ok (slot, after))
    (near : Booking.Near ⟨slot, clock, packet⟩) :
    Kept (made ++ [⟨slot, clock, packet⟩]) clock after := by
  obtain ⟨⟨held, found, free⟩, rfl⟩ := reserve_ok reserved
  -- A slot that is given away held no reservation whose send time is still ahead.
  have other : ∀ booking ∈ made, clock ≤ booking.start → booking.slot ≠ slot := by
    intro booking member pending same
    have inSlot := kept.held booking member pending
    rw [same, found] at inSlot
    cases inSlot
    rw [kept.isFree_eq member, Booking.not_spent_of_pending pending] at free
    cases free
  refine ⟨?_, ?_, ?_⟩
  · refine List.forall_mem_append.mpr ⟨kept.near, ?_⟩
    simpa using near
  · intro booking member pending
    rcases List.mem_append.mp member with member | last
    · rw [List.getElem?_set_ne (other booking member pending).symm]
      exact kept.held booking member pending
    · cases List.mem_singleton.mp last
      have inside := (List.getElem?_eq_some_iff.mp found).1
      exact List.getElem?_set_self inside
  · refine List.pairwise_append.mpr ⟨kept.apart, List.pairwise_singleton .., ?_⟩
    intro earlier member later last pending
    cases List.mem_singleton.mp last
    exact other earlier member pending

theorem request {asked : Nat × TransmitPacket} (kept : Kept made asked.1 gate)
    (near : ∀ booking ∈ gate.booked asked, booking.Near) :
    Kept (made ++ gate.booked asked) asked.1 (gate.request asked) := by
  rcases gate.request_cases asked with ⟨slot, after, reserved, made, rfl⟩ | ⟨silent, same⟩
  · rw [made] at near ⊢
    exact kept.reserve reserved (near _ List.mem_cons_self)
  · rw [silent, same, List.append_nil]
    exact kept

theorem run (gate : ListenGate) (ordered : (requests.map Prod.fst ++ [clock]).Pairwise (· ≤ ·))
    (near : ∀ booking ∈ gate.bookings requests, booking.Near) :
    Kept (gate.bookings requests) clock (gate.run requests) := by
  induction requests using List.reverseRecOn generalizing clock with
  | nil => exact nil clock gate
  | append_singleton requests asked induction =>
      rw [List.map_append, List.map_singleton] at ordered
      obtain ⟨orderedBefore, -, before⟩ := List.pairwise_append.mp ordered
      rw [bookings_concat] at near ⊢
      rw [run_concat]
      obtain ⟨nearBefore, nearLast⟩ := List.forall_mem_append.mp near
      have passed : asked.1 ≤ clock := before asked.1 (by simp) clock List.mem_cons_self
      exact ((induction orderedBefore nearBefore).request nearLast).wait passed

end Kept

def latest? (made : List Booking) (slot : Nat) : Option Booking :=
  made.reverse.find? (·.slot == slot)

theorem latest?_concat (made : List Booking) (last : Booking) (slot : Nat) :
    latest? (made ++ [last]) slot = if last.slot = slot then some last else latest? made slot := by
  by_cases same : last.slot = slot <;> simp [latest?, same]

theorem mem_of_latest? (found : latest? made slot = some booking) :
    booking ∈ made ∧ booking.slot = slot :=
  ⟨List.mem_reverse.mp (List.mem_of_find?_eq_some found), by simpa using List.find?_some found⟩

theorem Kept.latest?_eq (kept : Kept made clock gate) (member : booking ∈ made)
    (pending : clock ≤ booking.start) : latest? made booking.slot = some booking := by
  obtain ⟨earlier, later, rfl⟩ := List.append_of_mem member
  obtain ⟨-, behind, -⟩ := List.pairwise_append.mp kept.apart
  refine List.find?_eq_some_iff_append.mpr ⟨by simp, later.reverse, earlier.reverse, by simp, ?_⟩
  intro other among
  have others := List.rel_of_pairwise_cons behind (List.mem_reverse.mp among) pending
  simpa using others.symm

/-- Each slot of a gate holds the last reservation that was made for it. -/
theorem slots_run (count : Nat) (requests : List (Nat × TransmitPacket)) :
    ((ofSize count).run requests).slots = (List.range count).map fun slot =>
      (latest? ((ofSize count).bookings requests) slot).map Booking.reservation := by
  induction requests using List.reverseRecOn with
  | nil =>
      refine List.ext_getElem? fun slot => ?_
      by_cases inside : slot < count <;>
        simp [run, bookings, gather, ofSize, latest?, inside]
  | append_singleton requests asked induction =>
      rw [run_concat, bookings_concat]
      rcases ((ofSize count).run requests).request_cases asked with
        ⟨slot, after, reserved, made, same⟩ | ⟨silent, same⟩
      · obtain ⟨-, rfl⟩ := reserve_ok reserved
        rw [same, made, induction]
        refine List.ext_getElem? fun other => ?_
        simp only [List.getElem?_set, List.getElem?_map, List.length_map, List.length_range,
          latest?_concat]
        by_cases inside : other < count
        · by_cases own : slot = other <;> simp [own, inside, Booking.reservation]
        · simp [inside]
          omega
      · rw [silent, same, List.append_nil]
        exact induction

/-- The reservations that the slots hold. -/
def inSlots (count : Nat) (made : List Booking) : List Booking :=
  (List.range count).filterMap (latest? made)

theorem filterMap_slots {count : Nat} (slots : gate.slots = (List.range count).map fun slot =>
    (latest? made slot).map Booking.reservation) :
    gate.slots.filterMap id = (inSlots count made).map Booking.reservation := by
  rw [slots, List.filterMap_map, inSlots, List.map_filterMap]
  rfl

theorem inSlots_nodup (count : Nat) (made : List Booking) : (inSlots count made).Nodup := by
  refine List.nodup_range.filterMap fun slot other booking found again => ?_
  exact (mem_of_latest? found).2.symm.trans (mem_of_latest? again).2

theorem Kept.pending_inSlots {count : Nat} (kept : Kept made clock gate)
    (size : gate.slots.length = count) :
    ((inSlots count made).filter (·.pending clock)).Perm (made.filter (·.pending clock)) := by
  have once : (made.filter (·.pending clock)).Nodup := by
    refine (List.pairwise_filter.mpr (kept.apart.imp ?_))
    intro earlier later apart pending _ same
    exact apart (Booking.pending_iff.mp pending) (congrArg Booking.slot same)
  have onceToo := (inSlots_nodup count made).filter (·.pending clock)
  refine (List.perm_ext_iff_of_nodup onceToo once).mpr fun booking => ?_
  simp only [List.mem_filter, inSlots, List.mem_filterMap, List.mem_range]
  constructor
  · rintro ⟨⟨slot, -, found⟩, pending⟩
    exact ⟨(mem_of_latest? found).1, pending⟩
  · rintro ⟨member, pending⟩
    have ahead := Booking.pending_iff.mp pending
    have inside := (List.getElem?_eq_some_iff.mp (kept.held booking member ahead)).1
    exact ⟨⟨booking.slot, size ▸ inside, kept.latest?_eq member ahead⟩, pending⟩

theorem countP_inSlots {count : Nat} {holds : Booking → Bool} :
    (inSlots count made).countP holds = count ↔
      ∀ slot < count, ∃ booking, latest? made slot = some booking ∧ holds booking = true := by
  have all := List.countP_eq_length (l := List.range count)
    (p := fun slot => ((latest? made slot).map holds).getD false)
  rw [List.length_range] at all
  rw [inSlots, List.countP_filterMap, all]
  simp only [List.mem_range]
  refine forall₂_congr fun slot inside => ?_
  cases latest? made slot <;> simp

theorem countP_not_spent (clock : Nat) (made : List Booking) :
    (made.countP fun booking => !booking.spent clock) =
      made.countP (·.pending clock) + made.countP (·.returned clock) := by
  induction made with
  | nil => rfl
  | cons booking rest induction =>
      simp only [List.countP_cons, induction, Booking.returned]
      cases ahead : booking.pending clock with
      | true =>
          simp only [Booking.not_spent_of_pending (Booking.pending_iff.mp ahead)]
          simp
          omega
      | false =>
          cases booking.spent clock <;> simp
          omega

/-- Up to its send time a reservation is in its slot. From then on the slot is free exactly while
the send time lies back by less than half a turn of the counter, beside whole ones; and a request
is refused exactly when the reservations whose send time has not passed, and those whose send time
seems to lie ahead again, take all slots. -/
theorem slots_taken_until_send_time (count : Nat) (requests : List (Nat × TransmitPacket))
    (clock : Nat) (ordered : (requests.map Prod.fst ++ [clock]).Pairwise (· ≤ ·))
    (near : ∀ booking ∈ (ofSize count).bookings requests, booking.Near) :
    let gate := (ofSize count).run requests
    let made := (ofSize count).bookings requests
    let now := Counter.ofTime clock
    (gate.slots = (List.range count).map fun slot =>
      (latest? made slot).map Booking.reservation) ∧
    (∀ booking ∈ made, clock ≤ booking.start → latest? made booking.slot = some booking) ∧
    (∀ booking ∈ inSlots count made,
      isFree now (some booking.reservation) = booking.spent clock) ∧
    gate.busyChannels now =
      ((inSlots count made).filter fun booking => !booking.spent clock).map (·.packet.frequency) ∧
    ∀ packet, gate.reserve packet now = .error .full ↔
      made.countP (·.pending clock) + (inSlots count made).countP (·.returned clock) = count := by
  intro gate made now
  have kept : Kept made clock gate := .run _ ordered near
  have slots : gate.slots = _ := slots_run count requests
  have size : gate.slots.length = count := by rw [slots, List.length_map, List.length_range]
  have free : ∀ booking ∈ inSlots count made,
      isFree now (some booking.reservation) = booking.spent clock := by
    intro booking member
    obtain ⟨slot, -, found⟩ := List.mem_filterMap.mp member
    exact kept.isFree_eq (mem_of_latest? found).1
  refine ⟨slots, fun booking => kept.latest?_eq, free, ?_, fun packet => ?_⟩
  · simp only [busyChannels, pending, filterMap_slots slots, List.filter_map, List.map_map]
    refine congrArg _ (List.filter_congr fun booking member => ?_)
    exact congrArg _ (free booking member)
  · have pendingCount : made.countP (·.pending clock) =
        (inSlots count made).countP (·.pending clock) := by
      simpa only [List.countP_eq_length_filter] using (kept.pending_inSlots size).length_eq.symm
    rw [pendingCount, ← countP_not_spent, countP_inSlots, reserve_full_iff, slots,
      List.forall_mem_map]
    simp only [List.mem_range]
    refine forall₂_congr fun slot inside => ?_
    cases found : latest? made slot with
    | none => simp [isFree]
    | some booking =>
        have member : booking ∈ inSlots count made :=
          List.mem_filterMap.mpr ⟨slot, List.mem_range.mpr inside, found⟩
        simp [free booking member]

/-- Two reservations, and one that takes the first one's slot after the counter has wrapped. -/
def requestsOverWrap : List (Nat × TransmitPacket) :=
  [(4294967000, { counter := 200 }), (4294967100, { counter := 5000, frequency := 869525000 }),
    (4294967600, { counter := 9000 })]

theorem slot_taken_over_wrap :
    (requestsOverWrap.map Prod.fst ++ [4294973000]).Pairwise (· ≤ ·) ∧
    (∀ booking ∈ (ofSize 2).bookings requestsOverWrap, booking.Near) ∧
    ((ofSize 2).run requestsOverWrap).busyChannels (Counter.ofTime 4294973000) = [868100000] ∧
    ∀ packet, ((ofSize 2).run requestsOverWrap).reserve packet (Counter.ofTime 4294973000) ≠
      .error .full := by
  have ordered : (requestsOverWrap.map Prod.fst ++ [4294973000]).Pairwise (· ≤ ·) := by decide
  have made : (ofSize 2).bookings requestsOverWrap = [⟨0, 4294967000, { counter := 200 }⟩,
      ⟨1, 4294967100, { counter := 5000, frequency := 869525000 }⟩,
      ⟨0, 4294967600, { counter := 9000 }⟩] := by decide
  have near : ∀ booking ∈ (ofSize 2).bookings requestsOverWrap, booking.Near := by
    rw [made]
    decide
  obtain ⟨-, -, -, busy, full⟩ :=
    slots_taken_until_send_time 2 requestsOverWrap 4294973000 ordered near
  rw [made] at busy full
  refine ⟨ordered, near, busy.trans (by decide), fun packet refused => ?_⟩
  exact absurd ((full packet).mp refused) (by decide)

/-- A reservation whose send time has passed leaves its slot free, and half a turn of the counter
later the slot is taken again, so that the only slot there is is refused. -/
theorem passed_reservation_returns :
    let gate := (ofSize 1).run [(0, { counter := 1000 })]
    let made := (ofSize 1).bookings [(0, { counter := 1000 })]
    (∀ booking ∈ made, booking.Near) ∧
    gate.busyChannels (Counter.ofTime 1001) = [] ∧
    made.countP (·.pending 2147484648) = 0 ∧
    gate.busyChannels (Counter.ofTime 2147484648) = [868100000] ∧
    gate.reserve { counter := 2147489648 } (Counter.ofTime 2147484648) = .error .full := by
  refine ⟨?_, ?_, ?_, ?_, ?_⟩ <;> decide

end ListenGate

end LorawanGateway
