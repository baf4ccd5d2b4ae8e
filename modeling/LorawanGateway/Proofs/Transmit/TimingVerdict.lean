import LorawanGateway.Proofs.Transmit.QueueLaws

/-!
The timing faults of admission. A send time is judged by how far ahead of the present it lies round
the counter, and so one that has gone by is taken for one far ahead: an answer that comes after its
time is refused as too early, and only what is still to come is too late.
-/

namespace LorawanGateway

/-- How far a value of the counter lies ahead of the present, or behind it where that is nearer. -/
def Counter.signedDistance (present value : UInt32) : Int := (value - present).toInt32.toInt

theorem Counter.toNat_sub_eq (present value : UInt32) :
    0 ≤ signedDistance present value ∧
        ((value - present).toNat : Int) = signedDistance present value ∨
      signedDistance present value < 0 ∧ -0x80000000 ≤ signedDistance present value ∧
        ((value - present).toNat : Int) = signedDistance present value + 0x100000000 := by
  have bound := (value - present).toNat_lt
  have signed : signedDistance present value =
      if 2 * (value - present).toNat < 2 ^ 32 then ((value - present).toNat : Int)
      else (value - present).toNat - (2 ^ 32 : Nat) :=
    BitVec.toInt_eq_toNat_cond _
  split at signed <;> omega

namespace TxQueue

variable {queue : TxQueue} {fault : TxError}
variable {now ahead : UInt32} {packet : TransmitPacket} {packetClass : PacketClass}

theorem timingFault?_eq_some_iff (answer : packetClass = .classA ∨ packetClass = .classB) :
    timingFault? packetClass ahead = some fault ↔
      fault = .tooLate ∧ ahead.toNat ≤ Timing.shortNotice ∨
        fault = .tooEarly ∧ Timing.maxAdvance.toNat < ahead.toNat := by
  have late : ahead ≤ Timing.startDelay + Timing.margin + Timing.lead ↔
      ahead.toNat ≤ Timing.shortNotice := UInt32.le_iff_toNat_le
  have early : Timing.maxAdvance < ahead ↔ Timing.maxAdvance.toNat < ahead.toNat :=
    UInt32.lt_iff_toNat_lt
  have short : Timing.shortNotice < Timing.maxAdvance.toNat := by decide
  simp only [timingFault?, late, early, answer, true_and]
  split
  · grind
  · split <;> grind

/-- Where there is a place, the send time is judged first, whatever else is queued. -/
theorem accept_timing_iff (answer : packetClass = .classA ∨ packetClass = .classB)
    (place : queue.hasPlace packetClass = true) (timing : fault = .tooLate ∨ fault = .tooEarly) :
    (queue.accept now packet packetClass).1 = .error fault ↔
      timingFault? packetClass (packet.counter - now) = some fault := by
  have asked : placed (queue.sorted now).entries now packetClass packet = packet :=
    placed_of_ne (ne_of_answer answer).1
  rw [accept_eq, if_pos place]
  simp only [fault?, newcomer, QueueEntry.ahead, QueueEntry.sendTime, asked]
  cases timingFault? packetClass (packet.counter - now) with
  | some other => simp
  | none =>
      cases collided : collision? (queue.sorted now).entries
          ⟨packetClass, packet, (occupied packetClass packet).1,
            (occupied packetClass packet).2⟩ with
      | none => simp
      | some other =>
          have differs : other ≠ fault := by
            rcases collision?_eq_some collided with rfl | rfl <;>
              rcases timing with rfl | rfl <;> decide
          simpa using differs

theorem accept_tooLate_iff (answer : packetClass = .classA ∨ packetClass = .classB)
    (place : queue.hasPlace packetClass = true) :
    (queue.accept now packet packetClass).1 = .error .tooLate ↔
      (packet.counter - now).toNat ≤ Timing.shortNotice := by
  rw [accept_timing_iff answer place (.inl rfl), timingFault?_eq_some_iff answer]
  simp only [true_and, reduceCtorEq, false_and, or_false]

theorem accept_tooEarly_iff (answer : packetClass = .classA ∨ packetClass = .classB)
    (place : queue.hasPlace packetClass = true) :
    (queue.accept now packet packetClass).1 = .error .tooEarly ↔
      Timing.maxAdvance.toNat < (packet.counter - now).toNat := by
  rw [accept_timing_iff answer place (.inr rfl), timingFault?_eq_some_iff answer]
  simp only [reduceCtorEq, false_and, true_and, false_or]

/-- Of the answers that there is a place for, those are too late that lie ahead by too short a
notice, and those are too early that lie too far ahead or whose time has gone by. So the verdict
goes by the distance from the present exactly if the send time has not gone by. -/
theorem timing_verdict (now : UInt32) (packet : TransmitPacket)
    (answer : packetClass = .classA ∨ packetClass = .classB)
    (place : queue.hasPlace packetClass = true) :
    let verdict := (queue.accept now packet packetClass).1
    let distance := Counter.signedDistance now packet.counter
    (verdict = .error .tooLate ↔ 0 ≤ distance ∧ distance ≤ Timing.shortNotice) ∧
      (verdict = .error .tooEarly ↔ distance < 0 ∨ Timing.maxAdvance.toNat < distance) ∧
      (((verdict = .error .tooLate ↔ distance ≤ Timing.shortNotice) ∧
          (verdict = .error .tooEarly ↔ Timing.maxAdvance.toNat < distance)) ↔ 0 ≤ distance) := by
  intro verdict distance
  have far : Timing.maxAdvance.toNat = 512000000 := rfl
  have short := Timing.shortNotice_eq
  have round := Counter.toNat_sub_eq now packet.counter
  have late : verdict = .error .tooLate ↔ 0 ≤ distance ∧ distance ≤ Timing.shortNotice := by
    rw [accept_tooLate_iff answer place]
    omega
  have early : verdict = .error .tooEarly ↔
      distance < 0 ∨ Timing.maxAdvance.toNat < distance := by
    rw [accept_tooEarly_iff answer place]
    omega
  refine ⟨late, early, ?_⟩
  rw [late, early]
  omega

/-- A send time at the last notice that is too short, behind the wrap of the counter. -/
def overWrap : TransmitPacket := { counter := 35204 }

theorem overWrap_tooLate :
    standard.hasPlace .classB = true ∧
      Counter.signedDistance 4294960000 overWrap.counter = Timing.shortNotice ∧
      (standard.accept 4294960000 overWrap .classB).1 = .error .tooLate := by
  have place : standard.hasPlace .classB = true := by decide
  have ahead : Counter.signedDistance 4294960000 overWrap.counter = Timing.shortNotice := by decide
  have verdict := timing_verdict 4294960000 overWrap (.inr rfl) place
  exact ⟨place, ahead, verdict.1.mpr ⟨by rw [ahead]; decide, Int.le_of_eq ahead⟩⟩

/-- An answer that misses its time by a microsecond is refused as too early. -/
theorem missed_answer_tooEarly :
    standard.hasPlace .classA = true ∧
      Counter.signedDistance 1000000 999999 = -1 ∧
      (standard.accept 1000000 { counter := 999999 } .classA).1 = .error .tooEarly ∧
      ¬ ((standard.accept 1000000 { counter := 999999 } .classA).1 = .error .tooLate ↔
        Counter.signedDistance 1000000 999999 ≤ Timing.shortNotice) := by
  have verdict : (standard.accept 1000000 { counter := 999999 } .classA).1 = .error .tooEarly := by
    cbv
  refine ⟨by decide, by decide, verdict, fun claimed => ?_⟩
  rw [verdict] at claimed
  cases claimed.mpr (by decide)

end TxQueue

end LorawanGateway
