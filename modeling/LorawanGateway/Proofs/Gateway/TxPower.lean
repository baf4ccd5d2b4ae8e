import LorawanGateway.Proofs.Gateway.Acknowledgement
import LorawanGateway.Proofs.Transmit.Envelope

/-!
The power of a request. What is aimed at is a difference of two octets and need not be one itself;
it is brought into the range of an octet before the table of the chain is searched. Neither that nor
the order of the table shows in the result: it is the entry of the table nearest to the exact
difference, and the server is told of it exactly if it differs.
-/

namespace LorawanGateway

/-- The power of a table that stands for any integer: the greatest one not above it, or the smallest
one if all are above it. -/
inductive NearestPower (powers : List Int8) (aimed : Int) (power : Int8) : Prop where
  | greatest (supported : power ∈ powers) (within : power.toInt ≤ aimed)
      (most : ∀ other ∈ powers, other.toInt ≤ aimed → other.toInt ≤ power.toInt)
  | smallest (supported : power ∈ powers) (above : ∀ other ∈ powers, aimed < other.toInt)
      (least : ∀ other ∈ powers, power.toInt ≤ other.toInt)

/-- The integer brought into the range of a signed octet. -/
def withinOctet (n : Int) : Int := max (-128) (min 127 n)

theorem withinOctet_bounds (n : Int) : -128 ≤ withinOctet n ∧ withinOctet n ≤ 127 := by
  unfold withinOctet
  omega

theorem withinOctet_of_fits {n : Int} (low : -128 ≤ n) (high : n ≤ 127) : withinOctet n = n := by
  rw [withinOctet, Int.min_eq_right high, Int.max_eq_right low]

/-- The range of an octet does not show in the power that a table has for an integer. -/
theorem nearestPower_of_selectedPower {powers : List Int8} {requested power : Int8} {aimed : Int}
    (brought : requested.toInt = withinOctet aimed)
    (selected : SelectedPower powers requested power) : NearestPower powers aimed power := by
  have low (other : Int8) : -128 ≤ other.toInt := other.le_toInt
  have high (other : Int8) : other.toInt ≤ 127 := other.toInt_le
  unfold withinOctet at brought
  cases selected with
  | greatest supported within most =>
      simp only [Int8.le_iff_toInt_le] at within most
      by_cases far : aimed < -128
      · -- No octet is as low as that, and the one taken is the least of all.
        refine .smallest supported (fun other _ => ?_) fun other _ => ?_
        · have := low other
          omega
        · have := low other
          omega
      · refine .greatest supported (by omega) fun other among below => ?_
        have := high other
        exact most other among (by omega)
  | smallest supported above least =>
      simp only [Int8.lt_iff_toInt_lt, Int8.le_iff_toInt_le] at above least
      refine .smallest supported (fun other among => ?_) least
      have := above other among
      have := high other
      omega

namespace Txpk

/-- The power that a request aims at: what it asks for less the gain of the antenna, or the default
power as it is. -/
def aimedPower (txpk : Txpk) (settings : TxSettings) : Int :=
  txpk.power.elim settings.defaultPower.toInt fun power => power.toInt - settings.antennaGain.toInt

theorem toInt_outputPower (txpk : Txpk) (settings : TxSettings) :
    (txpk.outputPower settings).toInt = withinOctet (txpk.aimedPower settings) := by
  unfold outputPower aimedPower
  cases txpk.power with
  | none =>
      exact (withinOctet_of_fits settings.defaultPower.le_toInt settings.defaultPower.toInt_le).symm
  | some power =>
      obtain ⟨low, high⟩ := withinOctet_bounds (power.toInt - settings.antennaGain.toInt)
      exact Int8.toInt_ofInt_of_le low (Int.lt_add_one_of_le high)

end Txpk

namespace TxScheduler

variable {scheduler after : TxScheduler} {now : UInt32} {packet : TransmitPacket}
variable {packetClass : PacketClass} {acceptance : TxAcceptance}

theorem adjustedPower_ne_of_enqueue
    (accepted : scheduler.enqueue now packet packetClass = (.ok acceptance, after)) :
    acceptance.adjustedPower ≠ some packet.power := by
  obtain ⟨before, placed, -⟩ := placed_of_enqueue accepted
  cases placed with
  | queued found fits asked free same =>
      dsimp only
      split
      · nofun
      · rename_i adjusted
        exact fun same => adjusted (Option.some.inj same)

end TxScheduler

namespace Gateway

variable {gateway after : Gateway} {txpk : Txpk} {status : TxAckStatus}
variable {packet : TransmitPacket} {packetClass : PacketClass}
variable {down counted : DownlinkCounters} {acceptance : TxAcceptance}

/-- The server is told of a power exactly if it is not the requested one. -/
theorem statusOf_eq (packetClass : PacketClass)
    (adjusted : acceptance.adjustedPower ≠ some packet.power) :
    let power := (acceptance.entry packet packetClass).packet.power
    statusOf (.ok acceptance) =
      if power = packet.power then .accepted else .powerAdjusted power := by
  obtain ⟨sendTime, given⟩ := acceptance
  cases given with
  | none => exact (if_pos rfl).symm
  | some power => exact (if_neg fun same => adjusted (congrArg some same)).symm

theorem enqueue_eq_ok (asked : gateway.enqueue packet packetClass = (.ok acceptance, after)) :
    ∃ now scheduler,
      gateway.scheduler.enqueue now packet packetClass = (.ok acceptance, scheduler) ∧
      after.scheduler = scheduler := by
  unfold enqueue at asked
  cases clock : gateway.radio.now? with
  | none =>
      simp only [clock, Prod.mk.injEq] at asked
      cases asked.1
  | some now =>
      simp only [clock, Prod.mk.injEq] at asked
      obtain ⟨accepted, rfl⟩ := asked
      exact ⟨now, _, Prod.ext accepted rfl, rfl⟩

theorem accepted_of_request (answered : gateway.request txpk down = (status, after, counted))
    (taken : ∀ cause, status ≠ .rejected cause) :
    ∃ packet packetClass acceptance,
      txpk.toTransmit gateway.txSettings = .ok (packet, packetClass) ∧
      gateway.enqueue packet packetClass = (.ok acceptance, after) ∧
      status = statusOf (.ok acceptance) := by
  unfold request at answered
  cases made : txpk.toTransmit gateway.txSettings with
  | error fault =>
      simp only [made, Prod.mk.injEq] at answered
      exact absurd answered.1.symm (taken _)
  | ok result =>
      obtain ⟨packet, packetClass⟩ := result
      simp only [made, Prod.mk.injEq] at answered
      obtain ⟨told, same, -⟩ := answered
      cases outcome : (gateway.enqueue packet packetClass).1 with
      | error cause =>
          rw [outcome] at told
          exact absurd told.symm (taken cause)
      | ok acceptance =>
          rw [outcome] at told
          exact ⟨packet, packetClass, acceptance, rfl, Prod.ext outcome same, told.symm⟩

/-- The packet that an accepted request queues has the power nearest to the one aimed at, out of
the table of its chain. The power aimed at is what the request asks for less the gain of the
antenna, as an integer of any size, or the default power. If it is an octet, the server is told of
the power taken exactly if it is another one. -/
theorem request_power_nearest (answered : gateway.request txpk down = (status, after, counted))
    (taken : ∀ cause, status ≠ .rejected cause) :
    ∃ entry envelope,
      TxScheduler.Gained gateway.scheduler after.scheduler entry ∧
      txpk.rfChain = some entry.packet.rfChain ∧
      gateway.scheduler.envelopes[entry.packet.rfChain.toNat]? = some envelope ∧
      NearestPower envelope.powers (txpk.aimedPower gateway.txSettings) entry.packet.power ∧
      (-128 ≤ txpk.aimedPower gateway.txSettings ∧ txpk.aimedPower gateway.txSettings ≤ 127 →
        (entry.packet.power.toInt ≠ txpk.aimedPower gateway.txSettings →
          status = .powerAdjusted entry.packet.power) ∧
        (status = .accepted ↔ entry.packet.power.toInt = txpk.aimedPower gateway.txSettings)) := by
  obtain ⟨packet, packetClass, acceptance, made, asked, rfl⟩ := accepted_of_request answered taken
  obtain ⟨now, scheduler, accepted, rfl⟩ := enqueue_eq_ok asked
  have joined := TxScheduler.enqueue_joined accepted
  obtain ⟨envelope, found, permits, -⟩ :=
    TxScheduler.permits_of_enqueue (congrArg Prod.fst accepted)
  have told := statusOf_eq packetClass (TxScheduler.adjustedPower_ne_of_enqueue accepted)
  have aimed : packet.power.toInt = withinOctet (txpk.aimedPower gateway.txSettings) := by
    obtain ⟨_, _, _, _, _, -, -, -, -, -, -, rfl⟩ := Txpk.toTransmit_eq_ok_iff.mp made
    exact txpk.toInt_outputPower gateway.txSettings
  refine ⟨acceptance.entry packet packetClass, envelope, ⟨joined.entries, joined.others⟩,
    (Txpk.asksFor_of_toTransmit made).chain, found,
    nearestPower_of_selectedPower aimed permits.power, fun ⟨low, high⟩ => ?_⟩
  rw [← withinOctet_of_fits low high, ← aimed, told]
  simp only [ne_eq, Int8.toInt_inj]
  by_cases same : (acceptance.entry packet packetClass).packet.power = packet.power
  · simp [same]
  · simp [same]

def strongRequest : Txpk where
  counter := some 500000
  frequency := some 868.1
  rfChain := some 0
  power := some 15
  modulation := some "LORA"
  dataRate := some (.name "SF7BW125")
  codingRate := some "4/5"
  size := some 1
  data := some "eA=="

/-- A gateway whose antenna adds two decibels. -/
def gainingGateway : Gateway where
  id := ⟨0xAA555A0000000000⟩
  config := { antennaGain := 2 }
  store := {}
  radio := {}
  scheduler := .ofEnvelopes [{}, {}] none

/-- Thirteen dBm are not in the table, twelve are. -/
theorem strong_request_power_nearest :
    ∃ entry, TxScheduler.Gained gainingGateway.scheduler
        (gainingGateway.request strongRequest {}).2.1.scheduler entry ∧
      NearestPower [0, 6, 10, 12, 14, 16, 20, 27] 13 entry.packet.power ∧
      (gainingGateway.request strongRequest {}).1 = .powerAdjusted entry.packet.power ∧
      entry.packet.power = 12 := by
  have told : (gainingGateway.request strongRequest {}).1 = .powerAdjusted 12 := by decide +kernel
  have answered : gainingGateway.request strongRequest {} = (_, _, _) := rfl
  obtain ⟨entry, envelope, gained, directed, found, nearest, usual⟩ :=
    request_power_nearest answered fun cause rejected => by cases told.symm.trans rejected
  have aimed : strongRequest.aimedPower gainingGateway.txSettings = 13 := by decide
  obtain ⟨other, same⟩ := usual (by decide)
  have differs : entry.packet.power.toInt ≠ 13 := fun equal => by
    cases told.symm.trans (same.mpr (equal.trans aimed.symm))
  have adjusted := other (aimed ▸ differs)
  have chain : (0 : UInt8) = entry.packet.rfChain := Option.some.inj directed
  rw [← chain] at found
  have table : ({} : TxEnvelope) = envelope := Option.some.inj found
  subst table
  have twelve : (12 : Int8) = entry.packet.power :=
    TxAckStatus.powerAdjusted.inj (told.symm.trans adjusted)
  exact ⟨entry, gained, aimed ▸ nearest, adjusted, twelve.symm⟩

end Gateway

end LorawanGateway
