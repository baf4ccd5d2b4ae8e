import LorawanGateway.Proofs.Octets
import LorawanGateway.Proofs.Run
import LorawanGateway.Transmit.Beacon

/-!
The GPS seconds of the beacons that a planner allocates. The next second is taken from the beacon
accepted last or from the present, whichever leads further, and each refusal since then moves it on
by one spacing. The second accepted last is a multiple of the spacing, so that either way the next
one is a multiple, behind the last beacon and behind the present. Nothing is assumed of what an
attempt meets: the reference may jump, and the queues may be in any state.
-/

namespace LorawanGateway

/-- What an attempt to queue a beacon meets. -/
structure BeaconMoment where
  scheduler : TxScheduler
  now : UInt32
  reference : TimeReference

/-- What a fill meets. -/
structure BeaconSurroundings where
  scheduler : TxScheduler
  counter : Option UInt32
  clock : GpsClock

/-- A beacon that a scheduler accepted: its GPS second, and the reference it was planned with. -/
structure AllocatedBeacon where
  second : Nat
  reference : TimeReference

namespace AllocatedBeacon

/-- Whether some beacons, in their order, leave at different multiples of a period, each after the
one before and after the time of its reference. -/
structure Timely (period : Nat) (beacons : List AllocatedBeacon) : Prop where
  multiple : ∀ beacon ∈ beacons, period ∣ beacon.second
  ahead : ∀ beacon ∈ beacons, beacon.reference.gps.seconds < beacon.second
  increasing : beacons.Pairwise (·.second < ·.second)

theorem Timely.nil {period : Nat} : Timely period [] := ⟨by simp, by simp, .nil⟩

theorem Timely.cons {period : Nat} {beacon : AllocatedBeacon} {beacons : List AllocatedBeacon}
    (timely : Timely period beacons) (multiple : period ∣ beacon.second)
    (ahead : beacon.reference.gps.seconds < beacon.second)
    (first : ∀ later ∈ beacons, beacon.second < later.second) :
    Timely period (beacon :: beacons) where
  multiple := List.forall_mem_cons.mpr ⟨multiple, timely.multiple⟩
  ahead := List.forall_mem_cons.mpr ⟨ahead, timely.ahead⟩
  increasing := .cons first timely.increasing

end AllocatedBeacon

/-- Whether a packet is a beacon for a GPS second: it leaves on the first chain when the counter
reads what a reference gives for the second, and its payload tells the second, as far as 32 bits
can tell it. -/
structure TransmitPacket.IsBeaconFor (packet : TransmitPacket) (layout : BeaconLayout)
    (second : Nat) (reference : TimeReference) : Prop where
  mode : packet.mode = .onGps
  counter : packet.counter = reference.counterAt (.of second 0)
  chain : packet.rfChain = 0
  told : packet.payload.word32At layout.reservedBefore = .ofNat second

namespace BeaconPlanner

open AllocatedBeacon

variable {planner : BeaconPlanner} {moment : BeaconMoment} {last present : Nat}
variable {acceptance : TxAcceptance} {fault : TxError} {after : TxScheduler}

theorem spacing_pos (planner : BeaconPlanner) : 0 < planner.spacing := Nat.le_max_right ..

theorem spacing_of_pos (positive : 0 < planner.config.period) :
    planner.spacing = planner.config.period.toNat :=
  Nat.max_eq_left (UInt32.lt_iff_toNat_lt.mp positive)

theorem dvd_nextMultiple (planner : BeaconPlanner) (second : Nat) :
    planner.spacing ∣ planner.nextMultiple second := by
  have split : planner.nextMultiple second =
      planner.spacing * (second / planner.spacing) + planner.spacing := by
    have parts := Nat.div_add_mod second planner.spacing
    have rest := Nat.mod_lt second planner.spacing_pos
    rw [nextMultiple]
    omega
  rw [split]
  exact Nat.dvd_add (Nat.dvd_mul_right ..) (Nat.dvd_refl _)

theorem lt_nextMultiple (planner : BeaconPlanner) (second : Nat) :
    second < planner.nextMultiple second :=
  Nat.lt_add_of_pos_right (Nat.sub_pos_of_lt (Nat.mod_lt _ planner.spacing_pos))

/-- Whether the beacon accepted last, if any, left at a multiple of the spacing. -/
def Aligned (planner : BeaconPlanner) : Prop :=
  ∀ last ∈ planner.lastSecond, planner.spacing ∣ last

/-- The next second lies some spacings behind a base that is already as it should be. -/
theorem nextSecond_eq (planner : BeaconPlanner) (present : Nat) :
    ∃ base, planner.nextSecond present = base + planner.retries * planner.spacing ∧
      present < base ∧ (planner.Aligned → planner.spacing ∣ base) ∧
      ∀ last ∈ planner.lastSecond, last < base := by
  have positive := planner.spacing_pos
  have above := planner.lt_nextMultiple present
  have multiple := planner.dvd_nextMultiple present
  unfold Aligned
  cases found : planner.lastSecond with
  | none => exact ⟨_, by simp only [nextSecond, found], above, fun _ => multiple, by simp⟩
  | some last =>
      by_cases behind : present < last + planner.spacing
      · refine ⟨_, by simp only [nextSecond, found, if_pos behind], behind, fun aligned => ?_, ?_⟩
        · exact Nat.dvd_add (aligned last rfl) (Nat.dvd_refl _)
        · rintro _ ⟨⟩
          omega
      · refine ⟨_, by simp only [nextSecond, found, if_neg behind], above, fun _ => multiple, ?_⟩
        rintro _ ⟨⟩
        omega

theorem lt_nextSecond (planner : BeaconPlanner) (present : Nat) :
    present < planner.nextSecond present := by
  obtain ⟨base, next, ahead, -, -⟩ := planner.nextSecond_eq present
  omega

theorem last_lt_nextSecond (found : last ∈ planner.lastSecond) (present : Nat) :
    last < planner.nextSecond present := by
  obtain ⟨base, next, -, -, later⟩ := planner.nextSecond_eq present
  have := later last found
  omega

theorem Aligned.dvd_nextSecond (aligned : planner.Aligned) (present : Nat) :
    planner.spacing ∣ planner.nextSecond present := by
  obtain ⟨base, next, -, multiple, -⟩ := planner.nextSecond_eq present
  rw [next]
  exact Nat.dvd_add (multiple aligned) (Nat.dvd_mul_left ..)

theorem word32At_payload (planner : BeaconPlanner) (second : Nat) :
    (planner.payload second).word32At planner.layout.reservedBefore = .ofNat second := by
  rw [← UInt32.toNat_inj]
  simp [payload, checked, timePart, Octets.word32At, Octets.toNatLE_ofNatLE]

theorem isBeaconFor_packet (planner : BeaconPlanner) (second : Nat) (reference : TimeReference) :
    (planner.packet second reference).IsBeaconFor planner.layout second reference where
  mode := rfl
  counter := rfl
  chain := rfl
  told := planner.word32At_payload second

/-- The second that an attempt asks for. -/
def target (planner : BeaconPlanner) (moment : BeaconMoment) : Nat :=
  planner.nextSecond moment.reference.gps.seconds

/-- What an attempt asks of the scheduler, with its answer. -/
def ask (planner : BeaconPlanner) (moment : BeaconMoment) :
    Except TxError TxAcceptance × TxScheduler :=
  moment.scheduler.enqueue moment.now
    (planner.packet (planner.target moment) moment.reference) .beacon

def attemptAt (planner : BeaconPlanner) (moment : BeaconMoment) : BeaconPlanner :=
  (planner.attempt moment.scheduler moment.now moment.reference {}).1

/-- The beacon of an attempt, if the scheduler accepts it. -/
def allocated (planner : BeaconPlanner) (moment : BeaconMoment) : List AllocatedBeacon :=
  match (planner.ask moment).1 with
  | .ok _ => [⟨planner.target moment, moment.reference⟩]
  | .error _ => []

/-- The beacons that some attempts allocate, in their order. -/
def allocations (planner : BeaconPlanner) (moments : List BeaconMoment) : List AllocatedBeacon :=
  gather attemptAt allocated planner moments

theorem attempt_ok (fill : BeaconFill) (asked : planner.ask moment = (.ok acceptance, after)) :
    planner.attempt moment.scheduler moment.now moment.reference fill =
      ({ planner with lastSecond := some (planner.target moment), retries := 0 }, after,
        { fill with queued := fill.queued + 1 }) := by
  unfold ask target at asked
  simp only [attempt, asked, target]

theorem attempt_error (fill : BeaconFill) (asked : planner.ask moment = (.error fault, after)) :
    planner.attempt moment.scheduler moment.now moment.reference fill =
      ({ planner with retries := planner.retries + 1 }, after,
        if fault = .beaconCollision then fill
        else { fill with rejected := fill.rejected + 1 }) := by
  unfold ask target at asked
  simp only [attempt, asked]

theorem attemptAt_cases (planner : BeaconPlanner) (moment : BeaconMoment) :
    (planner.attemptAt moment =
        { planner with lastSecond := some (planner.target moment), retries := 0 } ∧
      planner.allocated moment = [⟨planner.target moment, moment.reference⟩]) ∨
    (planner.attemptAt moment = { planner with retries := planner.retries + 1 } ∧
      planner.allocated moment = []) := by
  rcases asked : planner.ask moment with ⟨fault | acceptance, after⟩
  · exact .inr ⟨by rw [attemptAt, attempt_error _ asked], by rw [allocated, asked]⟩
  · exact .inl ⟨by rw [attemptAt, attempt_ok _ asked], by rw [allocated, asked]⟩

theorem layout_foldl_attemptAt (planner : BeaconPlanner) (moments : List BeaconMoment) :
    (moments.foldl attemptAt planner).layout = planner.layout := by
  induction moments generalizing planner with
  | nil => rfl
  | cons moment rest induction =>
      refine (induction (planner.attemptAt moment)).trans ?_
      rcases planner.attemptAt_cases moment with ⟨after, -⟩ | ⟨after, -⟩ <;> rw [after]

/-- An allocated beacon was accepted as a packet that leaves at its second and tells it. -/
theorem accepted_of_mem_allocations {moments : List BeaconMoment} {beacon : AllocatedBeacon}
    (member : beacon ∈ planner.allocations moments) :
    ∃ moment ∈ moments, ∃ packet acceptance,
      packet.IsBeaconFor planner.layout beacon.second moment.reference ∧
      beacon.reference = moment.reference ∧
      (moment.scheduler.enqueue moment.now packet .beacon).1 = .ok acceptance := by
  obtain ⟨before, moment, later, rfl, here⟩ := mem_gather.mp member
  have sameLayout := planner.layout_foldl_attemptAt before
  generalize before.foldl attemptAt planner = last at here sameLayout
  rw [allocated] at here
  cases asked : (last.ask moment).1 with
  | error fault =>
      rw [asked] at here
      cases here
  | ok acceptance =>
      rw [asked] at here
      obtain rfl := List.mem_singleton.mp here
      exact ⟨moment, List.mem_append_right _ List.mem_cons_self, _, acceptance,
        sameLayout ▸ last.isBeaconFor_packet _ moment.reference, rfl, asked⟩

/-- What is counted in a fill has no say in what the next attempt does. -/
theorem attempt_eq (planner : BeaconPlanner) (moment : BeaconMoment) (fill : BeaconFill) :
    ∃ rejected, planner.attempt moment.scheduler moment.now moment.reference fill =
      (planner.attemptAt moment, (planner.ask moment).2,
        ⟨fill.queued + (planner.allocated moment).length, rejected⟩) := by
  rcases asked : planner.ask moment with ⟨fault | acceptance, after⟩
  · rw [attemptAt, attempt_error _ asked, attempt_error _ asked, allocated, asked]
    split
    · exact ⟨fill.rejected, rfl⟩
    · exact ⟨fill.rejected + 1, rfl⟩
  · rw [attemptAt, attempt_ok _ asked, attempt_ok _ asked, allocated, asked]
    exact ⟨fill.rejected, rfl⟩

/-- Whatever the attempts of a run meet, the beacons they allocate are timely and later than the
one accepted before the run. -/
theorem Aligned.allocations (aligned : planner.Aligned) (moments : List BeaconMoment) :
    Timely planner.spacing (planner.allocations moments) ∧
      ∀ last ∈ planner.lastSecond, ∀ beacon ∈ planner.allocations moments,
        last < beacon.second := by
  induction moments generalizing planner with
  | nil => exact ⟨.nil, fun _ _ _ member => nomatch member⟩
  | cons moment rest induction =>
      have multiple : planner.spacing ∣ planner.target moment := aligned.dvd_nextSecond _
      change Timely _ (planner.allocated moment ++ (planner.attemptAt moment).allocations rest) ∧
        ∀ last ∈ _, ∀ beacon ∈ planner.allocated moment ++ _, _
      rcases planner.attemptAt_cases moment with ⟨after, made⟩ | ⟨after, silent⟩
      · rw [after, made, List.singleton_append]
        have alignedAfter :
            Aligned { planner with lastSecond := some (planner.target moment), retries := 0 } := by
          rintro _ ⟨⟩
          exact multiple
        obtain ⟨timely, later⟩ := induction alignedAfter
        have first := later (planner.target moment) rfl
        refine ⟨timely.cons multiple (planner.lt_nextSecond _) first, fun last found => ?_⟩
        have behind : last < planner.target moment := last_lt_nextSecond found _
        exact List.forall_mem_cons.mpr
          ⟨behind, fun beacon member => Nat.lt_trans behind (first beacon member)⟩
      · rw [after, silent, List.nil_append]
        have alignedAfter : Aligned { planner with retries := planner.retries + 1 } := aligned
        exact induction alignedAfter

/-- The moments that at most `count` attempts of a fill meet. -/
def momentsIn (now : UInt32) (reference : TimeReference) :
    (count : Nat) → BeaconPlanner → TxScheduler → List BeaconMoment
  | 0, _, _ => []
  | count + 1, planner, scheduler =>
    if TxQueue.standardBeacons ≤ scheduler.beaconCount 0 then []
    else
      let moment : BeaconMoment := ⟨scheduler, now, reference⟩
      moment :: momentsIn now reference count (planner.attemptAt moment) (planner.ask moment).2

theorem attempts_eq (now : UInt32) (reference : TimeReference) (count : Nat)
    (planner : BeaconPlanner) (scheduler : TxScheduler) (fill : BeaconFill) :
    let moments := momentsIn now reference count planner scheduler
    let (after, _, outcome) := attempts now reference count planner scheduler fill
    after = moments.foldl attemptAt planner ∧
      outcome.queued = fill.queued + (planner.allocations moments).length := by
  induction count generalizing planner scheduler fill with
  | zero => exact ⟨rfl, rfl⟩
  | succ count induction =>
      rw [momentsIn, attempts]
      split
      · exact ⟨rfl, rfl⟩
      · let moment : BeaconMoment := ⟨scheduler, now, reference⟩
        obtain ⟨rejected, attempted⟩ := planner.attempt_eq moment fill
        obtain ⟨after, queued⟩ := induction (planner.attemptAt moment) (planner.ask moment).2
          ⟨fill.queued + (planner.allocated moment).length, rejected⟩
        rw [attempted]
        exact ⟨after, queued.trans (by
          simp only [moment, allocations, gather, List.length_append, Nat.add_assoc])⟩

/-- The moments that the attempts of a fill meet; none while nothing can be planned. -/
def moments (planner : BeaconPlanner) (met : BeaconSurroundings) : List BeaconMoment :=
  match planner.isEnabled, met.clock.reference?, met.counter with
  | true, some reference, some now => momentsIn now reference maxAttempts planner met.scheduler
  | _, _, _ => []

def fillAmid (planner : BeaconPlanner) (met : BeaconSurroundings) :
    BeaconPlanner × TxScheduler × BeaconFill :=
  planner.fill met.scheduler met.counter met.clock

theorem fill_eq (planner : BeaconPlanner) (met : BeaconSurroundings) :
    (planner.fillAmid met).1 = (planner.moments met).foldl attemptAt planner ∧
      (planner.fillAmid met).2.2.queued = (planner.allocations (planner.moments met)).length := by
  unfold fillAmid fill moments
  cases planner.isEnabled with
  | false => exact ⟨rfl, rfl⟩
  | true =>
      cases met.clock.reference? with
      | none => exact ⟨rfl, rfl⟩
      | some reference =>
          cases met.counter with
          | none => exact ⟨rfl, rfl⟩
          | some now =>
              obtain ⟨after, queued⟩ :=
                attempts_eq now reference maxAttempts planner met.scheduler {}
              exact ⟨after, queued.trans (Nat.zero_add _)⟩

/-- The beacons that some fills allocate, in their order. -/
def fillsAllocations (planner : BeaconPlanner) (fills : List BeaconSurroundings) :
    List AllocatedBeacon :=
  gather (fun planner met => (planner.fillAmid met).1)
    (fun planner met => planner.allocations (planner.moments met)) planner fills

/-- A run of fills is a run of attempts. -/
theorem fillsAllocations_eq (planner : BeaconPlanner) (fills : List BeaconSurroundings) :
    ∃ moments, planner.fillsAllocations fills = planner.allocations moments := by
  induction fills generalizing planner with
  | nil => exact ⟨[], rfl⟩
  | cons met rest induction =>
      obtain ⟨others, same⟩ := induction (planner.fillAmid met).1
      refine ⟨planner.moments met ++ others, ?_⟩
      rw [allocations, gather_append, ← (planner.fill_eq met).1]
      exact congrArg (planner.allocations (planner.moments met) ++ ·) same

/-- How many beacons some fills say they queued, all together. -/
def queuedIn (planner : BeaconPlanner) : List BeaconSurroundings → Nat
  | [] => 0
  | met :: rest =>
    let (after, _, outcome) := planner.fillAmid met
    outcome.queued + queuedIn after rest

theorem queuedIn_eq (planner : BeaconPlanner) (fills : List BeaconSurroundings) :
    planner.queuedIn fills = (planner.fillsAllocations fills).length := by
  induction fills generalizing planner with
  | nil => rfl
  | cons met rest induction =>
      have later := induction (planner.fillAmid met).1
      unfold fillsAllocations at later ⊢
      rw [gather, List.length_append, ← later, ← (planner.fill_eq met).2]
      rfl

theorem parts_of_ofConfig {config : BeaconConfig} {position : Coordinates}
    (made : ofConfig config position = .ok planner) :
    ∃ layout bandwidth, BeaconLayout.ofDataRate config.dataRate = .ok layout ∧
      beaconBandwidth config.bandwidth = .ok bandwidth ∧
      planner = {
        config, layout, bandwidth
        latitude := fixedPoint position.latitude 90
        longitude := fixedPoint position.longitude 180 } := by
  unfold ofConfig at made
  cases layout : BeaconLayout.ofDataRate config.dataRate <;>
    cases bandwidth : beaconBandwidth config.bandwidth <;> rw [layout, bandwidth] at made <;>
    cases made
  exact ⟨_, _, rfl, rfl, rfl⟩

theorem ofConfig_eq_ok {config : BeaconConfig} {position : Coordinates}
    (made : ofConfig config position = .ok planner) :
    planner.config = config ∧ planner.lastSecond = none := by
  obtain ⟨layout, bandwidth, -, -, rfl⟩ := parts_of_ofConfig made
  exact ⟨rfl, rfl⟩

/-- The beacons that a planner gets accepted leave at different multiples of its period, in
increasing order over its whole life, and each after the time of its own reference. This is so
whatever each attempt meets, thus also in any run of fills, which count just these beacons. Each of
them was accepted as a packet that leaves at its second and tells it. -/
theorem beacons_timely {config : BeaconConfig} {position : Coordinates}
    (made : ofConfig config position = .ok planner) (positive : 0 < config.period) :
    (∀ moments : List BeaconMoment,
      Timely config.period.toNat (planner.allocations moments)) ∧
    (∀ fills : List BeaconSurroundings,
      Timely config.period.toNat (planner.fillsAllocations fills) ∧
        planner.queuedIn fills = (planner.fillsAllocations fills).length) ∧
    ∀ moments : List BeaconMoment, ∀ beacon ∈ planner.allocations moments,
      ∃ moment ∈ moments, ∃ packet acceptance,
        packet.IsBeaconFor planner.layout beacon.second moment.reference ∧
        beacon.reference = moment.reference ∧
        (moment.scheduler.enqueue moment.now packet .beacon).1 = .ok acceptance := by
  obtain ⟨rfl, fresh⟩ := ofConfig_eq_ok made
  have aligned : planner.Aligned := by simp [Aligned, fresh]
  have ofMoments : ∀ moments, Timely planner.config.period.toNat (planner.allocations moments) :=
    fun moments => spacing_of_pos positive ▸ (aligned.allocations moments).1
  refine ⟨ofMoments, fun fills => ⟨?_, planner.queuedIn_eq fills⟩,
    fun _ _ => accepted_of_mem_allocations⟩
  obtain ⟨moments, same⟩ := planner.fillsAllocations_eq fills
  exact same ▸ ofMoments moments

def plannerOfTwoMinutes : BeaconPlanner where
  config := { period := 128 }
  layout := ⟨.sf9, 2, 0⟩
  bandwidth := .bw125
  latitude := fixedPoint 0 90
  longitude := fixedPoint 0 180

/-- Attempts whose reference jumps back by more than a period and comes back much later. An answer
that is queued stands in the way of the second one. -/
def momentsOverJumps : List BeaconMoment :=
  let empty : TxScheduler := .ofEnvelopes [{}] none
  let blocked := (empty.enqueue 0 { counter := 452000000 } .classB).2
  let reference (second : Nat) : TimeReference := ⟨0, .of second 0, 1.0⟩
  [⟨empty, 0, reference 1000⟩, ⟨blocked, 0, reference 700⟩, ⟨empty, 0, reference 700⟩,
    ⟨empty, 0, reference 5000⟩]

theorem beacons_timely_over_jumps :
    ofConfig { period := 128 } .zero = .ok plannerOfTwoMinutes ∧ 0 < (128 : UInt32) ∧
    (plannerOfTwoMinutes.allocations momentsOverJumps).map (·.second) = [1024, 1280, 5120] ∧
    Timely 128 (plannerOfTwoMinutes.allocations momentsOverJumps) := by
  have made : ofConfig { period := 128 } .zero = .ok plannerOfTwoMinutes := rfl
  exact ⟨made, by decide, by decide +kernel,
    (beacons_timely made (by decide)).1 momentsOverJumps⟩

end BeaconPlanner

end LorawanGateway
