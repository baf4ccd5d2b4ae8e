import Mathlib.Data.List.Chain
import LorawanGateway.Proofs.Transmit.BeaconTimes
import LorawanGateway.Proofs.Transmit.SchedulerRun

/-!
What a fill does to its scheduler. Each attempt reads the GPS reference and the counter anew, and
stops the fill where there is none; otherwise it makes one request. So the requests of a fill tell
all it does: they leave the scheduler as it is found afterwards, and what a fill says of itself and
the counters of the scheduler are kept in step request by request.
-/

namespace LorawanGateway

/-- What an attempt finds of the GPS reference and of the counter. -/
structure BeaconReading where
  reference : Option TimeReference
  counter : Option UInt32

/-- A request of a fill, with the answer of the scheduler. -/
structure BeaconRequest where
  now : UInt32
  reference : TimeReference
  second : Nat
  outcome : Except TxError TxAcceptance

def BeaconFill.add (fill more : BeaconFill) : BeaconFill :=
  ⟨fill.queued + more.queued, fill.rejected + more.rejected⟩

theorem BeaconFill.empty_add (fill : BeaconFill) : add {} fill = fill := by simp [add]

/-- The moment of an attempt; none where the fill stops instead of asking. -/
def BeaconReading.moment? (reading : BeaconReading) (scheduler : TxScheduler) :
    Option BeaconMoment :=
  if TxQueue.standardBeacons ≤ scheduler.beaconCount 0 then none
  else
    match reading.reference, reading.counter with
    | some reference, some now => some ⟨scheduler, now, reference⟩
    | _, _ => none

namespace BeaconReading

variable {reading : BeaconReading} {scheduler : TxScheduler} {moment : BeaconMoment}

theorem moment?_eq_some (met : reading.moment? scheduler = some moment) :
    scheduler.beaconCount 0 < TxQueue.standardBeacons ∧ moment.scheduler = scheduler ∧
      reading = ⟨some moment.reference, some moment.now⟩ := by
  obtain ⟨reference | reference, counter | now⟩ := reading <;>
    simp only [moment?, ite_self, reduceCtorEq, Option.ite_none_left_eq_some, Nat.not_le,
      Option.some.injEq] at met
  obtain ⟨short, rfl⟩ := met
  exact ⟨short, rfl, rfl⟩

theorem moment?_eq_none (stopped : reading.moment? scheduler = none)
    (short : scheduler.beaconCount 0 < TxQueue.standardBeacons) :
    reading.reference = none ∨ reading.counter = none := by
  obtain ⟨reference | reference, counter | now⟩ := reading
  · exact .inl rfl
  · exact .inl rfl
  · exact .inr rfl
  · simp only [moment?, if_neg (Nat.not_le.mpr short), reduceCtorEq] at stopped

end BeaconReading

namespace BeaconRequest

/-- What was read before a request. -/
def reading (request : BeaconRequest) : BeaconReading := ⟨request.reference, request.now⟩

def fault? (request : BeaconRequest) : Option TxError :=
  match request.outcome with
  | .ok _ => none
  | .error fault => some fault

/-- The refusals that a fill leaves to later attempts without a word. -/
def collisions (requests : List BeaconRequest) : Nat :=
  requests.countP (·.fault? = some .beaconCollision)

/-- What a fill counts of its requests. -/
def tally (requests : List BeaconRequest) : BeaconFill where
  queued := requests.countP (·.fault? = none)
  rejected := requests.countP fun request =>
    request.fault? ≠ none ∧ request.fault? ≠ some .beaconCollision

theorem tally_append (first second : List BeaconRequest) :
    tally (first ++ second) = (tally first).add (tally second) := by
  simp [tally, BeaconFill.add, List.countP_append]

theorem collisions_append (first second : List BeaconRequest) :
    collisions (first ++ second) = collisions first + collisions second :=
  List.countP_append

/-- What some requests for beacons on the first chain leave behind. -/
structure Booked (before : TxScheduler) (requests : List BeaconRequest) (after : TxScheduler) :
    Prop where
  beaconCount : after.beaconCount 0 = before.beaconCount 0 + (tally requests).queued
  others : ∀ chain ≠ 0, after.queue? chain = before.queue? chain
  gate : after.gate = before.gate
  statistics : after.statistics = { before.statistics with
    enqueued := before.statistics.enqueued + (tally requests).queued
    rejected := before.statistics.rejected +
      ((tally requests).rejected + collisions requests) }

variable {before middle after : TxScheduler} {request : BeaconRequest}
variable {first second : List BeaconRequest}

theorem Booked.nil : Booked before [] before := ⟨rfl, fun _ _ => rfl, rfl, rfl⟩

theorem Booked.append (earlier : Booked before first middle)
    (later : Booked middle second after) : Booked before (first ++ second) after where
  beaconCount := by
    rw [later.beaconCount, earlier.beaconCount, tally_append, Nat.add_assoc]
    rfl
  others chain other := (later.others chain other).trans (earlier.others chain other)
  gate := later.gate.trans earlier.gate
  statistics := by
    rw [later.statistics, earlier.statistics, tally_append, collisions_append]
    simp only [BeaconFill.add, TxStatistics.mk.injEq, and_true]
    omega

/-- A refusal is counted once, by the fill or as a collision. -/
theorem tally_refused {fault : TxError} (refused : request.fault? = some fault) :
    (tally [request]).queued = 0 ∧ (tally [request]).rejected + collisions [request] = 1 := by
  by_cases collided : fault = .beaconCollision <;>
    simp [tally, collisions, refused, collided]

theorem tally_accepted (accepted : request.fault? = none) :
    tally [request] = ⟨1, 0⟩ ∧ collisions [request] = 0 := by
  simp [tally, collisions, accepted]

theorem booked_of_enqueue {now : UInt32} {packet : TransmitPacket} (first : packet.rfChain = 0)
    (asked : before.enqueue now packet .beacon = (request.outcome, after)) :
    Booked before [request] after := by
  have chain : packet.rfChain.toNat = 0 := congrArg UInt8.toNat first
  have others (index : Nat) (other : index ≠ 0) : after.queue? index = before.queue? index := by
    obtain ⟨placed, asPlaced, chains, -, -⟩ := TxScheduler.placed_of_enqueue asked
    rw [TxScheduler.queue?_congr chains, asPlaced.queue?_other (chain.symm ▸ other)]
  cases answer : request.outcome with
  | error fault =>
      rw [answer] at asked
      have refused := TxScheduler.enqueue_refused asked
      have faulty : request.fault? = some fault := by rw [fault?, answer]
      obtain ⟨unqueued, once⟩ := tally_refused faulty
      refine ⟨?_, others, refused.gate, ?_⟩
      · rw [refused.beaconCount, unqueued, Nat.add_zero]
      · rw [refused.statistics, unqueued, once]
        rfl
  | ok acceptance =>
      rw [answer] at asked
      have joined := TxScheduler.enqueue_joined asked
      have faultless : request.fault? = none := by rw [fault?, answer]
      obtain ⟨one, uncollided⟩ := tally_accepted faultless
      have count := joined.beaconCount
      have gate := joined.gate
      have own : (acceptance.entry packet .beacon).packet.rfChain.toNat = 0 := chain
      have beacon : (acceptance.entry packet .beacon).isBeacon = true := rfl
      rw [own, beacon, if_pos rfl] at count
      refine ⟨?_, others, ?_, ?_⟩
      · rw [count, one]
      · cases held : before.gate with
        | none => rwa [held] at gate
        | some slots => rwa [held, TxScheduler.Reserves, if_pos beacon] at gate
      · rw [joined.statistics, one, uncollided]
        rfl

end BeaconRequest

namespace BeaconPlanner

open BeaconRequest

variable {planner : BeaconPlanner} {scheduler : TxScheduler} {moment : BeaconMoment}

/-- The attempts of a fill, one for each reading until one of them stops it. -/
def attemptsOver : List BeaconReading → BeaconPlanner → TxScheduler → BeaconFill →
    BeaconPlanner × TxScheduler × BeaconFill
  | [], planner, scheduler, fill => (planner, scheduler, fill)
  | reading :: rest, planner, scheduler, fill =>
    match reading.moment? scheduler with
    | none => (planner, scheduler, fill)
    | some moment =>
      let (planner, scheduler, fill) :=
        planner.attempt scheduler moment.now moment.reference fill
      attemptsOver rest planner scheduler fill

/-- A fill whose attempts read the reference and the counter anew. -/
def fillOver (planner : BeaconPlanner) (scheduler : TxScheduler) (readings : Nat → BeaconReading) :
    BeaconPlanner × TxScheduler × BeaconFill :=
  if planner.isEnabled then
    attemptsOver ((List.range maxAttempts).map readings) planner scheduler {}
  else (planner, scheduler, {})

def request (planner : BeaconPlanner) (moment : BeaconMoment) : BeaconRequest :=
  ⟨moment.now, moment.reference, planner.target moment, (planner.ask moment).1⟩

/-- A request as a call of the scheduler. -/
def call (planner : BeaconPlanner) (request : BeaconRequest) : SchedulerCall :=
  .enqueue request.now (planner.packet request.second request.reference) .beacon

/-- The requests that the attempts over some readings make. -/
def requestsOver : List BeaconReading → BeaconPlanner → TxScheduler → List BeaconRequest
  | [], _, _ => []
  | reading :: rest, planner, scheduler =>
    match reading.moment? scheduler with
    | none => []
    | some moment =>
      planner.request moment ::
        requestsOver rest (planner.attemptAt moment) (planner.ask moment).2

def requests (planner : BeaconPlanner) (scheduler : TxScheduler)
    (readings : Nat → BeaconReading) : List BeaconRequest :=
  if planner.isEnabled then
    requestsOver ((List.range maxAttempts).map readings) planner scheduler
  else []

theorem attemptAt_eq (planner : BeaconPlanner) (moment : BeaconMoment) :
    ∃ lastSecond retries, planner.attemptAt moment = { planner with lastSecond, retries } := by
  rcases planner.attemptAt_cases moment with ⟨accepted, -⟩ | ⟨refused, -⟩
  · exact ⟨_, _, accepted⟩
  · exact ⟨_, _, refused⟩

theorem call_attemptAt (planner : BeaconPlanner) (moment : BeaconMoment) :
    (planner.attemptAt moment).call = planner.call := by
  obtain ⟨lastSecond, retries, same⟩ := planner.attemptAt_eq moment
  rw [same]
  rfl

theorem answer_call (planner : BeaconPlanner) (moment : BeaconMoment) :
    moment.scheduler.answer (planner.call (planner.request moment)) =
      (.outcome (planner.request moment).outcome, (planner.ask moment).2) :=
  rfl

theorem booked_request (planner : BeaconPlanner) (moment : BeaconMoment) :
    Booked moment.scheduler [planner.request moment] (planner.ask moment).2 :=
  booked_of_enqueue (planner.isBeaconFor_packet _ moment.reference).chain rfl

theorem attempt_tally (planner : BeaconPlanner) (moment : BeaconMoment) (fill : BeaconFill) :
    planner.attempt moment.scheduler moment.now moment.reference fill =
      (planner.attemptAt moment, (planner.ask moment).2,
        fill.add (tally [planner.request moment])) := by
  rcases asked : planner.ask moment with ⟨fault | acceptance, after⟩
  · rw [attemptAt, attempt_error _ asked, attempt_error _ asked]
    by_cases collided : fault = .beaconCollision <;>
      simp [tally, request, fault?, asked, collided, BeaconFill.add]
  · rw [attemptAt, attempt_ok _ asked, attempt_ok _ asked]
    simp [tally, request, fault?, asked, BeaconFill.add]

/-- The course of attempts over some readings: the requests they make and the scheduler they
leave. -/
inductive Course : List BeaconReading → BeaconPlanner → TxScheduler → List BeaconRequest →
    TxScheduler → Prop where
  | exhausted {planner : BeaconPlanner} {scheduler : TxScheduler} :
      Course [] planner scheduler [] scheduler
  | stopped {reading : BeaconReading} {rest : List BeaconReading} {planner : BeaconPlanner}
      {scheduler : TxScheduler} (stop : reading.moment? scheduler = none) :
      Course (reading :: rest) planner scheduler [] scheduler
  | asked {reading : BeaconReading} {rest : List BeaconReading} {planner : BeaconPlanner}
      {scheduler after : TxScheduler} {moment : BeaconMoment} {requests : List BeaconRequest}
      (met : reading.moment? scheduler = some moment)
      (others : Course rest (planner.attemptAt moment) (planner.ask moment).2 requests after) :
      Course (reading :: rest) planner scheduler (planner.request moment :: requests) after

theorem course_attemptsOver (readings : List BeaconReading) (planner : BeaconPlanner)
    (scheduler : TxScheduler) (fill : BeaconFill) :
    let requests := requestsOver readings planner scheduler
    let result := attemptsOver readings planner scheduler fill
    Course readings planner scheduler requests result.2.1 ∧
      result.2.2 = fill.add (tally requests) := by
  induction readings generalizing planner scheduler fill with
  | nil => exact ⟨.exhausted, rfl⟩
  | cons reading rest induction =>
      rw [requestsOver, attemptsOver]
      cases met : reading.moment? scheduler with
      | none => exact ⟨.stopped met, rfl⟩
      | some moment =>
          obtain ⟨-, rfl, -⟩ := BeaconReading.moment?_eq_some met
          dsimp only
          rw [attempt_tally]
          obtain ⟨others, counted⟩ := induction (planner.attemptAt moment) (planner.ask moment).2
            (fill.add (tally [planner.request moment]))
          refine ⟨.asked met others, counted.trans ?_⟩
          have split := tally_append [planner.request moment]
            (requestsOver rest (planner.attemptAt moment) (planner.ask moment).2)
          rw [List.singleton_append] at split
          simp only [split, BeaconFill.add, Nat.add_assoc]

namespace Course

variable {readings : List BeaconReading} {requests : List BeaconRequest} {after : TxScheduler}

theorem length_le (course : Course readings planner scheduler requests after) :
    requests.length ≤ readings.length := by
  induction course with
  | exhausted => exact Nat.le_refl _
  | stopped stop => exact Nat.zero_le _
  | asked met others induction => exact Nat.succ_le_succ induction

theorem answers (course : Course readings planner scheduler requests after) :
    scheduler.answers (requests.map planner.call) =
      (requests.map (.outcome ·.outcome), after) := by
  induction course with
  | exhausted | stopped stop => rfl
  | @asked reading rest planner scheduler after moment requests met others induction =>
      obtain ⟨-, rfl, -⟩ := BeaconReading.moment?_eq_some met
      rw [call_attemptAt] at induction
      simp only [List.map_cons, TxScheduler.answers, answer_call, induction]

theorem booked (course : Course readings planner scheduler requests after) :
    Booked scheduler requests after := by
  induction course with
  | exhausted | stopped stop => exact .nil
  | @asked reading rest planner scheduler after moment requests met others induction =>
      obtain ⟨-, rfl, -⟩ := BeaconReading.moment?_eq_some met
      exact (planner.booked_request moment).append induction

theorem capacity (course : Course readings planner scheduler requests after) :
    after.beaconCount 0 ≤ max (scheduler.beaconCount 0) TxQueue.standardBeacons := by
  induction course with
  | exhausted | stopped stop => exact Nat.le_max_left ..
  | @asked reading rest planner scheduler after moment requests met others induction =>
      obtain ⟨short, rfl, -⟩ := BeaconReading.moment?_eq_some met
      have one : (tally [planner.request moment]).queued ≤ 1 := List.countP_le_length
      have count := (planner.booked_request moment).beaconCount
      omega

/-- The readings that led to requests, and the one after them, which stopped the fill if there is
one. -/
theorem readings_eq (course : Course readings planner scheduler requests after) :
    ∃ rest, readings = requests.map (·.reading) ++ rest ∧
      ∀ reading ∈ rest.head?, reading.moment? after = none := by
  induction course with
  | exhausted => exact ⟨[], rfl, by simp⟩
  | stopped stop => exact ⟨_, rfl, by simpa using stop⟩
  | asked met others induction =>
      obtain ⟨-, -, rfl⟩ := BeaconReading.moment?_eq_some met
      obtain ⟨rest, same, stop⟩ := induction
      exact ⟨rest, congrArg _ same, stop⟩

/-- A fill that ends with too few beacons ran out of readings or met one that lacks something. -/
theorem complete (course : Course readings planner scheduler requests after)
    (short : after.beaconCount 0 < TxQueue.standardBeacons) :
    requests.length = readings.length ∨
      ∃ reading, readings[requests.length]? = some reading ∧
        (reading.reference = none ∨ reading.counter = none) := by
  obtain ⟨rest, rfl, stop⟩ := course.readings_eq
  cases rest with
  | nil => exact .inl (by simp)
  | cons reading rest =>
      have lacking := BeaconReading.moment?_eq_none (stop reading rfl) short
      exact .inr ⟨reading, by simp, lacking⟩

theorem second_of_head (course : Course readings planner scheduler requests after) :
    ∀ first ∈ requests.head?,
      first.second = planner.nextSecond first.reference.gps.seconds := by
  cases course with
  | exhausted | stopped stop => simp
  | asked met others =>
      rintro _ ⟨⟩
      rfl

end Course

/-- Whether a request that follows a refused one with the same reference asks for a beacon one
spacing later. -/
def Retried (planner : BeaconPlanner) (refused next : BeaconRequest) : Prop :=
  refused.fault? ≠ none → next.reference = refused.reference →
    next.second = refused.second + planner.spacing

theorem nextSecond_retry (planner : BeaconPlanner) (present : Nat) :
    nextSecond { planner with retries := planner.retries + 1 } present =
      planner.nextSecond present + planner.spacing := by
  change _ + (planner.retries + 1) * planner.spacing = _ + planner.retries * planner.spacing + _
  rw [Nat.succ_mul, Nat.add_assoc]
  rfl

theorem attemptAt_of_fault (refused : (planner.request moment).fault? ≠ none) :
    planner.attemptAt moment = { planner with retries := planner.retries + 1 } := by
  rcases asked : planner.ask moment with ⟨fault | acceptance, after⟩
  · rw [attemptAt, attempt_error _ asked]
  · simp [request, fault?, asked] at refused

theorem Course.retried {readings : List BeaconReading} {requests : List BeaconRequest}
    {after : TxScheduler} (course : Course readings planner scheduler requests after) :
    requests.IsChain planner.Retried := by
  induction course with
  | exhausted | stopped stop => exact .nil
  | @asked reading rest planner scheduler after moment requests met others induction =>
      obtain ⟨lastSecond, retries, later⟩ := planner.attemptAt_eq moment
      have same : (planner.attemptAt moment).Retried = planner.Retried := by rw [later]; rfl
      rw [same] at induction
      refine induction.cons fun next first refused unchanged => ?_
      have second := others.second_of_head next first
      rwa [attemptAt_of_fault refused, unchanged, nextSecond_retry] at second

theorem attempts_eq_attemptsOver (now : UInt32) (reference : TimeReference) (count : Nat)
    (planner : BeaconPlanner) (scheduler : TxScheduler) (fill : BeaconFill) :
    attempts now reference count planner scheduler fill =
      attemptsOver (List.replicate count ⟨some reference, some now⟩) planner scheduler fill := by
  induction count generalizing planner scheduler fill with
  | zero => rfl
  | succ count induction =>
      rw [attempts, List.replicate_succ, attemptsOver, BeaconReading.moment?]
      split
      · rfl
      · exact induction ..

/-- A fill whose readings do not change. -/
theorem fill_eq_fillOver (planner : BeaconPlanner) (scheduler : TxScheduler)
    (counter : Option UInt32) (clock : GpsClock) :
    planner.fill scheduler counter clock =
      planner.fillOver scheduler fun _ => ⟨clock.reference?, counter⟩ := by
  unfold fill fillOver
  rw [List.map_const', List.length_range]
  cases planner.isEnabled with
  | false => rfl
  | true =>
      cases clock.reference? with
      | none => simp [maxAttempts, List.replicate_succ, attemptsOver, BeaconReading.moment?]
      | some reference =>
          cases counter with
          | none => simp [maxAttempts, List.replicate_succ, attemptsOver, BeaconReading.moment?]
          | some now => exact attempts_eq_attemptsOver ..

/-- What a fill does to a scheduler: it makes some requests for beacons on the first chain, each for
the second that it names, and nothing else, its outcome and the scheduler's counters tell what
became of them, it ends early only for want of a reading, and it goes on by one period after each
refusal. -/
structure Filled (planner : BeaconPlanner) (before : TxScheduler)
    (readings : Nat → BeaconReading) (requests : List BeaconRequest) (after : TxScheduler)
    (outcome : BeaconFill) : Prop where
  few : requests.length ≤ maxAttempts
  answered : before.answers (requests.map planner.call) =
    (requests.map (.outcome ·.outcome), after)
  onFirst : ∀ call ∈ requests.map planner.call, ∃ now packet,
    call = .enqueue now packet .beacon ∧ packet.rfChain = 0
  named : ∀ request ∈ requests, ∃ packet,
    planner.call request = .enqueue request.now packet .beacon ∧
      packet.IsBeaconFor planner.layout request.second request.reference
  read : ∀ index request, requests[index]? = some request →
    readings index = request.reading
  counted : outcome = tally requests
  booked : Booked before requests after
  capacity : after.beaconCount 0 ≤ max (before.beaconCount 0) TxQueue.standardBeacons
  complete : after.beaconCount 0 < TxQueue.standardBeacons →
    planner.isEnabled = false ∨ (readings requests.length).reference = none ∨
      (readings requests.length).counter = none ∨ requests.length = maxAttempts
  retried : requests.IsChain fun refused next =>
    refused.fault? ≠ none → next.reference = refused.reference →
      next.second = refused.second + planner.config.period.toNat

theorem reading_of_range {readings : Nat → BeaconReading} {count index : Nat}
    {reading : BeaconReading} (found : ((List.range count).map readings)[index]? = some reading) :
    readings index = reading := by
  obtain ⟨inside, rfl⟩ := List.getElem?_eq_some_iff.mp found
  simp

theorem Filled.disabled {readings : Nat → BeaconReading} (disabled : planner.isEnabled = false) :
    Filled planner scheduler readings [] scheduler {} where
  few := Nat.zero_le _
  answered := rfl
  onFirst := by simp
  named := by simp
  read := by simp
  counted := rfl
  booked := .nil
  capacity := Nat.le_max_left ..
  complete _ := .inl disabled
  retried := .nil

theorem Course.filled {readings : Nat → BeaconReading} {requests : List BeaconRequest}
    {after : TxScheduler} (enabled : planner.isEnabled = true)
    (course : Course ((List.range maxAttempts).map readings) planner scheduler requests after) :
    Filled planner scheduler readings requests after (tally requests) where
  few := by simpa using course.length_le
  answered := course.answers
  onFirst call member := by
    obtain ⟨request, -, rfl⟩ := List.mem_map.mp member
    exact ⟨_, _, rfl, (planner.isBeaconFor_packet request.second request.reference).chain⟩
  named request _ := ⟨_, rfl, planner.isBeaconFor_packet request.second request.reference⟩
  read index request found := by
    obtain ⟨rest, same, -⟩ := course.readings_eq
    have written : (requests.map (·.reading))[index]? = some request.reading := by
      rw [List.getElem?_map, found, Option.map_some]
    have inside := (List.getElem?_eq_some_iff.mp written).1
    have here : (requests.map (·.reading) ++ rest)[index]? = _ := List.getElem?_append_left inside
    rw [← same, written] at here
    exact reading_of_range here
  counted := rfl
  booked := course.booked
  capacity := course.capacity
  complete short := by
    rcases course.complete short with all | ⟨reading, found, lacking⟩
    · exact .inr (.inr (.inr (by simpa using all)))
    · rw [reading_of_range found]
      exact .inr (lacking.imp id .inl)
  retried := by
    have period := spacing_of_pos (of_decide_eq_true enabled)
    have retried := course.retried
    unfold Retried at retried
    rwa [period] at retried

/-- Whatever its attempts read, a fill keeps its own counts, the counters of the scheduler and the
beacons queued in step. -/
theorem fill_in_step (planner : BeaconPlanner) (scheduler : TxScheduler) :
    (∀ readings : Nat → BeaconReading,
      let (_, after, outcome) := planner.fillOver scheduler readings
      Filled planner scheduler readings (planner.requests scheduler readings) after outcome) ∧
    ∀ (counter : Option UInt32) (clock : GpsClock),
      planner.fill scheduler counter clock =
        planner.fillOver scheduler fun _ => ⟨clock.reference?, counter⟩ := by
  refine ⟨fun readings => ?_, planner.fill_eq_fillOver scheduler⟩
  rw [fillOver, requests]
  cases enabled : planner.isEnabled with
  | false => exact .disabled enabled
  | true =>
      rw [if_pos rfl, if_pos rfl]
      generalize each : (List.range maxAttempts).map readings = list
      obtain ⟨course, counted⟩ := course_attemptsOver list planner scheduler {}
      rcases result : attemptsOver list planner scheduler {} with ⟨last, after, outcome⟩
      rw [result] at course counted
      have counts := counted.trans (BeaconFill.empty_add _)
      subst each counts
      exact course.filled enabled

-- A packet stands in the way of the first beacon, and the counter is lost after the second one.
example :
    let planner : BeaconPlanner := ⟨{ period := 128 }, ⟨.sf9, 2, 0⟩, .bw125, 0, 0, none, 0⟩
    let blocked :=
      ((TxScheduler.ofEnvelopes [{}] none).enqueue 0 { counter := 24000000 } .classB).2
    let readings (index : Nat) : BeaconReading :=
      ⟨some ⟨0, .of 1000 0, 1.0⟩, if index < 2 then some 0 else none⟩
    (planner.requests blocked readings).map (·.second) = [1024, 1152] ∧
      (planner.fillOver blocked readings).2.2 = ⟨1, 1⟩ := by
  decide +kernel

end BeaconPlanner

end LorawanGateway
