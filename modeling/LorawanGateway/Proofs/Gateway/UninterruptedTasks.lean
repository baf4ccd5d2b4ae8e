import LorawanGateway.Gateway.Service
import LorawanGateway.Proofs.Gateway.UplinkTurns
import Mathlib.Data.List.Nodup

/-!
Tasks that nothing interrupts. A task that takes one turn after the other, from its start until it
waits for an acknowledgement, leaves the report and the sockets as forwarding the batch in one go
does; and so does one that goes on from an attempt to receive. A running service that forwards
batches and receives acknowledgements in one go is thus one order of turns among all of them.
-/

namespace LorawanGateway

namespace ClockedPacket

variable {clock : Nat → Instant} {batch : List ReceivedPacket} {clocked : ClockedPacket}

theorem map_packet_ofBatch : (ofBatch clock batch).map (·.packet) = batch := by
  refine List.ext_getElem (by simp [ofBatch]) fun place inside _ => ?_
  simp [ofBatch]

theorem host_of_mem_ofBatch (member : clocked ∈ ofBatch clock batch) :
    ∃ reading, clocked.host = clock reading := by
  obtain ⟨place, inside, rfl⟩ := List.mem_mapIdx.mp member
  exact ⟨place, rfl⟩

end ClockedPacket

/-- What a turn starts from and leads to, apart from what happens in it. -/
structure Standing where
  report : TrafficReport
  pool : Forwarder
  stage : UplinkStage

def Standing.next (service : UplinkService) (token : Token) (reference : Option TimeReference)
    (standing : Standing) (moment : UplinkMoment) : Standing :=
  let after := UplinkTask.turn service moment ⟨token, reference, standing.stage⟩ standing.report
    standing.pool
  ⟨after.report, after.pool, after.stage⟩

namespace Standing

variable {service : UplinkService} {met : UplinkMoment → Prop} {moment : UplinkMoment}
variable {token : Token} {reference : Option TimeReference} {first second third : Standing}

/-- Some turns, at moments of a certain kind, lead from one standing to another. -/
def Leads (service : UplinkService) (met : UplinkMoment → Prop) (token : Token)
    (reference : Option TimeReference) (first second : Standing) : Prop :=
  ∃ moments : List UplinkMoment, (∀ moment ∈ moments, met moment) ∧
    moments.foldl (next service token reference) first = second

theorem Leads.of_eq (same : first = second) : Leads service met token reference first second :=
  ⟨[], List.forall_mem_nil _, same⟩

theorem Leads.step (here : met moment)
    (rest : Leads service met token reference (next service token reference first moment) second) :
    Leads service met token reference first second := by
  obtain ⟨moments, there, reached⟩ := rest
  exact ⟨moment :: moments, List.forall_mem_cons.mpr ⟨here, there⟩, reached⟩

theorem Leads.trans (one : Leads service met token reference first second)
    (other : Leads service met token reference second third) :
    Leads service met token reference first third := by
  obtain ⟨before, metBefore, rfl⟩ := one
  obtain ⟨after, metAfter, rfl⟩ := other
  exact ⟨before ++ after, List.forall_mem_append.mpr ⟨metBefore, metAfter⟩, List.foldl_append ..⟩

variable (report : TrafficReport) (pool : Forwarder)

theorem admission_eq_skipped_iff (service : UplinkService) (store : Store)
    (packet : ReceivedPacket) : admission service.config service.filter store packet = .skipped ↔
      service.config.forwards packet.status = false := by
  rw [admission]
  cases service.config.forwards packet.status with
  | false => simp
  | true =>
      simp only [Bool.not_true, Bool.false_eq_true, if_false, Bool.true_eq_false, iff_false]
      split
      · split <;> simp
      · simp

theorem leads_takePacket (gateway : Gateway) (clocked : ClockedPacket) (now : Nat)
    (rest : List ReceivedPacket) (push : PushData)
    (here : met { store := gateway.store, host := clocked.host, now }) :
    let after := service.takePacket gateway clocked push report.up
    Leads service met token gateway.reference?
      ⟨report, pool, .preparing (.admitting (clocked.packet :: rest) push)⟩
      ⟨{ report with up := after.2 }, pool, match after.1 with
        | some push => .preparing (.admitting rest push)
        | none => .ended⟩ := by
  obtain ⟨packet, host⟩ := clocked
  have skipped := admission_eq_skipped_iff service gateway.store packet
  cases outcome : admission service.config service.filter gateway.store packet with
  | skipped =>
      have unwanted := skipped.mp outcome
      refine .step here (.of_eq ?_)
      simp [UplinkService.takePacket, outcome, UplinkCounters.record, next, UplinkTask.turn,
        UplinkTask.prepare, unwanted]
  | filtered =>
      have wanted : service.config.forwards packet.status = true := by
        simpa [outcome] using skipped
      refine .step here (.step here (.step here (.of_eq ?_)))
      simp [UplinkService.takePacket, outcome, UplinkCounters.record, next, UplinkTask.turn,
        UplinkTask.prepare, wanted]
  | admitted =>
      have wanted : service.config.forwards packet.status = true := by
        simpa [outcome] using skipped
      cases described : Rxpk.ofPacket? packet gateway.reference? host with
      | none =>
          refine .step here (.step here (.of_eq ?_))
          simp [UplinkService.takePacket, ClockedPacket.describe?, outcome, UplinkCounters.record,
            next, UplinkTask.turn, UplinkTask.prepare, wanted, described]
      | some rxpk =>
          cases pushed : push.pushPacket rxpk with
          | ok larger =>
              refine .step here (.step here (.step here (.of_eq ?_)))
              simp [UplinkService.takePacket, ClockedPacket.describe?, outcome,
                UplinkCounters.record, next, UplinkTask.turn, UplinkTask.prepare, wanted,
                described, pushed]
          | error fault =>
              refine .step here (.step here (.of_eq ?_))
              simp [UplinkService.takePacket, ClockedPacket.describe?, outcome,
                UplinkCounters.record, next, UplinkTask.turn, UplinkTask.prepare, wanted,
                described, pushed]

theorem leads_takeBatch (gateway : Gateway) (now : Nat) (batch : List ClockedPacket)
    (push : PushData)
    (each : ∀ clocked ∈ batch, met { store := gateway.store, host := clocked.host, now }) :
    let after := service.takeBatch gateway batch push report.up
    Leads service met token gateway.reference?
      ⟨report, pool, .preparing (.admitting (batch.map (·.packet)) push)⟩
      ⟨{ report with up := after.2 }, pool, match after.1 with
        | some push => .preparing (.admitting [] push)
        | none => .ended⟩ := by
  induction batch generalizing push report with
  | nil => exact .of_eq rfl
  | cons clocked rest induction =>
      obtain ⟨here, others⟩ := List.forall_mem_cons.mp each
      refine (leads_takePacket report pool gateway clocked now _ push here).trans ?_
      rw [UplinkService.takeBatch]
      cases taken : service.takePacket gateway clocked push report.up with
      | mk outcome up =>
          cases outcome with
          | none => exact .of_eq rfl
          | some larger => exact induction { report with up } larger others

theorem leads_prepare (gateway : Gateway) (now : Nat) (batch : List ClockedPacket)
    (each : ∀ clocked ∈ batch, met { store := gateway.store, host := clocked.host, now })
    (here : met moment) :
    let after := service.prepare gateway token batch report
    Leads service met token gateway.reference?
      ⟨report, pool, (UplinkTask.start gateway token (batch.map (·.packet))).stage⟩
      ⟨after.2, pool, match after.1 with
        | .ready datagram => .ready datagram
        | .nothing | .timeless => .ended⟩ := by
  refine (leads_takeBatch report pool gateway now batch _ each).trans ?_
  rw [UplinkService.prepare]
  dsimp only
  cases taken : service.takeBatch gateway batch _ report.up with
  | mk outcome up =>
      cases outcome with
      | none => exact .of_eq rfl
      | some push =>
          refine .step here (.of_eq ?_)
          simp only [next, UplinkTask.turn, UplinkTask.prepare]
          generalize UplinkService.takeReport push { report with up } = filled
          obtain ⟨push, report⟩ := filled
          dsimp only
          cases push.isEmpty with
          | true => rfl
          | false => cases push.finish <;> rfl

/-- A socket is drained datagram by datagram, up to a read that fails. -/
theorem leads_drain (moment : UplinkMoment) (datagram : Octets) (socket : Socket)
    (readFault : Option Nat) (here : ∀ readFails, met { moment with readFails }) :
    Leads service met token reference ⟨report, pool, .draining datagram socket⟩
      ⟨report, pool, .sending datagram
        { socket with inbox := Forwarder.drain readFault socket.inbox }⟩ := by
  obtain ⟨id, inbox⟩ := socket
  induction inbox generalizing readFault with
  | nil =>
      refine .step (here false) (.of_eq ?_)
      cases readFault <;> simp [next, UplinkTask.turn, Forwarder.drain]
  | cons late inbox induction =>
      cases readFault with
      | none => exact .step (here false) (induction none)
      | some count =>
          cases count with
          | zero => exact .step (here true) (.of_eq rfl)
          | succ count => exact .step (here false) (induction (some count))

/-- A datagram, sent and counted in one go, on a socket that is taken out for it. -/
theorem leads_send (moment : UplinkMoment) (datagram : Octets) (readFault : Option Nat)
    (here : ∀ readFails, met { moment with readFails }) :
    let out := pool.checkout readFault
    Leads service met token reference ⟨report, pool, .ready datagram⟩
      ⟨{ report with up := report.up.send datagram.length }, out.2, .awaiting
        ⟨token, out.1, moment.now, Forwarder.maxAttempts,
          moment.now + service.config.pushTimeout.milliseconds⟩⟩ := by
  intro out
  have drained : Leads service met token reference ⟨report, pool, .ready datagram⟩
      ⟨report, out.2, .sending datagram out.1⟩ := by
    simp only [out, Forwarder.checkout]
    cases free : pool.idle with
    | nil =>
        refine .step (here false) (.trans (.of_eq ?_)
          (leads_drain report _ moment datagram { id := pool.opened } none here))
        simp [next, UplinkTask.turn, free]
    | cons socket rest =>
        refine .step (here false) (.trans (.of_eq ?_)
          (leads_drain report _ moment datagram socket readFault here))
        simp [next, UplinkTask.turn, free]
  exact drained.trans (.step (here false) (.step (here false) (.of_eq rfl)))

/-- An attempt to receive, with all that follows from it before the next one. -/
theorem leads_receive (state : ServiceState) (shared : report = state.report)
    (waiting : ForwardTask) (here : met moment) :
    Leads service met token reference ⟨report, pool, .awaiting waiting⟩
      (match Forwarder.attempt waiting moment.now service.config.pushTimeout.milliseconds with
        | (.waiting, after) => ⟨report, pool, .awaiting after⟩
        | (outcome, after) =>
          ⟨(Service.countReception state (moment.now - waiting.sentAt) moment.host
            (some outcome)).report, pool.checkin after.socket, .ended⟩) := by
  cases shared
  cases attempted : Forwarder.attempt waiting moment.now
      service.config.pushTimeout.milliseconds with
  | mk outcome after =>
      cases outcome with
      | waiting => exact .step here (.of_eq (by simp [next, UplinkTask.turn, attempted]))
      | unanswered =>
          refine .step here (.step here (.of_eq ?_))
          simp [next, UplinkTask.turn, attempted, Service.countReception]
      | acknowledged =>
          refine .step here (.step here (.step here (.of_eq ?_)))
          simp [next, UplinkTask.turn, attempted, Service.countReception, ServiceState.countUp]

end Standing

namespace UplinkStage

def waiting? : UplinkStage → Option ForwardTask
  | .awaiting waiting => some waiting
  | _ => none

end UplinkStage

namespace Forwarder

variable {forwarder : Forwarder} {front back : List ForwardTask} {waiting : ForwardTask}

theorem checkin_tasks (pool : Forwarder) (socket : Socket) (tasks : List ForwardTask) :
    { pool with tasks }.checkin socket = { pool.checkin socket with tasks } := by
  simp only [checkin]
  split <;> rfl

section Split

variable (tasks : forwarder.tasks = front ++ waiting :: back)
variable (apart : (forwarder.tasks.map (·.socket.id)).Nodup)
include tasks apart

theorem others_apart : (∀ other ∈ front, other.socket.id ≠ waiting.socket.id) ∧
    ∀ other ∈ back, other.socket.id ≠ waiting.socket.id := by
  rw [tasks, List.map_append, List.map_cons, List.nodup_middle] at apart
  obtain ⟨other, -⟩ := List.nodup_cons.mp apart
  simpa only [List.mem_append, List.mem_map, not_or, not_exists, not_and] using other

theorem dropTask_split :
    forwarder.dropTask waiting.socket.id = { forwarder with tasks := front ++ back } := by
  obtain ⟨before, behind⟩ := others_apart tasks apart
  rw [dropTask, tasks, List.filter_append, List.filter_cons_of_neg (by simp),
    List.filter_eq_self.mpr (by simpa using before),
    List.filter_eq_self.mpr (by simpa using behind)]

/-- Receiving concerns the one task that uses the socket. -/
theorem receive_split (now timeout : Nat) :
    forwarder.receive waiting.socket.id now timeout =
      match attempt waiting now timeout with
      | (.waiting, after) => (some .waiting, { forwarder with tasks := front ++ after :: back })
      | (outcome, after) =>
        (some outcome, { forwarder with tasks := front ++ back }.checkin after.socket) := by
  obtain ⟨before, behind⟩ := others_apart tasks apart
  have found : forwarder.task? waiting.socket.id = some waiting := by
    rw [task?, tasks, List.find?_append, List.find?_eq_none.mpr (by simpa using before)]
    simp
  have replaced (after : ForwardTask) : (forwarder.tasks.map fun task =>
      if task.socket.id = waiting.socket.id then after else task) = front ++ after :: back := by
    rw [tasks, List.map_append, List.map_cons, if_pos rfl,
      List.map_congr_left fun task member => if_neg (before task member),
      List.map_congr_left fun task member => if_neg (behind task member), List.map_id',
      List.map_id']
  -- No two tasks use one socket, so looking one up by its socket finds this very task.
  rw [receive, found, dropTask_split tasks apart]
  dsimp only
  cases attempted : attempt waiting now timeout with
  | mk outcome after =>
      cases outcome with
      | waiting =>
          dsimp only
          rw [replaced]
      | _ => rfl

end Split

end Forwarder

namespace Uplinks

variable (service : UplinkService) (uplinks : Uplinks)

/-- The sockets of the uplinks, as one that goes through each task in one go knows them. -/
def forwarder (uplinks : Uplinks) : Forwarder :=
  { uplinks.pool with tasks := uplinks.tasks.filterMap (·.stage.waiting?) }

theorem run_turns (moments : List UplinkMoment) (standing : Standing) (token : Token)
    (reference : Option TimeReference) (front back : List UplinkTask) :
    let after := moments.foldl (Standing.next service token reference) standing
    (Uplinks.mk standing.report standing.pool
        (front ++ ⟨token, reference, standing.stage⟩ :: back)).run service
      (moments.map (.advance front.length)) =
      ⟨after.report, after.pool, front ++ ⟨token, reference, after.stage⟩ :: back⟩ := by
  intro after
  induction moments generalizing standing with
  | nil => rfl
  | cons moment rest induction =>
      rw [List.map_cons, run, List.foldl_cons, step, happen, perform_at]
      exact induction (standing.next service token reference moment)

variable {service uplinks} {met : UplinkMoment → Prop}

/-- Where turns lead a new task, they lead the uplinks; if it fails then, it is over. -/
theorem run_of_leads {gateway : Gateway} {token : Token} {batch : List ReceivedPacket}
    {standing : Standing} (reachable : Bool)
    (leads : Standing.Leads service met token gateway.reference?
      ⟨uplinks.report, uplinks.pool, (UplinkTask.start gateway token batch).stage⟩ standing) :
    ∃ moments : List UplinkMoment, (∀ moment ∈ moments, met moment) ∧
      let turns := .start gateway token batch :: moments.map (.advance uplinks.tasks.length)
      uplinks.run service (if reachable then turns else turns ++ [.fail uplinks.tasks.length]) =
        ⟨standing.report, standing.pool, uplinks.tasks ++
          [⟨token, gateway.reference?, if reachable then standing.stage else .ended⟩]⟩ := by
  obtain ⟨moments, each, rfl⟩ := leads
  have turned := run_turns service moments
    ⟨uplinks.report, uplinks.pool, (UplinkTask.start gateway token batch).stage⟩ token
    gateway.reference? uplinks.tasks []
  refine ⟨moments, each, ?_⟩
  cases reachable with
  | true => exact turned
  | false =>
      refine (uplinks.run_concat service _ _).trans ?_
      have there : uplinks.run service (.start gateway token batch ::
          moments.map (.advance uplinks.tasks.length)) = _ := turned
      rw [there, happen, perform_at]
      rfl

theorem checkout_forwarder (uplinks : Uplinks) (readFault : Option Nat) :
    uplinks.forwarder.checkout readFault =
      ((uplinks.pool.checkout readFault).1,
        { (uplinks.pool.checkout readFault).2 with tasks := uplinks.forwarder.tasks }) := by
  simp only [Forwarder.checkout, forwarder]
  cases uplinks.pool.idle <;> rfl

/-- A batch that is forwarded without interruption, with a reading of the clock for each packet, is
forwarded in one go. If the server cannot be reached, the task fails when it takes a socket. -/
theorem forward_uninterrupted (state : ServiceState) (shared : uplinks.report = state.report)
    (batch : List ReceivedPacket) (token : Token) (now : Nat) (surroundings : Surroundings) :
    ∃ moments : List UplinkMoment,
      (∀ moment ∈ moments, moment.store = state.gateway.store ∧ moment.now = now ∧
        ∃ reading, moment.host = surroundings.clock reading) ∧
      let index := uplinks.tasks.length
      let turns := .start state.gateway token batch :: moments.map (.advance index)
      let final := uplinks.run service
        (if surroundings.reachable then turns else turns ++ [.fail index])
      let result := uplinks.forwarder.forward service state batch token now surroundings
      final.forwarder = result.2.1 ∧ final.report = result.2.2.report := by
  let met (moment : UplinkMoment) : Prop := moment.store = state.gateway.store ∧
    moment.now = now ∧ ∃ reading, moment.host = surroundings.clock reading
  have each : ∀ clocked ∈ ClockedPacket.ofBatch surroundings.clock batch,
      met { store := state.gateway.store, host := clocked.host, now } :=
    fun clocked member => ⟨rfl, rfl, ClockedPacket.host_of_mem_ofBatch member⟩
  have here (readFails : Bool) :
      met { store := state.gateway.store, host := surroundings.host, now, readFails } :=
    ⟨rfl, rfl, 0, rfl⟩
  have prepared : Standing.Leads service met token state.gateway.reference? _ _ :=
    Standing.leads_prepare uplinks.report uplinks.pool state.gateway now
      (ClockedPacket.ofBatch surroundings.clock batch) each (here false)
  rw [shared, ClockedPacket.map_packet_ofBatch] at prepared
  rw [Forwarder.forward]
  dsimp only
  generalize service.prepare state.gateway token (ClockedPacket.ofBatch surroundings.clock batch)
    state.report = result at prepared
  obtain ⟨outcome, report⟩ := result
  cases outcome with
  | nothing | timeless =>
      obtain ⟨moments, all, there⟩ := run_of_leads surroundings.reachable (shared ▸ prepared)
      refine ⟨moments, all, ?_⟩
      dsimp only at there ⊢
      rw [there, ite_self]
      simp [forwarder, UplinkStage.waiting?]
  | ready datagram =>
      cases reachable : surroundings.reachable with
      | false =>
          obtain ⟨moments, all, there⟩ := run_of_leads false (shared ▸ prepared)
          refine ⟨moments, all, ?_⟩
          dsimp only at there ⊢
          rw [there]
          simp [forwarder, UplinkStage.waiting?]
      | true =>
          have sent := prepared.trans (Standing.leads_send report uplinks.pool
            ⟨state.gateway.store, surroundings.host, now, false⟩ datagram surroundings.readFault
            here)
          obtain ⟨moments, all, there⟩ := run_of_leads true (shared ▸ sent)
          refine ⟨moments, all, ?_⟩
          dsimp only at there ⊢
          rw [there, Forwarder.start, checkout_forwarder]
          simp [forwarder, UplinkStage.waiting?, ServiceState.countUp, ServiceState.send]

theorem forwarder_split (report : TrafficReport) (pool : Forwarder) (front back : List UplinkTask)
    (task : UplinkTask) :
    (Uplinks.mk report pool (front ++ task :: back)).forwarder =
      { pool with tasks := front.filterMap (·.stage.waiting?) ++
          (task.stage.waiting?.toList ++ back.filterMap (·.stage.waiting?)) } := by
  rw [forwarder, List.filterMap_append, List.filterMap_cons]
  cases task.stage.waiting? <;> rfl

/-- An attempt to receive that is not interrupted, with what follows from it, is made in one go. -/
theorem receive_uninterrupted (state : ServiceState) (shared : uplinks.report = state.report)
    (apart : (uplinks.forwarder.tasks.map (·.socket.id)).Nodup) {index : Nat} {task : UplinkTask}
    {waiting : ForwardTask} (found : uplinks.tasks[index]? = some task)
    (waits : task.stage = .awaiting waiting) (moment : UplinkMoment) :
    ∃ count,
      let final := uplinks.run service (List.replicate count (.advance index moment))
      let result := uplinks.forwarder.receive waiting.socket.id moment.now
        service.config.pushTimeout.milliseconds
      let roundTrip := moment.now - waiting.sentAt
      final.forwarder = result.2 ∧
        final.report = (Service.countReception state roundTrip moment.host result.1).report := by
  obtain ⟨report, pool, tasks⟩ := uplinks
  obtain ⟨front, back, split, rfl⟩ := exists_split _ found
  cases split
  obtain ⟨token, reference, stage⟩ := task
  cases waits
  have tasks := congrArg Forwarder.tasks
    (forwarder_split report pool front back ⟨token, reference, .awaiting waiting⟩)
  rw [Forwarder.receive_split tasks apart]
  obtain ⟨moments, same, there⟩ : Standing.Leads service (· = moment) token reference _ _ :=
    Standing.leads_receive report pool state shared waiting rfl
  have turned := run_turns service moments ⟨report, pool, .awaiting waiting⟩ token reference
    front back
  rw [there, List.eq_replicate_of_mem same, List.map_replicate] at turned
  refine ⟨moments.length, ?_⟩
  rw [turned]
  cases attempted : Forwarder.attempt waiting moment.now
      service.config.pushTimeout.milliseconds with
  | mk outcome after =>
      cases outcome with
      | waiting => exact ⟨forwarder_split .., shared⟩
      | acknowledged | unanswered =>
          refine ⟨(forwarder_split ..).trans ?_, rfl⟩
          exact (Forwarder.checkin_tasks pool after.socket _).symm

/-- A task whose socket fails while it waits is dropped. -/
theorem forwarder_failure (apart : (uplinks.forwarder.tasks.map (·.socket.id)).Nodup) {index : Nat}
    {task : UplinkTask} {waiting : ForwardTask} (found : uplinks.tasks[index]? = some task)
    (waits : task.stage = .awaiting waiting) :
    (uplinks.perform index UplinkTask.failure).1.forwarder =
      uplinks.forwarder.fail waiting.socket.id := by
  obtain ⟨report, pool, tasks⟩ := uplinks
  obtain ⟨front, back, split, rfl⟩ := exists_split _ found
  cases split
  obtain ⟨token, reference, stage⟩ := task
  cases waits
  have tasks := congrArg Forwarder.tasks
    (forwarder_split report pool front back ⟨token, reference, .awaiting waiting⟩)
  rw [perform_at, Forwarder.fail, Forwarder.dropTask_split tasks apart]
  exact forwarder_split ..

/-- A datagram reaches the free sockets and those of tasks alike. -/
theorem forwarder_deliver (id : Nat) (datagram : Octets) :
    (uplinks.deliver id datagram).1.forwarder = uplinks.forwarder.deliver id datagram := by
  have waits (stage : UplinkStage) : (stage.onSocket (Forwarder.arrive id datagram)).waiting? =
      stage.waiting?.map fun waiting =>
        { waiting with socket := Forwarder.arrive id datagram waiting.socket } := by
    cases stage <;> rfl
  simp only [deliver, forwarder, Forwarder.deliver, List.filterMap_map, List.map_filterMap,
    Function.comp_def, waits]

end Uplinks

end LorawanGateway
