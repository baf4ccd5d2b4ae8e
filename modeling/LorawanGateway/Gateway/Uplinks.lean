import LorawanGateway.Gateway.Forwarding

/-!
Batches that are forwarded at the same time. Each has a task of its own; the tasks share the report
and the free sockets. A task holds the lock of either only for a short while, and between two locks,
or around a use of its socket, anything else may happen: a turn of another task, a datagram that
arrives, a report that is published. So a task advances by turns, each with one lock or one use of
its socket.
-/

namespace LorawanGateway

/-- What a task does next while it puts its datagram together. -/
inductive BatchStage where
  /-- It counts the next packet as received; without one, it takes the report that waits. -/
  | admitting (rest : List ReceivedPacket) (push : PushData)
  /-- It looks whether a packet is filtered, and puts it in the datagram if not. -/
  | judging (packet : ReceivedPacket) (rest : List ReceivedPacket) (push : PushData)
  /-- It counts a packet as filtered. -/
  | filtering (rest : List ReceivedPacket) (push : PushData)
  /-- It counts a packet with a payload of some size, put in the datagram, as forwarded. -/
  | listing (size : Nat) (rest : List ReceivedPacket) (push : PushData)

/-- What a task does next. -/
inductive UplinkStage where
  | preparing (stage : BatchStage)
  /-- It takes a socket. -/
  | ready (datagram : Octets)
  /-- It drops what its socket still holds, one datagram after the other, until a read fails. -/
  | draining (datagram : Octets) (socket : Socket)
  | sending (datagram : Octets) (socket : Socket)
  /-- It counts a datagram as sent. -/
  | recording (length : Nat) (socket : Socket) (sentAt : Nat)
  | awaiting (waiting : ForwardTask)
  /-- It counts its datagram as acknowledged. -/
  | crediting (roundTrip : Nat) (socket : Socket)
  /-- It gives its socket back. -/
  | returning (socket : Socket)
  | ended

namespace UplinkStage

/-- The socket that a task holds. -/
def socket? : UplinkStage → Option Socket
  | .draining _ socket | .sending _ socket | .recording _ socket _ | .crediting _ socket
  | .returning socket => some socket
  | .awaiting waiting => some waiting.socket
  | .preparing _ | .ready _ | .ended => none

/-- The stage with the socket changed. -/
def onSocket (change : Socket → Socket) : UplinkStage → UplinkStage
  | .draining datagram socket => .draining datagram (change socket)
  | .sending datagram socket => .sending datagram (change socket)
  | .recording length socket sentAt => .recording length (change socket) sentAt
  | .awaiting waiting => .awaiting { waiting with socket := change waiting.socket }
  | .crediting roundTrip socket => .crediting roundTrip (change socket)
  | .returning socket => .returning (change socket)
  | stage => stage

/-- The packets that are counted as received and of which it is still open what becomes of them. -/
def inHand : UplinkStage → Nat
  | .preparing (.admitting ..) => 0
  | .preparing _ => 1
  | _ => 0

/-- The datagrams that are counted as sent and may still be counted as acknowledged. -/
def awaited : UplinkStage → Nat
  | .awaiting _ | .crediting .. => 1
  | _ => 0

end UplinkStage

/-- What a task did in a turn, apart from what it counted. -/
inductive UplinkDeed where
  /-- It let go of a packet without counting it as forwarded. -/
  | passedOver
  | tookOut (socket : Nat)
  /-- It dropped a datagram that its socket still held. -/
  | drained (socket : Nat) (datagram : Octets)
  /-- It left what its socket still held, for it could not read it. -/
  | brokeOff (socket : Nat)
  | sent
  /-- It tried to receive, and read a datagram unless the time ran out. -/
  | tried (socket : Nat) (datagram : Option Octets)
  | acknowledged
  /-- It let go of a datagram without counting it as acknowledged. -/
  | lapsed
  deriving DecidableEq, Repr

/-- What a turn leaves behind. -/
structure UplinkTurn where
  report : TrafficReport
  pool : Forwarder
  stage : UplinkStage
  deeds : List UplinkDeed := []

/-- A batch on its way: the token of its datagram, and the time reference that held when the task
started. -/
structure UplinkTask where
  token : Token
  reference : Option TimeReference
  stage : UplinkStage

/-- What a task finds around it in a turn: the store, the clock of the host, the milliseconds since
the start, and whether a read that does not wait fails whatever its socket holds. -/
structure UplinkMoment where
  store : Store
  host : Instant
  now : Nat
  readFails : Bool := false

namespace UplinkTask

def start (gateway : Gateway) (token : Token) (batch : List ReceivedPacket) : UplinkTask where
  token := token
  reference := gateway.reference?
  stage := .preparing
    (.admitting batch { capacity := Datagram.sendCapacity, token, gateway := gateway.id })

/-- A turn of a task that puts its datagram together. -/
def prepare (service : UplinkService) (moment : UplinkMoment) (reference : Option TimeReference)
    (report : TrafficReport) (pool : Forwarder) : BatchStage → UplinkTurn
  | .admitting [] push =>
    let (push, report) := UplinkService.takeReport push report
    if push.isEmpty then { report, pool, stage := .ended }
    else
      match push.finish with
      | .ok datagram => { report, pool, stage := .ready datagram }
      | .error _ => { report, pool, stage := .ended }
  | .admitting (packet :: rest) push =>
    let report := { report with up := report.up.receive packet.status }
    if service.config.forwards packet.status then
      { report, pool, stage := .preparing (.judging packet rest push) }
    else { report, pool, stage := .preparing (.admitting rest push), deeds := [.passedOver] }
  | .judging packet rest push =>
    if admission service.config service.filter moment.store packet = .filtered then
      { report, pool, stage := .preparing (.filtering rest push) }
    else
      match Rxpk.ofPacket? packet reference moment.host with
      | none => { report, pool, stage := .ended, deeds := [.passedOver] }
      | some rxpk =>
        match push.pushPacket rxpk with
        | .ok push =>
          { report, pool, stage := .preparing (.listing packet.payload.length rest push) }
        | .error _ =>
          { report, pool, stage := .preparing (.admitting rest push), deeds := [.passedOver] }
  | .filtering rest push =>
    { report := { report with up := report.up.filter }, pool
      stage := .preparing (.admitting rest push), deeds := [.passedOver] }
  | .listing size rest push =>
    { report := { report with up := report.up.forward size }, pool
      stage := .preparing (.admitting rest push) }

/-- A turn of a task. -/
def turn (service : UplinkService) (moment : UplinkMoment) (task : UplinkTask)
    (report : TrafficReport) (pool : Forwarder) : UplinkTurn :=
  let timeout := service.config.pushTimeout.milliseconds
  match task.stage with
  | .preparing stage => prepare service moment task.reference report pool stage
  | .ready datagram =>
    match pool.idle with
    | socket :: rest =>
      { report, pool := { pool with idle := rest }, stage := .draining datagram socket
        deeds := [.tookOut socket.id] }
    | [] =>
      { report, pool := { pool with opened := pool.opened + 1 }
        stage := .draining datagram { id := pool.opened }, deeds := [.tookOut pool.opened] }
  | .draining datagram socket =>
    match socket.inbox with
    | [] => { report, pool, stage := .sending datagram socket }
    | late :: inbox =>
      if moment.readFails then
        { report, pool, stage := .sending datagram socket, deeds := [.brokeOff socket.id] }
      else
        { report, pool, stage := .draining datagram { socket with inbox }
          deeds := [.drained socket.id late] }
  | .sending datagram socket =>
    { report, pool, stage := .recording datagram.length socket moment.now, deeds := [.sent] }
  | .recording length socket sentAt =>
    { report := { report with up := report.up.send length }, pool
      stage := .awaiting
        ⟨task.token, socket, sentAt, Forwarder.maxAttempts, moment.now + timeout⟩ }
  | .awaiting waiting =>
    let tried := UplinkDeed.tried waiting.socket.id waiting.socket.inbox.head?
    match Forwarder.attempt waiting moment.now timeout with
    | (.acknowledged, after) =>
      { report, pool, deeds := [tried]
        stage := .crediting (min (moment.now - waiting.sentAt) 0xFFFFFFFF) after.socket }
    | (.waiting, after) => { report, pool, stage := .awaiting after, deeds := [tried] }
    | (.unanswered, after) =>
      { report, pool, stage := .returning after.socket, deeds := [tried, .lapsed] }
  | .crediting roundTrip socket =>
    { report := { report with up := report.up.acknowledge roundTrip, lastAck := some moment.host }
      pool, stage := .returning socket, deeds := [.acknowledged] }
  | .returning socket => { report, pool := pool.checkin socket, stage := .ended }
  | .ended => { report, pool, stage := .ended }

/-- The end of a task whose operation failed. What it held is let go of, and its socket is not used
again. -/
def failure (task : UplinkTask) (report : TrafficReport) (pool : Forwarder) : UplinkTurn where
  report := report
  pool := pool
  stage := .ended
  deeds := List.replicate task.stage.inHand .passedOver ++
    List.replicate task.stage.awaited .lapsed

end UplinkTask

/-- What can happen to the uplinks of a service. Tasks go by the order in which they started. -/
inductive UplinkEvent where
  | start (gateway : Gateway) (token : Token) (batch : List ReceivedPacket)
  | advance (index : Nat) (moment : UplinkMoment)
  | fail (index : Nat)
  | deliver (socket : Nat) (datagram : Octets)
  | publish (now : Instant) (position : Option Coordinates)

/-- Whether a read that does not wait fails in an event, whatever its socket holds. -/
def UplinkEvent.readFails : UplinkEvent → Bool
  | advance _ moment => moment.readFails
  | _ => false

/-- What happened: a datagram arrived on a socket, or a task did something. -/
inductive UplinkRecord where
  | arrived (socket : Nat) (datagram : Octets)
  | did (index : Nat) (deed : UplinkDeed)
  deriving DecidableEq, Repr

/-- The uplinks of a service: what they share, and the tasks that were started, in order. The pool
holds the free sockets only. -/
structure Uplinks where
  report : TrafficReport := {}
  pool : Forwarder
  tasks : List UplinkTask := []

namespace Uplinks

/-- The uplinks of a service before its first batch, with at most some free sockets kept. -/
def opening (limit : Nat) : Uplinks where
  pool := { limit }

/-- The sockets that tasks hold. -/
def held (uplinks : Uplinks) : List Socket := uplinks.tasks.filterMap (·.stage.socket?)

/-- All sockets that are open. -/
def sockets (uplinks : Uplinks) : List Socket := uplinks.pool.idle ++ uplinks.held

/-- Lets a task take a turn. -/
def perform (uplinks : Uplinks) (index : Nat)
    (turn : UplinkTask → TrafficReport → Forwarder → UplinkTurn) : Uplinks × List UplinkRecord :=
  match uplinks.tasks[index]? with
  | none => (uplinks, [])
  | some task =>
    let after := turn task uplinks.report uplinks.pool
    ({ report := after.report
       pool := after.pool
       tasks := uplinks.tasks.set index { task with stage := after.stage } },
      after.deeds.map (.did index))

/-- A datagram for a socket. It is lost if the socket is closed. -/
def deliver (uplinks : Uplinks) (id : Nat) (datagram : Octets) : Uplinks × List UplinkRecord :=
  ({ uplinks with
    pool := uplinks.pool.deliver id datagram
    tasks := uplinks.tasks.map fun task =>
      { task with stage := task.stage.onSocket (Forwarder.arrive id datagram) } },
    if id ∈ uplinks.sockets.map (·.id) then [.arrived id datagram] else [])

/-- What an event leads to, and what happens in it. -/
def happen (service : UplinkService) (uplinks : Uplinks) :
    UplinkEvent → Uplinks × List UplinkRecord
  | .start gateway token batch =>
    ({ uplinks with tasks := uplinks.tasks ++ [UplinkTask.start gateway token batch] }, [])
  | .advance index moment => uplinks.perform index (UplinkTask.turn service moment)
  | .fail index => uplinks.perform index UplinkTask.failure
  | .deliver socket datagram => uplinks.deliver socket datagram
  | .publish now position =>
    ({ uplinks with report := uplinks.report.publish now position }, [])

def step (service : UplinkService) (uplinks : Uplinks) (event : UplinkEvent) : Uplinks :=
  (uplinks.happen service event).1

def run (service : UplinkService) : Uplinks → List UplinkEvent → Uplinks :=
  List.foldl (step service)

end Uplinks

end LorawanGateway
