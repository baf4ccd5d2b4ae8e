import LorawanGateway.Datagram.ServerDatagram
import LorawanGateway.Gateway.ServiceState
import LorawanGateway.Gateway.Uplink

/-!
Datagrams on their way to the server, each on a socket of its own until it is acknowledged or
given up, so that an acknowledgement reaches the task whose token it bears. Sockets are used
again; what a used one still holds is dropped first, as far as it can be read.
-/

namespace LorawanGateway

/-- A socket with the datagrams that arrived on it and were not read yet. -/
structure Socket where
  id : Nat
  inbox : List Octets := []
  deriving DecidableEq, Repr

/-- A datagram that waits for its acknowledgement: its token and socket, when it was sent, how many
attempts to receive are left, and until when the present one lasts. -/
structure ForwardTask where
  token : Token
  socket : Socket
  sentAt : Nat
  attempts : Nat
  wakeAt : Nat
  deriving DecidableEq, Repr

/-- The sockets of a service: those that are free, the last returned first, and those of tasks. At
most `limit` free ones are kept. -/
structure Forwarder where
  limit : Nat
  opened : Nat := 0
  idle : List Socket := []
  tasks : List ForwardTask := []
  deriving DecidableEq, Repr

/-- What an attempt to receive comes to. -/
inductive Reception where
  | acknowledged
  | waiting
  | unanswered
  deriving DecidableEq, Repr

namespace Forwarder

def maxAttempts : Nat := 2

/-- What is left of an inbox that is read until a read fails: nothing, or what lies behind the
datagrams that were read before the fault. -/
def drain (readFault : Option Nat) (inbox : List Octets) : List Octets :=
  match readFault with
  | none => []
  | some count => inbox.drop count

/-- Takes a socket: one that is free, its inbox drained, or a new one. -/
def checkout (forwarder : Forwarder) (readFault : Option Nat) : Socket × Forwarder :=
  match forwarder.idle with
  | socket :: rest =>
    ({ socket with inbox := drain readFault socket.inbox }, { forwarder with idle := rest })
  | [] => ({ id := forwarder.opened }, { forwarder with opened := forwarder.opened + 1 })

/-- Gives a socket back; beyond the limit it is closed. -/
def checkin (forwarder : Forwarder) (socket : Socket) : Forwarder :=
  if forwarder.idle.length < forwarder.limit then
    { forwarder with idle := socket :: forwarder.idle }
  else forwarder

/-- Starts to wait for the acknowledgement of a datagram sent now. -/
def start (forwarder : Forwarder) (token : Token) (now timeout : Nat) (readFault : Option Nat) :
    Forwarder :=
  let (socket, forwarder) := forwarder.checkout readFault
  { forwarder with
    tasks := forwarder.tasks ++ [⟨token, socket, now, maxAttempts, now + timeout⟩] }

/-- The socket with one more datagram, if it is the one with the identifier. -/
def arrive (id : Nat) (datagram : Octets) (socket : Socket) : Socket :=
  if socket.id = id then { socket with inbox := socket.inbox ++ [datagram] } else socket

def deliver (forwarder : Forwarder) (id : Nat) (datagram : Octets) : Forwarder :=
  { forwarder with
    idle := forwarder.idle.map (arrive id datagram)
    tasks := forwarder.tasks.map fun task =>
      { task with socket := arrive id datagram task.socket } }

def acknowledges (task : ForwardTask) (datagram : Octets) : Bool :=
  match ServerDatagram.ofOctets (datagram.take Datagram.receiveCapacity) with
  | .ok (.pushAck token) => token == task.token
  | _ => false

/-- What one attempt makes of a task: it reads one datagram, or none where the time ran out. -/
def attempt (task : ForwardTask) (now timeout : Nat) : Reception × ForwardTask :=
  let task' := { task with
    socket := { task.socket with inbox := task.socket.inbox.tail }
    attempts := task.attempts - 1
    wakeAt := now + timeout }
  if task.socket.inbox.head?.any (acknowledges task) then (.acknowledged, task')
  else if task.attempts ≤ 1 then (.unanswered, task')
  else (.waiting, task')

def task? (forwarder : Forwarder) (id : Nat) : Option ForwardTask :=
  forwarder.tasks.find? fun task => task.socket.id == id

def dropTask (forwarder : Forwarder) (id : Nat) : Forwarder :=
  { forwarder with tasks := forwarder.tasks.filter fun task => task.socket.id != id }

/-- An attempt of the task that uses a socket. A finished task gives its socket back. -/
def receive (forwarder : Forwarder) (id now timeout : Nat) : Option Reception × Forwarder :=
  match forwarder.task? id with
  | none => (none, forwarder)
  | some task =>
    match attempt task now timeout with
    | (.waiting, task) =>
      (some .waiting, { forwarder with
        tasks := forwarder.tasks.map fun t => if t.socket.id = id then task else t })
    | (outcome, task) => (some outcome, (forwarder.dropTask id).checkin task.socket)

/-- Receiving on a socket failed: its task ends, and the socket is not used again. -/
def fail (forwarder : Forwarder) (id : Nat) : Forwarder := forwarder.dropTask id

end Forwarder

/-- What forwarding a batch comes to. -/
inductive Forwarding where
  | nothing
  | unreachable
  | sent (datagram : Octets)
  | timeless
  deriving DecidableEq, Repr

/-- Sends a batch and a report that waits, as one datagram. What was counted while it was prepared
stays counted even if the server cannot be reached. -/
def Forwarder.forward (forwarder : Forwarder) (service : UplinkService) (state : ServiceState)
    (batch : List ReceivedPacket) (token : Token) (now : Nat) (surroundings : Surroundings) :
    Forwarding × Forwarder × ServiceState :=
  let clocked := ClockedPacket.ofBatch surroundings.clock batch
  match service.prepare state.gateway token clocked state.report with
  | (.nothing, report) => (.nothing, forwarder, { state with report })
  | (.timeless, report) => (.timeless, forwarder, { state with report })
  | (.ready datagram, report) =>
    let state := { state with report }
    if surroundings.reachable then
      (.sent datagram,
        forwarder.start token now service.config.pushTimeout.milliseconds surroundings.readFault,
        (state.send datagram).countUp (·.send datagram.length))
    else (.unreachable, forwarder, state)

end LorawanGateway
