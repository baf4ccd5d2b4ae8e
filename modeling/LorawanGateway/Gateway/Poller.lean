import LorawanGateway.Gateway.Backoff
import LorawanGateway.Gateway.Downlink
import LorawanGateway.Gateway.ServerLink
import LorawanGateway.Gateway.ServiceState

/-!
The part of a service that asks its server for downlinks. It goes round by round: it makes the
link anew where that is needed, sends a request with a token of its own, and takes in what arrives
until the next request is due. An unanswered request makes the next round start with a pause.
Times are milliseconds since the start.
-/

namespace LorawanGateway

/-- A round after its request: the token, when the round ends, and whether it was acknowledged. -/
structure PollRound where
  token : Token
  deadline : Nat
  acknowledged : Bool := false
  deriving DecidableEq, Repr

inductive PollerPhase where
  /-- A round is about to start. -/
  | atHead
  /-- The pause before the link is made anew. -/
  | reconnecting
  /-- The request is sent, and datagrams are taken in. -/
  | listening (round : PollRound)
  /-- The poller has come to its end. -/
  | ended
  deriving DecidableEq, Repr

/-- A poller; it goes on by itself at the time `wakeAt`. -/
structure Poller where
  config : ServiceConfig
  planner : Option BeaconPlanner := none
  phase : PollerPhase := .atHead
  wakeAt : Nat := 0
  link : ServerLink := {}
  backoff : Backoff := {}
  connected : Bool := false
  rounds : Nat := 0

namespace Poller

/-- Writes the status entry, if one is due. -/
def storeStatus (poller : Poller) (state : ServiceState) (host : Instant) :
    Poller × ServiceState :=
  if poller.link.isStatusDue then
    let link := poller.link.report
    let key := Store.statusKey poller.config.name link.slot
    ({ poller with link }, state.change (.put key (link.statusText host)))
  else (poller, state)

/-- Queues beacons, where this poller is the one to do it, and counts them. -/
def fillBeacons (poller : Poller) (state : ServiceState) : Poller × ServiceState :=
  match poller.planner with
  | none => (poller, state)
  | some planner =>
    let gateway := state.gateway
    let (planner, scheduler, outcome) :=
      planner.fill gateway.scheduler gateway.radio.now? gateway.clock
    ({ poller with planner := some planner },
      { state with gateway := { gateway with scheduler } }.countDown (·.fill outcome))

/-- Goes on listening, or ends the round; an acknowledged round ends the growth of pauses. -/
def listen (poller : Poller) (state : ServiceState) (round : PollRound) (now : Nat) : Poller :=
  if state.isStopping ∨ round.deadline ≤ now then
    { poller with
      phase := .atHead
      wakeAt := now
      backoff := if round.acknowledged then poller.backoff.reset else poller.backoff }
  else
    { poller with
      phase := .listening round
      wakeAt := min round.deadline (now + poller.config.pullTimeout.milliseconds) }

/-- Starts a round: hands a request to the socket. It counts as sent and the round goes on even if
the socket fails to send it. -/
def startRound (poller : Poller) (state : ServiceState) (now : Nat)
    (surroundings : Surroundings) : Poller × ServiceState :=
  let (poller, state) := poller.storeStatus state surroundings.host
  let token := surroundings.token poller.rounds
  let state := (state.send (Datagram.pullData token state.gateway.id)).countDown fun down =>
    { down with pullsSent := down.pullsSent + 1 }
  let poller := { poller with link := poller.link.send, rounds := poller.rounds + 1 }
  (poller.listen state ⟨token, now + poller.config.keepalive.milliseconds, false⟩ now, state)

/-- Makes the link and starts a round, or pauses where the server cannot be reached. -/
def connect (poller : Poller) (state : ServiceState) (now : Nat) (surroundings : Surroundings) :
    Poller × ServiceState :=
  if surroundings.reachable then
    startRound { poller with connected := true } state now surroundings
  else
    let (pause, backoff) := poller.backoff.step
    let (poller, state) := { poller with backoff }.storeStatus state surroundings.host
    ({ poller with phase := .atHead, wakeAt := now + pause * 1000 }, state)

/-- Whether too many requests in a row went unanswered; a threshold of zero means never. -/
def givesUp (poller : Poller) (state : ServiceState) : Bool :=
  let threshold := state.gateway.config.quitThreshold.toNat
  0 < threshold && threshold ≤ poller.link.unanswered

/-- Makes the link anew, after a pause if requests went unanswered. -/
def reconnect (poller : Poller) (state : ServiceState) (now : Nat)
    (surroundings : Surroundings) : Poller × ServiceState :=
  let resync := 0 < poller.link.sent
  let poller := { poller with link := poller.link.reset }
  if resync then
    let (pause, backoff) := poller.backoff.step
    ({ poller with backoff, phase := .reconnecting, wakeAt := now + pause * 1000 }, state)
  else poller.connect state now surroundings

def head (poller : Poller) (state : ServiceState) (now : Nat) (surroundings : Surroundings) :
    Poller × ServiceState :=
  if state.isStopping then ({ poller with phase := .ended }, state)
  else if poller.givesUp state then
    ({ poller with phase := .ended }, { state with halted := true })
  else if poller.link.isInSync ∧ poller.connected then
    poller.startRound state now surroundings
  else poller.reconnect state now surroundings

def wake (poller : Poller) (state : ServiceState) (now : Nat) (surroundings : Surroundings) :
    Poller × ServiceState :=
  match poller.phase with
  | .atHead => poller.head state now surroundings
  | .reconnecting => poller.connect state now surroundings
  | .listening round =>
    let (poller, state) := poller.fillBeacons state
    (poller.listen state round now, state)
  | .ended => (poller, state)

/-- Handles a datagram in a round. Only the first acknowledgement with the token of the round
counts; a request is answered whatever becomes of it. The answer is handed to the socket, and that
the socket fails to send it changes nothing. -/
def handle (poller : Poller) (state : ServiceState) (round : PollRound) (datagram : Octets) :
    Poller × ServiceState × PollRound :=
  let datagram := datagram.take Datagram.receiveCapacity
  let state := state.countDown (·.receive datagram.length)
  match ServerDatagram.ofOctets datagram with
  | .ok (.pullAck token) =>
    if token = round.token ∧ !round.acknowledged then
      ({ poller with link := poller.link.acknowledge },
        state.countDown fun down => { down with acknowledged := down.acknowledged + 1 },
        { round with acknowledged := true })
    else (poller, state, round)
  | .ok (.pullResp token txpk) =>
    let (status, gateway, down) := state.gateway.requestJson txpk state.report.down
    let state := { state with gateway }.countDown fun _ => down
    match Datagram.txAck token gateway.id status with
    | .ok answer => (poller, state.send answer, round)
    | .error _ => (poller, state, round)
  | _ => (poller, state, round)

/-- Takes in a datagram; outside a round nobody listens. -/
def receive (poller : Poller) (state : ServiceState) (datagram : Octets) (now : Nat) :
    Poller × ServiceState :=
  match poller.phase with
  | .listening round =>
    let (poller, state) := poller.fillBeacons state
    let (poller, state, round) := poller.handle state round datagram
    (poller.listen state round now, state)
  | _ => (poller, state)

def isDue (poller : Poller) (limit : Nat) : Bool :=
  poller.phase != .ended && poller.wakeAt < limit

/-- Lets the poller go on by itself up to a time, at most `count` times. -/
def runUntil (limit : Nat) (surroundings : Surroundings) :
    (count : Nat) → Poller → ServiceState → Poller × ServiceState
  | 0, poller, state => (poller, state)
  | count + 1, poller, state =>
    if poller.isDue limit then
      let (poller, state) := poller.wake state poller.wakeAt surroundings
      runUntil limit surroundings count poller state
    else (poller, state)

end Poller

end LorawanGateway
