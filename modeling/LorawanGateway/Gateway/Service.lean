import LorawanGateway.Gateway.Forwarding
import LorawanGateway.Gateway.Poller

/-!
A running service: its way up, its poller and its periodic report. Batches of packets wait in a
short row until the way up takes them; the report is published at fixed times and then sent on its
own. Times are milliseconds since the start.
-/

namespace LorawanGateway

/-- A running service. `isOpen` says whether the way up still takes batches, `reportAt` when the
next report is due. -/
structure Service where
  uplink : UplinkService
  poller : Poller
  forwarder : Forwarder
  waiting : List (List ReceivedPacket) := []
  isOpen : Bool := true
  reportAt : Option Nat
  now : Nat := 0
  tokens : Nat := 0

namespace Service

/-- The batches that may wait; further ones are dropped. -/
def maxWaiting : Nat := 64

/-- The status entries written when a service starts, before anything can fail. -/
def announce (state : ServiceState) (name : String) (host : Instant) : ServiceState :=
  (state.change (.put (Store.serviceKey name) "running")).change
    (.put (Store.statusKey name 1) (ServerLink.statusText {} host))

def ofConfig (gateway : Gateway) (config : ServiceConfig) (planner : Option BeaconPlanner) :
    Except ConfigFault Service := do
  return {
    uplink := ← UplinkService.ofConfig config
    poller := { config, planner }
    forwarder := { limit := gateway.config.maxUplinks }
    reportAt := some gateway.config.statInterval.milliseconds }

def start (state : ServiceState) (config : ServiceConfig) (planner : Option BeaconPlanner)
    (host : Instant) : Except ConfigFault Service × ServiceState :=
  (ofConfig state.gateway config planner, announce state config.name host)

/-- Hands a batch to the way up, unless the service gave up or too many batches wait. -/
def dispatch (service : Service) (state : ServiceState) (batch : List ReceivedPacket) : Service :=
  if state.halted ∨ !service.isOpen ∨ maxWaiting ≤ service.waiting.length then service
  else { service with waiting := service.waiting ++ [batch] }

def forward (service : Service) (state : ServiceState) (batch : List ReceivedPacket)
    (surroundings : Surroundings) : Service × ServiceState :=
  let token := surroundings.token service.tokens
  let (_, forwarder, state) := service.forwarder.forward service.uplink state batch token
    service.now surroundings
  ({ service with forwarder, tokens := service.tokens + 1 }, state)

/-- Takes one batch on the way up; one that comes while the service is to stop ends the way. -/
def take (service : Service) (state : ServiceState) (batch : List ReceivedPacket)
    (surroundings : Surroundings) : Service × ServiceState :=
  if state.isStopping then ({ service with isOpen := false, waiting := [] }, state)
  else service.forward state batch surroundings

/-- Takes at most `count` of the batches that wait, while there are tasks to spare. -/
def takeWaiting (surroundings : Surroundings) :
    (count : Nat) → Service → ServiceState → Service × ServiceState
  | 0, service, state => (service, state)
  | count + 1, service, state =>
    match service.waiting with
    | [] => (service, state)
    | batch :: rest =>
      if service.forwarder.tasks.length < service.forwarder.limit then
        let (service, state) := { service with waiting := rest }.take state batch surroundings
        takeWaiting surroundings count service state
      else (service, state)

/-- Publishes the report and sends it, or ends the reports when the service is to stop. -/
def report (service : Service) (state : ServiceState) (surroundings : Surroundings) :
    Service × ServiceState :=
  if state.isStopping then ({ service with reportAt := none }, state)
  else
    let gateway := state.gateway
    let state := { state with
      report := state.report.publish surroundings.host gateway.position? }
    let service := { service with
      reportAt := service.reportAt.map (· + gateway.config.statInterval.milliseconds) }
    if service.isOpen then service.take state [] surroundings else (service, state)

/-- What comes next by itself. -/
inductive Due where
  | poller
  | report
  | task (socket : Nat)
  deriving DecidableEq, Repr

def agenda (service : Service) : List (Nat × Due) :=
  (if service.poller.phase = .ended then [] else [(service.poller.wakeAt, Due.poller)]) ++
    service.reportAt.toList.map (fun time => (time, Due.report)) ++
    service.forwarder.tasks.map fun task => (task.wakeAt, Due.task task.socket.id)

/-- The earliest entry of an agenda; the first of several. -/
def earliest? : List (Nat × Due) → Option (Nat × Due)
  | [] => none
  | entry :: rest =>
    match earliest? rest with
    | none => some entry
    | some other => if entry.1 ≤ other.1 then some entry else some other

def countReception (state : ServiceState) (roundTrip : Nat) (host : Instant) :
    Option Reception → ServiceState
  | some .acknowledged =>
    let state := state.countUp (·.acknowledge (min roundTrip 0xFFFFFFFF))
    { state with report := { state.report with lastAck := some host } }
  | _ => state

def receive (service : Service) (state : ServiceState) (socket : Nat)
    (surroundings : Surroundings) : Service × ServiceState :=
  let sentAt := ((service.forwarder.task? socket).map (·.sentAt)).getD service.now
  let timeout := service.uplink.config.pushTimeout.milliseconds
  let (reception, forwarder) := service.forwarder.receive socket service.now timeout
  ({ service with forwarder },
    countReception state (service.now - sentAt) surroundings.host reception)

def perform (service : Service) (state : ServiceState) (surroundings : Surroundings) :
    Due → Service × ServiceState
  | .poller =>
    let (poller, state) := service.poller.wake state service.now surroundings
    ({ service with poller }, state)
  | .report => service.report state surroundings
  | .task socket => service.receive state socket surroundings

/-- Lets time pass up to a moment, what is due at that moment excluded, in at most `count`
steps. -/
def runUntil (limit : Nat) (surroundings : Surroundings) :
    (count : Nat) → Service → ServiceState → Service × ServiceState
  | 0, service, state => (service, state)
  | count + 1, service, state =>
    let (service, state) := takeWaiting surroundings service.waiting.length service state
    match (earliest? service.agenda).filter fun entry => entry.1 < limit with
    | none => ({ service with now := limit }, state)
    | some (time, due) =>
      let (service, state) :=
        { service with now := max service.now time }.perform state surroundings due
      runUntil limit surroundings count service state

/-- Lets some milliseconds pass; when none pass, nothing is done. -/
def elapse (service : Service) (state : ServiceState) (milliseconds : Nat)
    (surroundings : Surroundings) : Service × ServiceState :=
  if milliseconds = 0 then (service, state)
  else runUntil (service.now + milliseconds) surroundings (4 * milliseconds + 4) service state

/-- Stops a service: its tasks end and its entries say so. -/
def stop (service : Service) (state : ServiceState) (host : Instant) : ServiceState :=
  let name := service.uplink.config.name
  let state := { state with halted := true }
  (state.change (.erase (Store.serviceKey name))).change
    (.put (Store.statusKey name 1) (ServerLink.statusText {} host))

end Service

end LorawanGateway
