import LorawanGateway.Datagram.Header
import LorawanGateway.Gateway.Basic
import LorawanGateway.Gateway.TrafficReport

/-!
What the parts of a running service change together, and what surrounds them: the server, the
clock of the host and the tokens of datagrams.
-/

namespace LorawanGateway

inductive StoreChange where
  | put (key value : String)
  | erase (key : String)
  deriving DecidableEq, Repr

def Store.apply (store : Store) : StoreChange → Store
  | .put key value => store.put key value
  | .erase key => store.erase key

/-- What the parts of a running service change together: the gateway, the report, whether the
service gave up, and the datagrams that were handed to a socket so far, in order. Whether the
socket really sent them is not told. -/
structure ServiceState where
  gateway : Gateway
  report : TrafficReport := {}
  halted : Bool := false
  changes : List StoreChange := []
  sent : List Octets := []

namespace ServiceState

def isStopping (state : ServiceState) : Bool := state.gateway.stopping || state.halted

def change (state : ServiceState) (change : StoreChange) : ServiceState :=
  { state with
    gateway := { state.gateway with store := state.gateway.store.apply change }
    changes := state.changes ++ [change] }

/-- Hands a datagram to a socket. -/
def send (state : ServiceState) (datagram : Octets) : ServiceState :=
  { state with sent := state.sent ++ [datagram] }

def countUp (state : ServiceState) (f : UplinkCounters → UplinkCounters) : ServiceState :=
  { state with report := { state.report with up := f state.report.up } }

def countDown (state : ServiceState) (f : DownlinkCounters → DownlinkCounters) :
    ServiceState :=
  { state with report := { state.report with down := f state.report.down } }

end ServiceState

/-- What surrounds a service: whether the server can be reached, what the clock of the host reads
and the tokens of the datagrams, one after the other, and after how many datagrams a read that does
not wait fails, if one fails before the socket is empty. -/
structure Surroundings where
  reachable : Bool
  clock : Nat → Instant
  token : Nat → Token
  readFault : Option Nat := none

/-- The clock of the host where it is read once. -/
def Surroundings.host (surroundings : Surroundings) : Instant := surroundings.clock 0

end LorawanGateway
