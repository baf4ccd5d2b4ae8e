import LorawanGateway.Gateway.Config
import LorawanGateway.Gateway.Store

/-!
What the services of a gateway share: its identity and configuration, the store, the radio with
its queues, and the GPS clock.
-/

namespace LorawanGateway

structure Gateway where
  id : Eui64
  config : GatewayConfig
  store : Store
  radio : Concentrator
  scheduler : TxScheduler
  clock : GpsClock := {}
  stopping : Bool := false

namespace Gateway

/-- A gateway with nothing queued, for a configuration that passes its checks. -/
def ofConfig (config : GatewayConfig) (store : Store) (radio : Concentrator) :
    Except ConfigFault Gateway := do
  config.validate
  let id ← config.eui
  let gate := if config.gate.enabled then some (ListenGate.ofSize config.gate.slots) else none
  return { id, config, store, radio, scheduler := .ofEnvelopes config.chains gate }

/-- The GPS reference, if the gateway follows GPS time and a reference holds. -/
def reference? (gateway : Gateway) : Option TimeReference :=
  if gateway.config.gps.enabled then gateway.clock.reference? else none

/-- The position to report, if the gateway follows GPS time. -/
def position? (gateway : Gateway) : Option Coordinates :=
  if gateway.config.gps.enabled then some gateway.config.gps.position else none

end Gateway

/-- What makes the beacons that a configuration asks for, if it does. -/
def GatewayConfig.beaconPlanner (config : GatewayConfig) :
    Except ConfigFault (Option BeaconPlanner) :=
  if config.beacon.period = 0 then .ok none
  else ((BeaconPlanner.ofConfig config.beacon config.gps.position).mapError .beacon).map some

end LorawanGateway
