import LorawanGateway.Gateway.Config

/-!
Configurations in JSON. In the records that describe a gateway or a service every field may be
left out; a position and the envelope of a radio chain have to be given whole.
-/

namespace LorawanGateway

namespace Coordinates

def toJson (position : Coordinates) : Json := .object
  [("lat", .double position.latitude), ("lon", .double position.longitude),
    ("alt", .integer position.altitude.toInt)]

def ofJson? (value : Json) : Option Coordinates := do
  let record ← Json.record? ["lat", "lon", "alt"] value
  return {
    latitude := ← record.required "lat" Json.double?
    longitude := ← record.required "lon" Json.double?
    altitude := ← record.required "alt" Json.signed32? }

end Coordinates

namespace TxEnvelope

def toJson (envelope : TxEnvelope) : Json := .object
  [("enabled", .bool envelope.enabled),
    ("freq_min_hz", .natural envelope.lowestFrequency.toNat),
    ("freq_max_hz", .natural envelope.highestFrequency.toNat),
    ("power_lut", .array (envelope.powers.map fun power => .integer power.toInt))]

def ofJson? (value : Json) : Option TxEnvelope := do
  let record ← Json.record? ["enabled", "freq_min_hz", "freq_max_hz", "power_lut"] value
  return {
    enabled := ← record.required "enabled" Json.bool?
    lowestFrequency := ← record.required "freq_min_hz" Json.word32?
    highestFrequency := ← record.required "freq_max_hz" Json.word32?
    powers := ← record.required "power_lut" (Json.list? Json.signed8?) }

end TxEnvelope

namespace BeaconConfig

def toJson (config : BeaconConfig) : Json := .object
  [("period_s", .natural config.period.toNat), ("freq_hz", .natural config.frequency.toNat),
    ("freq_nb", .natural config.channels.toNat),
    ("freq_step_hz", .natural config.channelStep.toNat),
    ("datarate", .natural config.dataRate.toNat), ("bw_hz", .natural config.bandwidth.toNat),
    ("power", .integer config.power.toInt), ("infodesc", .natural config.info.toNat)]

def ofJson? (value : Json) : Option BeaconConfig := do
  let record ← Json.record? ["period_s", "freq_hz", "freq_nb", "freq_step_hz", "datarate", "bw_hz",
    "power", "infodesc"] value
  let standard : BeaconConfig := {}
  return {
    period := ← record.withDefault "period_s" standard.period Json.word32?
    frequency := ← record.withDefault "freq_hz" standard.frequency Json.word32?
    channels := ← record.withDefault "freq_nb" standard.channels Json.word8?
    channelStep := ← record.withDefault "freq_step_hz" standard.channelStep Json.word32?
    dataRate := ← record.withDefault "datarate" standard.dataRate Json.word8?
    bandwidth := ← record.withDefault "bw_hz" standard.bandwidth Json.word32?
    power := ← record.withDefault "power" standard.power Json.signed8?
    info := ← record.withDefault "infodesc" standard.info Json.word8? }

end BeaconConfig

namespace GpsConfig

def toJson (config : GpsConfig) : Json := .object
  [("enabled", .bool config.enabled), ("reference", config.position.toJson)]

def ofJson? (value : Json) : Option GpsConfig := do
  let record ← Json.record? ["enabled", "reference"] value
  let standard : GpsConfig := {}
  return {
    enabled := ← record.withDefault "enabled" standard.enabled Json.bool?
    position := ← record.withDefault "reference" standard.position Coordinates.ofJson? }

end GpsConfig

namespace GateConfig

def toJson (config : GateConfig) : Json := .object
  [("enabled", .bool config.enabled), ("slots", .natural config.slots)]

def ofJson? (value : Json) : Option GateConfig := do
  let record ← Json.record? ["enabled", "slots"] value
  let standard : GateConfig := {}
  return {
    enabled := ← record.withDefault "enabled" standard.enabled Json.bool?
    slots := ← record.withDefault "slots" standard.slots (Json.naturalBelow? 64) }

end GateConfig

namespace RelayConfig

def toJson (config : RelayConfig) : Json := .object
  [("as_relay", .bool config.asRelay), ("has_relay", .bool config.hasRelay)]

def ofJson? (value : Json) : Option RelayConfig := do
  let record ← Json.record? ["as_relay", "has_relay"] value
  return {
    asRelay := ← record.withDefault "as_relay" false Json.bool?
    hasRelay := ← record.withDefault "has_relay" false Json.bool? }

end RelayConfig

namespace FilterConfig

def toJson (config : FilterConfig) : Json := .object
  [("fport", .text config.fPort), ("devaddr", .text config.address),
    ("nwkid", .text config.network), ("deveui", .text config.device)]

def ofJson? (value : Json) : Option FilterConfig := do
  let record ← Json.record? ["fport", "devaddr", "nwkid", "deveui"] value
  return {
    fPort := ← record.withDefault "fport" "" Json.text?
    address := ← record.withDefault "devaddr" "" Json.text?
    network := ← record.withDefault "nwkid" "" Json.text?
    device := ← record.withDefault "deveui" "" Json.text? }

end FilterConfig

namespace ServiceConfig

/-- The names of the fields in order. -/
def names : List String :=
  ["name", "server_address", "port_up", "port_down", "keepalive_s", "push_timeout_ms",
    "pull_timeout_ms", "forward_crc_valid", "forward_crc_error", "forward_crc_disabled", "filter",
    "mac_decode"]

def toJson (config : ServiceConfig) : Json := .object
  [("name", .text config.name), ("server_address", .text config.server),
    ("port_up", .natural config.portUp.toNat), ("port_down", .natural config.portDown.toNat),
    ("keepalive_s", .natural config.keepaliveSeconds.toNat),
    ("push_timeout_ms", .natural config.pushTimeoutMilliseconds.toNat),
    ("pull_timeout_ms", .natural config.pullTimeoutMilliseconds.toNat),
    ("forward_crc_valid", .bool config.forwardOk), ("forward_crc_error", .bool config.forwardBad),
    ("forward_crc_disabled", .bool config.forwardWithoutCrc), ("filter", config.filter.toJson),
    ("mac_decode", .bool config.inspectFrames)]

def ofJson? (value : Json) : Option ServiceConfig := do
  let record ← Json.record? names value
  let standard : ServiceConfig := {}
  return {
    name := ← record.withDefault "name" standard.name Json.text?
    server := ← record.withDefault "server_address" standard.server Json.text?
    portUp := ← record.withDefault "port_up" standard.portUp Json.word16?
    portDown := ← record.withDefault "port_down" standard.portDown Json.word16?
    keepaliveSeconds := ← record.withDefault "keepalive_s" standard.keepaliveSeconds Json.word64?
    pushTimeoutMilliseconds :=
      ← record.withDefault "push_timeout_ms" standard.pushTimeoutMilliseconds Json.word64?
    pullTimeoutMilliseconds :=
      ← record.withDefault "pull_timeout_ms" standard.pullTimeoutMilliseconds Json.word64?
    forwardOk := ← record.withDefault "forward_crc_valid" standard.forwardOk Json.bool?
    forwardBad := ← record.withDefault "forward_crc_error" standard.forwardBad Json.bool?
    forwardWithoutCrc :=
      ← record.withDefault "forward_crc_disabled" standard.forwardWithoutCrc Json.bool?
    filter := ← record.withDefault "filter" standard.filter FilterConfig.ofJson?
    inspectFrames := ← record.withDefault "mac_decode" standard.inspectFrames Json.bool? }

end ServiceConfig

namespace GatewayConfig

/-- The names of the fields in order. -/
def names : List String :=
  ["gateway_id", "gps", "tx_chains", "antenna_gain", "default_tx_power", "lbt", "beacon", "relay",
    "autoquit_threshold", "max_concurrent_uplinks", "stat_interval_s", "store_file", "services"]

def toJson (config : GatewayConfig) : Json := .object
  [("gateway_id", .text config.identifier), ("gps", config.gps.toJson),
    ("tx_chains", .array (config.chains.map TxEnvelope.toJson)),
    ("antenna_gain", .integer config.antennaGain.toInt),
    ("default_tx_power", .integer config.defaultPower.toInt), ("lbt", config.gate.toJson),
    ("beacon", config.beacon.toJson), ("relay", config.relay.toJson),
    ("autoquit_threshold", .natural config.quitThreshold.toNat),
    ("max_concurrent_uplinks", .natural config.maxUplinks),
    ("stat_interval_s", .natural config.statIntervalSeconds.toNat),
    ("store_file", Json.orNull .text config.storeFile),
    ("services", .array (config.services.map ServiceConfig.toJson))]

def ofJson? (value : Json) : Option GatewayConfig := do
  let record ← Json.record? names value
  let standard : GatewayConfig := {}
  return {
    identifier := ← record.withDefault "gateway_id" standard.identifier Json.text?
    gps := ← record.withDefault "gps" standard.gps GpsConfig.ofJson?
    chains := ← record.withDefault "tx_chains" standard.chains (Json.list? TxEnvelope.ofJson?)
    antennaGain := ← record.withDefault "antenna_gain" standard.antennaGain Json.signed8?
    defaultPower := ← record.withDefault "default_tx_power" standard.defaultPower Json.signed8?
    gate := ← record.withDefault "lbt" standard.gate GateConfig.ofJson?
    beacon := ← record.withDefault "beacon" standard.beacon BeaconConfig.ofJson?
    relay := ← record.withDefault "relay" standard.relay RelayConfig.ofJson?
    quitThreshold := ← record.withDefault "autoquit_threshold" standard.quitThreshold Json.word32?
    maxUplinks :=
      ← record.withDefault "max_concurrent_uplinks" standard.maxUplinks (Json.naturalBelow? 64)
    statIntervalSeconds :=
      ← record.withDefault "stat_interval_s" standard.statIntervalSeconds Json.word64?
    storeFile :=
      ← record.withDefault "store_file" standard.storeFile (Json.Record.nullable Json.text?)
    services :=
      ← record.withDefault "services" standard.services (Json.list? ServiceConfig.ofJson?) }

def ofText (text : String) : Except ConfigError GatewayConfig :=
  match (Json.ofText? text).bind ofJson? with
  | none => .error .malformed
  | some config => (config.validate.mapError .invalid).map fun _ => config

end GatewayConfig

end LorawanGateway
