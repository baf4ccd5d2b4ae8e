import LorawanGateway.Gateway.ConfigJson
import LorawanGateway.Proofs.Json.Fields

/-!
Configurations as text. Each part of a configuration is read back from its JSON form, and the JSON
form holds only numbers that their texts stand for, so a configuration is read back from its text.
-/

namespace LorawanGateway

open Json (IsExact)

namespace Coordinates

variable {position : Coordinates}

theorem ofJson?_toJson (latitude : position.latitude.isFinite)
    (longitude : position.longitude.isFinite) : ofJson? position.toJson = some position := by
  refine Json.record?_object_bind (by simp) fun record given => ?_
  simp only [List.forall_mem_cons] at given
  simp [Json.Record.required, given, Json.double?_double latitude,
    Json.double?_double longitude]

theorem isExact_toJson (latitude : position.latitude = 0.0 ∨ position.latitude = -0.0)
    (longitude : position.longitude = 0.0 ∨ position.longitude = -0.0) :
    position.toJson.IsExact :=
  .object (by simp [Json.isExact_double latitude, Json.isExact_double longitude])

end Coordinates

namespace TxEnvelope

theorem ofJson?_toJson (envelope : TxEnvelope) : ofJson? envelope.toJson = some envelope := by
  have powers : Json.list? Json.signed8?
      (.array (envelope.powers.map fun power => .integer power.toInt)) = some envelope.powers :=
    Json.list?_map fun power _ => Json.signed8?_integer power
  refine Json.record?_object_bind (by simp) fun record given => ?_
  simp only [List.forall_mem_cons] at given
  simp [Json.Record.required, given, powers]

theorem isExact_toJson (envelope : TxEnvelope) : envelope.toJson.IsExact :=
  .object (by simp [Json.isExact_map])

end TxEnvelope

namespace BeaconConfig

theorem ofJson?_toJson (config : BeaconConfig) : ofJson? config.toJson = some config := by
  refine Json.record?_object_bind (by simp) fun record given => ?_
  simp only [List.forall_mem_cons] at given
  simp [Json.Record.withDefault, given]

theorem isExact_toJson (config : BeaconConfig) : config.toJson.IsExact :=
  .object (by simp)

end BeaconConfig

namespace GpsConfig

variable {config : GpsConfig}

theorem ofJson?_toJson (latitude : config.position.latitude.isFinite)
    (longitude : config.position.longitude.isFinite) : ofJson? config.toJson = some config := by
  refine Json.record?_object_bind (by simp) fun record given => ?_
  simp only [List.forall_mem_cons] at given
  simp [Json.Record.withDefault, given, Coordinates.ofJson?_toJson latitude longitude]

theorem isExact_toJson
    (latitude : config.position.latitude = 0.0 ∨ config.position.latitude = -0.0)
    (longitude : config.position.longitude = 0.0 ∨ config.position.longitude = -0.0) :
    config.toJson.IsExact :=
  .object (by simp [Coordinates.isExact_toJson latitude longitude])

end GpsConfig

namespace GateConfig

variable {config : GateConfig}

theorem ofJson?_toJson (slots : config.slots < 2 ^ 64) : ofJson? config.toJson = some config := by
  refine Json.record?_object_bind (by simp) fun record given => ?_
  simp only [List.forall_mem_cons] at given
  simp [Json.Record.withDefault, given, Json.naturalBelow?_natural slots]

theorem isExact_toJson (slots : config.slots < 2 ^ 64) : config.toJson.IsExact :=
  .object (by simp [Json.isExact_natural slots])

end GateConfig

namespace RelayConfig

theorem ofJson?_toJson (config : RelayConfig) : ofJson? config.toJson = some config := by
  refine Json.record?_object_bind (by simp) fun record given => ?_
  simp only [List.forall_mem_cons] at given
  simp [Json.Record.withDefault, given]

theorem isExact_toJson (config : RelayConfig) : config.toJson.IsExact :=
  .object (by simp)

end RelayConfig

namespace FilterConfig

theorem ofJson?_toJson (config : FilterConfig) : ofJson? config.toJson = some config := by
  refine Json.record?_object_bind (by simp) fun record given => ?_
  simp only [List.forall_mem_cons] at given
  simp [Json.Record.withDefault, given]

theorem isExact_toJson (config : FilterConfig) : config.toJson.IsExact :=
  .object (by simp)

end FilterConfig

namespace ServiceConfig

theorem ofJson?_toJson (config : ServiceConfig) : ofJson? config.toJson = some config := by
  refine Json.record?_object_bind (by simp) fun record given => ?_
  simp only [List.forall_mem_cons] at given
  simp [Json.Record.withDefault, given, FilterConfig.ofJson?_toJson]

theorem isExact_toJson (config : ServiceConfig) : config.toJson.IsExact :=
  .object (by simp [FilterConfig.isExact_toJson])

end ServiceConfig

namespace GatewayConfig

variable {config : GatewayConfig}

theorem ofJson?_toJson (latitude : config.gps.position.latitude.isFinite)
    (longitude : config.gps.position.longitude.isFinite) (slots : config.gate.slots < 2 ^ 64)
    (uplinks : config.maxUplinks < 2 ^ 64) : ofJson? config.toJson = some config := by
  have chains := Json.list?_map fun (chain : TxEnvelope) (_ : chain ∈ config.chains) =>
    chain.ofJson?_toJson
  have services := Json.list?_map fun (service : ServiceConfig) (_ : service ∈ config.services) =>
    service.ofJson?_toJson
  refine Json.record?_object_bind (by simp) fun record given => ?_
  simp only [List.forall_mem_cons] at given
  simp [Json.Record.withDefault, given, GpsConfig.ofJson?_toJson latitude longitude,
    GateConfig.ofJson?_toJson slots, BeaconConfig.ofJson?_toJson, RelayConfig.ofJson?_toJson,
    Json.naturalBelow?_natural uplinks, chains, services]

theorem isExact_toJson
    (latitude : config.gps.position.latitude = 0.0 ∨ config.gps.position.latitude = -0.0)
    (longitude : config.gps.position.longitude = 0.0 ∨ config.gps.position.longitude = -0.0)
    (slots : config.gate.slots < 2 ^ 64) (uplinks : config.maxUplinks < 2 ^ 64) :
    config.toJson.IsExact :=
  .object (by
    simp [GpsConfig.isExact_toJson latitude longitude, GateConfig.isExact_toJson slots,
      BeaconConfig.isExact_toJson, RelayConfig.isExact_toJson, Json.isExact_natural uplinks,
      Json.isExact_map, TxEnvelope.isExact_toJson, ServiceConfig.isExact_toJson])

/-- A valid configuration is read back from its text, whatever its texts, its integers and its
lists are. Its counts are machine words, and it stands at the origin of latitude and longitude. -/
theorem ofText_toJson_render (valid : config.validate = .ok ())
    (latitude : config.gps.position.latitude = 0.0 ∨ config.gps.position.latitude = -0.0)
    (longitude : config.gps.position.longitude = 0.0 ∨ config.gps.position.longitude = -0.0)
    (slots : config.gate.slots < 2 ^ 64) (uplinks : config.maxUplinks < 2 ^ 64) :
    ofText config.toJson.render = .ok config := by
  have read : Json.ofText? config.toJson.render = some config.toJson :=
    Json.ofText?_render (isExact_toJson latitude longitude slots uplinks)
  have understood : ofJson? config.toJson = some config :=
    ofJson?_toJson (Json.isFinite_of_zero latitude) (Json.isFinite_of_zero longitude) slots uplinks
  rw [ofText, read, Option.bind_some, understood]
  simp only [valid]
  rfl

/-- Texts that have to be escaped, numbers at the ends of their ranges, and lists of any length. -/
def farCornered : GatewayConfig where
  identifier := "\t+00ff00FF00ff00FF\n"
  gps := { enabled := true, position := ⟨0.0, -0.0, -0x80000000⟩ }
  chains := [{ enabled := false, highestFrequency := 0xFFFFFFFF, powers := [] },
    { powers := [-128, 127] }, {}]
  antennaGain := -128
  defaultPower := 127
  gate := { slots := 0xFFFFFFFFFFFFFFFF }
  quitThreshold := 0xFFFFFFFF
  maxUplinks := 0xFFFFFFFFFFFFFFFF
  statIntervalSeconds := 0xFFFFFFFFFFFFFFFF
  storeFile := some "C:\\über\x00\\\"𝄞\".json"
  services :=
    [{ name := "\"\x7f\u2028", server := "\n", filter := { device := "eXclude" } },
      { portUp := 0xFFFF, portDown := 0 }]

theorem ofText_toJson_render_farCornered :
    ofText farCornered.toJson.render = .ok farCornered :=
  ofText_toJson_render (by decide +kernel) (.inl rfl) (.inr rfl) (by decide) (by decide)

end GatewayConfig

end LorawanGateway
