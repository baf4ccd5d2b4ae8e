import LorawanGateway.Proofs.Gateway.TxRequest
import LorawanGateway.Proofs.Radio.Spellings
import LorawanGateway.Proofs.Text.Base64Inverse

/-!
Which requests become packets, and which. What a request must say is put in terms of its fields
alone: the moment, the modulation with its spellings, and the payload as base-64 text. A request
that says all of it becomes the packet it describes; only a moment that needs a GPS reference where
none holds is told apart among the faults.
-/

namespace LorawanGateway

namespace Gateway

variable {gateway : Gateway}

/-- The gateway follows GPS time by a reference that holds. -/
structure Follows (gateway : Gateway) (reference : TimeReference) : Prop where
  enabled : gateway.config.gps.enabled = true
  valid : gateway.clock.valid = true
  last : gateway.clock.last = some reference

theorem reference?_eq_some_iff {reference : TimeReference} :
    gateway.reference? = some reference ↔ gateway.Follows reference := by
  unfold reference? GpsClock.reference?
  constructor
  · intro held
    split at held
    · split at held
      · exact ⟨‹_›, ‹_›, held⟩
      · cases held
    · cases held
  · rintro ⟨enabled, valid, last⟩
    rw [if_pos enabled, if_pos valid, last]

end Gateway

namespace Txpk

variable {txpk : Txpk} {gateway : Gateway}

/-- When a request makes its packet leave: at once, or else at a counter value, or else at a GPS
time. -/
inductive LeavesAt (txpk : Txpk) (gateway : Gateway) : TxMoment → Prop where
  | atOnce (immediate : txpk.immediate = some true) : LeavesAt txpk gateway ⟨.classC, 0, .immediate⟩
  | atCounter {counter : UInt32} (deferred : txpk.immediate ≠ some true)
      (stated : txpk.counter = some counter) :
      LeavesAt txpk gateway ⟨.classA, counter, .timestamped⟩
  | atTime {time : UInt64} {reference : TimeReference} (deferred : txpk.immediate ≠ some true)
      (uncounted : txpk.counter = none) (stated : txpk.gpsTime = some time)
      (follows : gateway.Follows reference) :
      LeavesAt txpk gateway
        ⟨.classB, reference.counterAt (.ofMilliseconds time.toNat), .timestamped⟩

/-- How a request makes its packet be modulated, the preamble aside. -/
inductive Modulates (txpk : Txpk) : DataRate → CodingRate → UInt8 → Prop where
  | lora {factor : SpreadingFactor} {bandwidth : Bandwidth} {rate : CodingRate} {text : String}
      (named : txpk.modulation = some "LORA")
      (paced : txpk.dataRate = some (.name (factor.name ++ bandwidth.name)))
      (coded : txpk.codingRate = some text) (spelled : text ∈ rate.spellings)
      (corrected : rate ≠ .off) : Modulates txpk (.lora factor bandwidth) rate 0
  | fsk {bitsPerSecond deviation : UInt32} (named : txpk.modulation = some "FSK")
      (paced : txpk.dataRate = some (.bitsPerSecond bitsPerSecond))
      (deviated : txpk.deviation = some deviation) (narrow : deviation.toNat / 1000 ≤ 255) :
      Modulates txpk (.fsk bitsPerSecond) .off (UInt8.ofNat (deviation.toNat / 1000))

/-- The payload that a request spells, behind blanks. -/
def Spells (txpk : Txpk) (payload : Octets) : Prop :=
  ∃ text, txpk.data = some text ∧ Base64.encode payload = Text.trim text

/-- A request that says all it must. -/
structure IsComplete (txpk : Txpk) (gateway : Gateway) : Prop where
  timed : txpk.immediate = some true ∨ txpk.counter ≠ none ∨
    txpk.gpsTime ≠ none ∧ ∃ reference, gateway.Follows reference
  tuned : txpk.frequency ≠ none
  directed : txpk.rfChain ≠ none
  sized : ∃ size, txpk.size = some size ∧ size.toNat ≤ maxPayloadLength
  filled : ∃ payload, txpk.Spells payload ∧ payload.length ≤ maxPayloadLength
  modulated : ∃ dataRate codingRate deviation, txpk.Modulates dataRate codingRate deviation

/-- A request says no moment but a GPS time, and the gateway follows none. -/
def LacksReference (txpk : Txpk) (gateway : Gateway) : Prop :=
  txpk.immediate ≠ some true ∧ txpk.counter = none ∧ txpk.gpsTime ≠ none ∧
    ¬ ∃ reference, gateway.Follows reference

/-- What a packet and its class take from a request. -/
structure Describes (txpk : Txpk) (gateway : Gateway) (packet : TransmitPacket)
    (packetClass : PacketClass) : Prop where
  moment : txpk.LeavesAt gateway ⟨packetClass, packet.counter, packet.mode⟩
  modulation : txpk.Modulates packet.dataRate packet.codingRate packet.deviation
  standard : txpk.preamble = none → packet.preamble = packet.dataRate.modulation.standardPreamble
  raised : ∀ preamble, txpk.preamble = some preamble →
    packet.preamble = max preamble packet.dataRate.modulation.minimumPreamble
  payload : txpk.Spells packet.payload

section Moment

theorem moment_eq_ok_iff {moment : TxMoment} :
    txpk.moment gateway.reference? = .ok moment ↔ txpk.LeavesAt gateway moment := by
  constructor
  · intro timed
    unfold Txpk.moment at timed
    split at timed
    · cases timed
      exact .atOnce ‹_›
    · split at timed
      · cases timed
        exact .atCounter ‹_› ‹_›
      · split at timed
        · cases timed
          exact .atTime ‹_› ‹_› ‹_› (Gateway.reference?_eq_some_iff.mp ‹_›)
        · cases timed
      · cases timed
  · rintro (⟨immediate⟩ | ⟨deferred, stated⟩ | ⟨deferred, uncounted, stated, follows⟩)
    · exact if_pos immediate
    · simp only [Txpk.moment, if_neg deferred, stated]
    · simp only [Txpk.moment, if_neg deferred, uncounted, stated,
        Gateway.reference?_eq_some_iff.mpr follows]

theorem exists_leavesAt_iff : (∃ moment, txpk.LeavesAt gateway moment) ↔
    txpk.immediate = some true ∨ txpk.counter ≠ none ∨
      txpk.gpsTime ≠ none ∧ ∃ reference, gateway.Follows reference := by
  constructor
  · rintro ⟨_, ⟨immediate⟩ | ⟨-, stated⟩ | ⟨-, -, stated, follows⟩⟩
    · exact .inl immediate
    · exact .inr (.inl (stated ▸ Option.some_ne_none _))
    · exact .inr (.inr ⟨stated ▸ Option.some_ne_none _, _, follows⟩)
  · intro timed
    by_cases immediate : txpk.immediate = some true
    · exact ⟨_, .atOnce immediate⟩
    · cases stated : txpk.counter with
      | some counter => exact ⟨_, .atCounter immediate stated⟩
      | none =>
          obtain now | counted | ⟨given, reference, follows⟩ := timed
          · exact absurd now immediate
          · exact absurd stated counted
          · obtain ⟨time, at_⟩ := Option.ne_none_iff_exists'.mp given
            exact ⟨_, .atTime immediate stated at_ follows⟩

theorem moment_eq_gpsUnlocked_iff :
    txpk.moment gateway.reference? = .error .gpsUnlocked ↔ txpk.LacksReference gateway := by
  simp only [LacksReference, ← Gateway.reference?_eq_some_iff]
  unfold Txpk.moment
  split
  · rename_i immediate
    simp [immediate]
  · rename_i deferred
    cases txpk.counter with
    | some counter => simp
    | none =>
        cases txpk.gpsTime with
        | none => simp
        | some time => cases gateway.reference? <;> simp [deferred]

end Moment

section Modulation

variable {modulation : TxModulation}

theorem mapError_eq_ok {fault other α : Type} {outcome : Except fault α} {turn : fault → other}
    {value : α} : outcome.mapError turn = .ok value ↔ outcome = .ok value := by
  cases outcome <;> simp [Except.mapError]

theorem loraModulation_eq_ok_iff {spelled : SpelledRate} :
    txpk.loraModulation spelled = .ok modulation ↔ ∃ factor bandwidth rate text,
      spelled = .name (factor.name ++ bandwidth.name) ∧ txpk.codingRate = some text ∧
      text ∈ rate.spellings ∧ rate ≠ .off ∧
      modulation = ⟨.lora factor bandwidth, rate, 0, txpk.preambleFor .lora⟩ := by
  constructor
  · intro settled
    cases spelled with
    | bitsPerSecond rate => cases settled
    | name text =>
        obtain ⟨dataRate, paced, settled⟩ := bind_eq_ok.mp settled
        obtain ⟨codr, coded, settled⟩ := bind_eq_ok.mp settled
        obtain ⟨factor, bandwidth, rfl, rfl⟩ :=
          DataRate.ofLoraName_eq_ok_iff.mp (mapError_eq_ok.mp paced)
        split at settled
        · cases settled
        · cases settled
        · rename_i rate corrected read
          cases settled
          exact ⟨factor, bandwidth, rate, codr, rfl, demand_eq_ok.mp coded,
            CodingRate.ofNameOrFraction_eq_ok_iff.mp read, corrected, rfl⟩
  · rintro ⟨factor, bandwidth, rate, text, rfl, coded, among, corrected, rfl⟩
    have paced := DataRate.ofLoraName_eq_ok_iff.mpr ⟨factor, bandwidth, rfl, rfl⟩
    refine bind_eq_ok.mpr ⟨_, mapError_eq_ok.mpr paced,
      bind_eq_ok.mpr ⟨text, demand_eq_ok.mpr coded, ?_⟩⟩
    rw [CodingRate.ofNameOrFraction_eq_ok_iff.mpr among]
    cases rate with
    | off => exact absurd rfl corrected
    | _ => rfl

theorem fskModulation_eq_ok_iff {spelled : SpelledRate} :
    txpk.fskModulation spelled = .ok modulation ↔ ∃ bitsPerSecond deviation,
      spelled = .bitsPerSecond bitsPerSecond ∧ txpk.deviation = some deviation ∧
      deviation.toNat / 1000 ≤ 255 ∧ modulation = ⟨.fsk bitsPerSecond, .off,
        UInt8.ofNat (deviation.toNat / 1000), txpk.preambleFor .fsk⟩ := by
  refine ⟨fskModulation_eq_ok, ?_⟩
  rintro ⟨bitsPerSecond, deviation, rfl, deviated, narrow, rfl⟩
  refine bind_eq_ok.mpr ⟨deviation, demand_eq_ok.mpr deviated, ?_⟩
  rw [if_neg (Nat.not_lt.mpr narrow)]

theorem modulationSettings_eq_ok_iff : txpk.modulationSettings = .ok modulation ↔
    txpk.Modulates modulation.dataRate modulation.codingRate modulation.deviation ∧
      modulation.preamble = txpk.preambleFor modulation.dataRate.modulation := by
  constructor
  · intro settled
    obtain ⟨name, named, rated⟩ := bind_eq_ok.mp settled
    obtain ⟨spelled, paced, chosen⟩ := bind_eq_ok.mp rated
    replace named := demand_eq_ok.mp named
    replace paced := demand_eq_ok.mp paced
    clear settled rated
    -- The name decides which other fields the request must have.
    split at chosen
    · rename_i lora
      cases Modulation.ofName_eq_ok_iff.mp lora
      obtain ⟨factor, bandwidth, rate, text, rfl, coded, among, corrected, rfl⟩ :=
        loraModulation_eq_ok_iff.mp chosen
      exact ⟨.lora named paced coded among corrected, rfl⟩
    · rename_i fsk
      cases Modulation.ofName_eq_ok_iff.mp fsk
      obtain ⟨bitsPerSecond, deviation, rfl, deviated, narrow, rfl⟩ :=
        fskModulation_eq_ok_iff.mp chosen
      exact ⟨.fsk named paced deviated narrow, rfl⟩
    · cases chosen
  · obtain ⟨dataRate, codingRate, deviation, preamble⟩ := modulation
    rintro ⟨modulates, preferred⟩
    dsimp only at modulates preferred
    subst preferred
    cases modulates with
    | lora named paced coded among corrected =>
        refine bind_eq_ok.mpr ⟨_, demand_eq_ok.mpr named,
          bind_eq_ok.mpr ⟨_, demand_eq_ok.mpr paced, ?_⟩⟩
        exact loraModulation_eq_ok_iff.mpr ⟨_, _, _, _, rfl, coded, among, corrected, rfl⟩
    | fsk named paced deviated narrow =>
        refine bind_eq_ok.mpr ⟨_, demand_eq_ok.mpr named,
          bind_eq_ok.mpr ⟨_, demand_eq_ok.mpr paced, ?_⟩⟩
        exact fskModulation_eq_ok_iff.mpr ⟨_, _, rfl, deviated, narrow, rfl⟩

end Modulation

section Faults

theorem bind_ne_gpsUnlocked {α β : Type} {outcome : Except TxRequestError α}
    {next : α → Except TxRequestError β} (first : outcome ≠ .error .gpsUnlocked)
    (later : ∀ value, next value ≠ .error .gpsUnlocked) :
    (outcome >>= next) ≠ .error .gpsUnlocked := by
  cases outcome with
  | error fault => exact fun same => first (congrArg Except.error (Except.error.inj same))
  | ok value => exact later value

theorem demand_ne_gpsUnlocked {α : Type} {field : TxField} {given : Option α} :
    demand field given ≠ .error .gpsUnlocked := by
  cases given <;> nofun

theorem loraModulation_ne_gpsUnlocked (spelled : SpelledRate) :
    txpk.loraModulation spelled ≠ .error .gpsUnlocked := by
  cases spelled with
  | bitsPerSecond rate => nofun
  | name text =>
      refine bind_ne_gpsUnlocked ?_ fun dataRate =>
        bind_ne_gpsUnlocked demand_ne_gpsUnlocked fun codr => ?_
      · cases DataRate.ofLoraName text <;> nofun
      · split <;> nofun

theorem fskModulation_ne_gpsUnlocked (spelled : SpelledRate) :
    txpk.fskModulation spelled ≠ .error .gpsUnlocked := by
  cases spelled with
  | name text => nofun
  | bitsPerSecond rate =>
      refine bind_ne_gpsUnlocked demand_ne_gpsUnlocked fun deviation => ?_
      split <;> nofun

theorem modulationSettings_ne_gpsUnlocked : txpk.modulationSettings ≠ .error .gpsUnlocked := by
  refine bind_ne_gpsUnlocked demand_ne_gpsUnlocked fun name =>
    bind_ne_gpsUnlocked demand_ne_gpsUnlocked fun spelled => ?_
  split
  · exact loraModulation_ne_gpsUnlocked spelled
  · exact fskModulation_ne_gpsUnlocked spelled
  · nofun

theorem payload_ne_gpsUnlocked : txpk.payload ≠ .error .gpsUnlocked := by
  refine bind_ne_gpsUnlocked demand_ne_gpsUnlocked fun size => ?_
  split
  · nofun
  · refine bind_ne_gpsUnlocked demand_ne_gpsUnlocked fun text => ?_
    split
    · nofun
    · split <;> nofun

/-- Only the moment of a request can need a GPS reference. -/
theorem toTransmit_eq_gpsUnlocked_iff : txpk.toTransmit gateway.txSettings = .error .gpsUnlocked ↔
    txpk.moment gateway.reference? = .error .gpsUnlocked := by
  constructor
  · intro failed
    by_contra other
    -- Everything asked for behind the moment has other faults.
    refine bind_ne_gpsUnlocked other (fun moment => ?_) failed
    refine bind_ne_gpsUnlocked demand_ne_gpsUnlocked fun frequency =>
      bind_ne_gpsUnlocked demand_ne_gpsUnlocked fun rfChain =>
      bind_ne_gpsUnlocked modulationSettings_ne_gpsUnlocked fun modulation =>
      bind_ne_gpsUnlocked payload_ne_gpsUnlocked fun payload => ?_
    nofun
  · intro unlocked
    have settings : gateway.txSettings.reference = gateway.reference? := rfl
    rw [toTransmit, settings, unlocked]
    rfl

end Faults

section Verdict

variable {packet : TransmitPacket} {packetClass : PacketClass}

theorem payload_eq_ok_of_spells {size : UInt16} {payload : Octets} (stated : txpk.size = some size)
    (small : size.toNat ≤ maxPayloadLength) (spells : txpk.Spells payload)
    (short : payload.length ≤ maxPayloadLength) : txpk.payload = .ok payload := by
  obtain ⟨text, data, spelled⟩ := spells
  exact payload_eq_ok_iff.mpr
    ⟨size, text, stated, small, data, Base64.decodePayload?_eq_some_iff.mpr spelled, short⟩

theorem describes_of_toTransmit
    (made : txpk.toTransmit gateway.txSettings = .ok (packet, packetClass)) :
    txpk.Describes gateway packet packetClass := by
  obtain ⟨moment, frequency, rfChain, modulation, payload, timed, -, -, modulated, spelled, rfl,
    rfl⟩ := toTransmit_eq_ok_iff.mp made
  obtain ⟨modulates, preamble⟩ := modulationSettings_eq_ok_iff.mp modulated
  obtain ⟨-, text, -, -, data, decoded, -⟩ := payload_eq_ok_iff.mp spelled
  refine ⟨moment_eq_ok_iff.mp timed, modulates, fun absent => ?_, fun requested given => ?_,
    text, data, Base64.decodePayload?_eq_some_iff.mp decoded⟩
  · exact preamble.trans (by rw [preambleFor, absent, Option.elim_none])
  · exact preamble.trans (by rw [preambleFor, given, Option.elim_some])

theorem exists_toTransmit_iff :
    (∃ packet packetClass, txpk.toTransmit gateway.txSettings = .ok (packet, packetClass)) ↔
      txpk.IsComplete gateway := by
  constructor
  · rintro ⟨packet, packetClass, made⟩
    have describes := describes_of_toTransmit made
    obtain ⟨_, _, _, _, payload, -, tuned, directed, -, spelled, -, rfl⟩ :=
      toTransmit_eq_ok_iff.mp made
    obtain ⟨size, _, stated, small, -, -, short⟩ := payload_eq_ok_iff.mp spelled
    exact ⟨exists_leavesAt_iff.mp ⟨_, describes.moment⟩, tuned ▸ Option.some_ne_none _,
      directed ▸ Option.some_ne_none _, ⟨size, stated, small⟩, ⟨payload, describes.payload, short⟩,
      ⟨_, _, _, describes.modulation⟩⟩
  · rintro ⟨timed, tuned, directed, ⟨size, stated, small⟩, ⟨payload, spells, short⟩, dataRate,
      codingRate, deviation, modulates⟩
    obtain ⟨moment, leaves⟩ := exists_leavesAt_iff.mpr timed
    obtain ⟨frequency, tuned⟩ := Option.ne_none_iff_exists'.mp tuned
    obtain ⟨rfChain, directed⟩ := Option.ne_none_iff_exists'.mp directed
    let modulation : TxModulation :=
      ⟨dataRate, codingRate, deviation, txpk.preambleFor dataRate.modulation⟩
    have modulated : txpk.modulationSettings = .ok modulation :=
      modulationSettings_eq_ok_iff.mpr ⟨modulates, rfl⟩
    exact ⟨_, _, toTransmit_eq_ok_iff.mpr ⟨moment, frequency, rfChain, modulation, payload,
      moment_eq_ok_iff.mpr leaves, tuned, directed, modulated,
      payload_eq_ok_of_spells stated small spells short, rfl, rfl⟩⟩

theorem acknowledged_iff_lacksReference {fault : TxRequestError}
    (failed : txpk.toTransmit gateway.txSettings = .error fault) :
    (fault.acknowledged = .gpsUnlocked ↔ txpk.LacksReference gateway) ∧
      (fault.acknowledged = .invalid ↔ ¬ txpk.LacksReference gateway) := by
  have located : fault = .gpsUnlocked ↔ txpk.LacksReference gateway := by
    rw [← moment_eq_gpsUnlocked_iff, ← toTransmit_eq_gpsUnlocked_iff, failed, Except.error.injEq]
  rw [← located]
  cases fault <;> simp [TxRequestError.acknowledged]

/-- A request becomes a packet exactly if it is complete, and the packet is the one it describes.
Of any other request the server is told that there is no GPS time exactly if the request says no
moment but a GPS time and the gateway follows none, and that it is invalid in every other case. -/
theorem toTransmit_verdict (txpk : Txpk) (gateway : Gateway) :
    ((∃ packet packetClass, txpk.toTransmit gateway.txSettings = .ok (packet, packetClass)) ↔
      txpk.IsComplete gateway) ∧
    (∀ packet packetClass, txpk.toTransmit gateway.txSettings = .ok (packet, packetClass) →
      txpk.Describes gateway packet packetClass) ∧
    ∀ fault, txpk.toTransmit gateway.txSettings = .error fault →
      (fault.acknowledged = .gpsUnlocked ↔ txpk.LacksReference gateway) ∧
        (fault.acknowledged = .invalid ↔ ¬ txpk.LacksReference gateway) :=
  ⟨exists_toTransmit_iff, fun _ _ => describes_of_toTransmit,
    fun _ => acknowledged_iff_lacksReference⟩

/-- A request for a GPS time, with blanks around its data and a reduced coding rate. -/
def slotRequest : Txpk where
  immediate := some false
  gpsTime := some 1000
  frequency := some 869.525
  rfChain := some 0
  modulation := some "LORA"
  dataRate := some (.name "SF12BW500")
  codingRate := some "1/2"
  preamble := some 2
  size := some 256
  data := some " aGVsbG8=\n"

/-- A gateway that follows GPS time as long as its reference holds. -/
def followingGateway (valid : Bool) : Gateway where
  id := ⟨0xAA555A0000000000⟩
  config := { gps := { enabled := true } }
  store := {}
  radio := {}
  scheduler := .ofEnvelopes [{}] none
  clock := ⟨some ⟨7, .zero, 1.0⟩, valid⟩

theorem slotRequest_isComplete : slotRequest.IsComplete (followingGateway true) where
  timed := .inr (.inr ⟨nofun, _, ⟨rfl, rfl, rfl⟩⟩)
  tuned := nofun
  directed := nofun
  sized := ⟨256, rfl, by decide⟩
  filled := ⟨[0x68, 0x65, 0x6C, 0x6C, 0x6F], ⟨_, rfl, by decide +kernel⟩, by decide⟩
  modulated := by
    have paced : slotRequest.dataRate =
        some (.name (SpreadingFactor.sf12.name ++ Bandwidth.bw500.name)) := by decide
    have spelled : "1/2" ∈ CodingRate.cr48.spellings := by decide
    exact ⟨_, _, _, .lora rfl paced rfl spelled (by decide)⟩

theorem slotRequest_verdict :
    (∃ packet packetClass,
      slotRequest.toTransmit (followingGateway true).txSettings = .ok (packet, packetClass) ∧
      slotRequest.Describes (followingGateway true) packet packetClass) ∧
    slotRequest.toTransmit (followingGateway false).txSettings = .error .gpsUnlocked ∧
    (TxRequestError.gpsUnlocked.acknowledged = .gpsUnlocked ↔
      slotRequest.LacksReference (followingGateway false)) := by
  obtain ⟨complete, describes, -⟩ := toTransmit_verdict slotRequest (followingGateway true)
  obtain ⟨packet, packetClass, made⟩ := complete.mpr slotRequest_isComplete
  exact ⟨⟨packet, packetClass, made, describes packet packetClass made⟩, rfl,
    ((toTransmit_verdict slotRequest (followingGateway false)).2.2 .gpsUnlocked rfl).1⟩

end Verdict

end Txpk

end LorawanGateway
