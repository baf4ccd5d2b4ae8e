import LorawanGateway.Gateway.Inspection
import LorawanGateway.Proofs.Mac.FrameCodec
import LorawanGateway.Proofs.Mac.KeyText

/-!
Data frames as a device or a network server seals them: the payload is encrypted, and the integrity
code covers all octets before it. What was sealed is read back as a frame with the same fields, its
code holds under the network key, and its payload comes out in clear.
-/

namespace LorawanGateway

structure FrameFlags where
  adaptiveRate : Bool
  adaptiveRateRequest : Bool
  acknowledges : Bool
  pending : Bool
  deriving DecidableEq, Repr

/-- The control octet of some flags and a number of option octets. -/
def FrameFlags.control (flags : FrameFlags) (options : Nat) : FrameControl where
  octet := (if flags.adaptiveRate then 0x80 else 0) +
    (if flags.adaptiveRateRequest then 0x40 else 0) +
    (if flags.acknowledges then 0x20 else 0) + (if flags.pending then 0x10 else 0) +
    UInt8.ofNat options

/-- A data frame before it is sealed: the whole of its counter, and what it carries in clear with
the port it is for. -/
structure ClearFrame where
  confirmed : Bool
  direction : Direction
  address : DevAddr
  flags : FrameFlags
  counter : UInt32
  options : Octets
  content : Option (UInt8 × Octets)
  options_length : options.length ≤ 15

namespace FrameFlags

/-- The control octet says what it was made from. -/
theorem control_reads {options : Nat} (flags : FrameFlags) (few : options ≤ 15) :
    (flags.control options).optionsLength = options ∧
      FrameFlags.mk (flags.control options).adaptiveRate
        (flags.control options).adaptiveRateRequest (flags.control options).acknowledges
        (flags.control options).pending = flags := by
  have all : ∀ count < 16, (flags.control count).optionsLength = count ∧
      FrameFlags.mk (flags.control count).adaptiveRate (flags.control count).adaptiveRateRequest
        (flags.control count).acknowledges (flags.control count).pending = flags := by
    obtain ⟨rate, request, acknowledges, pending⟩ := flags
    cases rate <;> cases request <;> cases acknowledges <;> cases pending <;> decide
  exact all options (Nat.lt_succ_of_le few)

end FrameFlags

namespace ClearFrame

variable (cipher : BlockCipher) (network application : Key) (frame : ClearFrame)

def fPort : Option UInt8 := frame.content.map Prod.fst

def plaintext : Octets := frame.content.elim [] Prod.snd

def context : FrameContext := ⟨frame.address.word, frame.direction, frame.counter⟩

/-- What stands before the port: of the counter only the lower half is sent. -/
def lead : Octets :=
  (FrameType.data frame.confirmed frame.direction).header ::
    (Octets.ofNatLE 4 frame.address.word.toNat ++
      (frame.flags.control frame.options.length).octet ::
        (Octets.ofNatLE 2 frame.counter.toNat ++ frame.options))

/-- The key of the payload: port 0 is for the network. -/
def payloadKey : Key := if frame.fPort = some 0 then network else application

/-- The number of octets that the integrity code covers. -/
def signedLength : Nat :=
  8 + frame.options.length + frame.fPort.toList.length + frame.plaintext.length

/-- The octets of the frame, its payload encrypted and the integrity code behind it. -/
def sealWith : Except MacError Octets := do
  let payload ← encryptPayload cipher frame.context (frame.payloadKey network application).toList
    frame.plaintext
  let signed := frame.lead ++ (frame.fPort.toList ++ payload)
  let code ← integrityCode cipher frame.context network.toList signed
  return signed ++ Octets.ofNatLE 4 code.toNat

def counterHigh : UInt16 := (frame.counter >>> 16).toUInt16

/-- A frame that says openly what the clear one does. -/
structure HeadedAs (sealed : DataFrame) : Prop where
  frameType : sealed.frameType = .data frame.confirmed frame.direction
  address : sealed.address = frame.address
  flags : FrameFlags.mk sealed.control.adaptiveRate sealed.control.adaptiveRateRequest
    sealed.control.acknowledges sealed.control.pending = frame.flags
  counter : sealed.counter.toNat = frame.counter.toNat % 0x10000
  options : sealed.options = frame.options
  fPort : sealed.fPort = frame.fPort

def hidden : Octets :=
  applyStream cipher frame.context (frame.payloadKey network application) 1 frame.plaintext

def code : UInt32 :=
  let signed := frame.lead ++ (frame.fPort.toList ++ frame.hidden cipher network application)
  Cmac.word cipher network ((frame.context.signingBlock signed.length).toList ++ signed)

/-- The frame as it is read once it is sealed. -/
def sealed : DataFrame where
  confirmed := frame.confirmed
  direction := frame.direction
  address := frame.address
  control := frame.flags.control frame.options.length
  counter := frame.counter.toUInt16
  options := frame.options
  fPort := frame.fPort
  payload := frame.hidden cipher network application
  code := frame.code cipher network application

variable {cipher network application frame}

theorem length_hidden :
    (frame.hidden cipher network application).length = frame.plaintext.length :=
  length_applyStream ..

theorem plaintext_of_portless (portless : frame.fPort = none) : frame.plaintext = [] := by
  rw [fPort, Option.map_eq_none_iff] at portless
  rw [plaintext, portless]
  rfl

theorem signed_sealed : (frame.sealed cipher network application).signed =
    frame.lead ++ (frame.fPort.toList ++ frame.hidden cipher network application) := by
  have counter : frame.counter.toUInt16.toNat = frame.counter.toNat % Nat.pow 256 2 := by
    exact UInt32.toNat_toUInt16 ..
  rw [DataFrame.signed_eq, DataFrame.lead, sealed, DataFrame.frameType, counter,
    Octets.ofNatLE_mod, lead]

theorem length_signed : (frame.sealed cipher network application).signed.length =
    frame.signedLength := by
  simp only [signed_sealed, List.length_append, length_hidden, lead, List.length_cons,
    Octets.length_ofNatLE, signedLength]
  omega

theorem toNat_counterHigh : frame.counterHigh.toNat = frame.counter.toNat / 0x10000 := by
  have word := frame.counter.toNat_lt
  have upper : frame.counterHigh.toNat = frame.counter.toNat / 0x10000 % 0x10000 := by
    rw [counterHigh, UInt32.toNat_toUInt16, UInt32.toNat_shiftRight, Nat.shiftRight_eq_div_pow]
    rfl
  omega

theorem context_sealed :
    (frame.sealed cipher network application).context frame.counterHigh = frame.context := by
  have halves : frame.counterHigh.toNat * 0x10000 + frame.counter.toUInt16.toNat =
      frame.counter.toNat := by
    rw [toNat_counterHigh, UInt32.toNat_toUInt16]
    exact Nat.div_add_mod' ..
  rw [DataFrame.context, sealed, halves, UInt32.ofNat_toNat, context]

theorem wellFormed_sealed : (frame.sealed cipher network application).WellFormed where
  options := (frame.flags.control_reads frame.options_length).1.symm
  payload portless := by
    rw [sealed, hidden, plaintext_of_portless portless, applyStream]
    rfl

theorem headedAs_sealed : frame.HeadedAs (frame.sealed cipher network application) where
  frameType := rfl
  address := rfl
  flags := (frame.flags.control_reads frame.options_length).2
  counter := UInt32.toNat_toUInt16 ..
  options := rfl
  fPort := rfl

theorem plaintext_short (fits : frame.signedLength ≤ maxBufferLength) :
    frame.plaintext.length ≤ maxBufferLength := by
  rw [signedLength] at fits
  omega

theorem sealWith_eq_ok (fits : frame.signedLength ≤ maxBufferLength) :
    frame.sealWith cipher network application =
      .ok (frame.sealed cipher network application).octets := by
  have short : (frame.lead ++ (frame.fPort.toList ++
      frame.hidden cipher network application)).length ≤ maxBufferLength := by
    rwa [← signed_sealed, length_signed]
  simp only [sealWith, encryptPayload_eq_ok _ _ _ (plaintext_short fits)]
  change (integrityCode _ _ _ _ >>= _) = _
  rw [← hidden, integrityCode_eq_ok _ _ _ short, DataFrame.octets, signed_sealed]
  rfl

theorem ofOctets_sealed :
    Frame.ofOctets (frame.sealed cipher network application).octets =
      .ok (.data (frame.sealed cipher network application)) := by
  have standard : (Frame.data (frame.sealed cipher network application)).frameType ≠
      .proprietary := nofun
  exact (Frame.ofOctets_eq_ok_iff standard).mpr ⟨wellFormed_sealed, rfl⟩

theorem verify_sealed (fits : frame.signedLength ≤ maxBufferLength) :
    (frame.sealed cipher network application).verify cipher network.toList frame.counterHigh =
      .ok true := by
  have short : (frame.sealed cipher network application).signed.length ≤ maxBufferLength := by
    rwa [length_signed]
  rw [DataFrame.verify, context_sealed, integrityCode_eq_ok _ _ _ short, signed_sealed]
  exact congrArg Except.ok (beq_self_eq_true _)

theorem clearPayload_sealed (fits : frame.signedLength ≤ maxBufferLength) :
    (frame.sealed cipher network application).clearPayload cipher network.toList
      application.toList frame.counterHigh = .ok frame.plaintext := by
  have key : (if frame.fPort = some 0 then network.toList else application.toList) =
      (frame.payloadKey network application).toList := by
    rw [payloadKey]
    split <;> rfl
  rw [DataFrame.clearPayload, context_sealed]
  change decryptPayload cipher _ (if frame.fPort = some 0 then _ else _) (frame.hidden ..) = _
  rw [key, hidden, decryptPayload_applyStream _ _ _ (plaintext_short fits)]

end ClearFrame

/-- The session keys of a device stand in the store, each in hexadecimal. -/
structure Store.Provisions (store : Store) (address : DevAddr) (network application : Key) :
    Prop where
  network : ∃ text, store.get? (Store.sessionKey address "nwkskey") = some text ∧
    network.SpelledBy text
  application : ∃ text, store.get? (Store.sessionKey address "appskey") = some text ∧
    application.SpelledBy text

namespace ClearFrame

variable {cipher : BlockCipher} {network application : Key} {frame : ClearFrame} {store : Store}

theorem inspect_sealed (fits : frame.signedLength ≤ maxBufferLength)
    (low : frame.counter.toNat < 0x10000)
    (provisioned : store.Provisions frame.address network application) :
    inspect cipher store (.data (frame.sealed cipher network application)) =
      .ok (some ⟨frame.address, frame.counter.toUInt16, frame.fPort, true, frame.plaintext⟩) := by
  have upper : frame.counterHigh = 0 := by
    apply UInt16.toNat_inj.mp
    rw [toNat_counterHigh, Nat.div_eq_of_lt low]
    rfl
  obtain ⟨networkText, networkStored, networkSpelled⟩ := provisioned.network
  obtain ⟨applicationText, applicationStored, applicationSpelled⟩ := provisioned.application
  have authentic : (frame.sealed cipher network application).verify cipher network.toList 0 =
      .ok true := by
    rw [← upper, verify_sealed fits]
  have clear : (frame.sealed cipher network application).clearPayload cipher network.toList
      application.toList 0 = .ok frame.plaintext := by
    rw [← upper, clearPayload_sealed fits]
  have address : (frame.sealed cipher network application).address = frame.address := rfl
  simp only [inspect, address, networkStored, applicationStored, Key.ofHex_eq_ok networkSpelled,
    Key.ofHex_eq_ok applicationSpelled, bind, Except.bind, authentic, clear]
  rfl

/-- What is sealed is opened again: the octets are read as a data frame with the same fields, its
integrity code holds, and its payload is the plaintext. Where the upper half of the counter is zero,
looking into the frame with keys from the store shows the same. -/
theorem sealed_frame_opens (cipher : BlockCipher) (network application : Key) (frame : ClearFrame)
    (fits : frame.signedLength ≤ maxBufferLength) :
    ∃ octets sealed, frame.sealWith cipher network application = .ok octets ∧
      Frame.ofOctets octets = .ok (.data sealed) ∧ frame.HeadedAs sealed ∧
      sealed.verify cipher network.toList frame.counterHigh = .ok true ∧
      sealed.clearPayload cipher network.toList application.toList frame.counterHigh =
        .ok frame.plaintext ∧
      ∀ store : Store, frame.counter.toNat < 0x10000 →
        store.Provisions frame.address network application →
        inspect cipher store (.data sealed) =
          .ok (some ⟨frame.address, frame.counter.toUInt16, frame.fPort, true, frame.plaintext⟩) :=
  ⟨_, _, sealWith_eq_ok fits, ofOctets_sealed, headedAs_sealed, verify_sealed fits,
    clearPayload_sealed fits, fun _ low provisioned => inspect_sealed fits low provisioned⟩

def temperature : ClearFrame where
  confirmed := false
  direction := .uplink
  address := ⟨0x26011BDA⟩
  flags := ⟨true, false, false, false⟩
  counter := 7
  options := [0x02]
  content := some (10, [0x74, 0x65, 0x6D, 0x70, 0x3D, 0x32, 0x31])
  options_length := by decide

def networkKey : Key :=
  #v[0x2B, 0x7E, 0x15, 0x16, 0x28, 0xAE, 0xD2, 0xA6, 0xAB, 0xF7, 0x15, 0x88, 0x09, 0xCF, 0x4F, 0x3C]

def applicationKey : Key :=
  #v[0x00, 0x01, 0x02, 0x03, 0x04, 0x05, 0x06, 0x07, 0x08, 0x09, 0x0A, 0x0B, 0x0C, 0x0D, 0x0E, 0x0F]

/-- A store with both keys, one in lower case behind a blank. -/
def provisioned : Store where
  entries := [("devices/26011BDA/appskey", " 000102030405060708090a0b0c0d0e0f"),
    ("devices/26011BDA/nwkskey", "2B7E151628AED2A6ABF7158809CF4F3C")]

theorem provisioned_provisions :
    provisioned.Provisions ⟨0x26011BDA⟩ networkKey applicationKey where
  network := ⟨"2B7E151628AED2A6ABF7158809CF4F3C", by decide +kernel,
    [], "2B7E151628AED2A6ABF7158809CF4F3C".toList, [], by decide +kernel, nofun, by decide +kernel⟩
  application := ⟨" 000102030405060708090a0b0c0d0e0f", by decide +kernel,
    [' '], "000102030405060708090a0b0c0d0e0f".toList, [], by decide +kernel,
    List.forall_mem_singleton.mpr rfl, by decide +kernel⟩

theorem temperature_opens :
    ∃ octets sealed,
      temperature.sealWith .aes128 networkKey applicationKey = .ok octets ∧
        Frame.ofOctets octets = .ok (.data sealed) ∧
        inspect .aes128 provisioned (.data sealed) =
          .ok (some ⟨⟨0x26011BDA⟩, 7, some 10, true,
            [0x74, 0x65, 0x6D, 0x70, 0x3D, 0x32, 0x31]⟩) := by
  obtain ⟨octets, sealed, written, read, -, -, -, shown⟩ :=
    sealed_frame_opens .aes128 networkKey applicationKey temperature (by decide)
  exact ⟨octets, sealed, written, read, shown provisioned (by decide) provisioned_provisions⟩

end ClearFrame

end LorawanGateway
