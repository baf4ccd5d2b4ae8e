import LorawanGateway.Mac.Frame.Reader
import LorawanGateway.Proofs.Octets
import Mathlib.Logic.Basic

/-!
Reading and writing frames are inverse to each other. Each reader takes the octets apart at the
places where the writer puts them together, so what is read is written again part by part, and what
is written is read again field by field. Only proprietary frames do not keep their first octet.
-/

namespace LorawanGateway

open Octets

/-- The options of a data frame are as long as its control octet says, and without a port there is
no payload. -/
structure DataFrame.WellFormed (frame : DataFrame) : Prop where
  options : frame.options.length = frame.control.optionsLength
  payload : frame.fPort = none → frame.payload = []

namespace DataFrame

variable (frame : DataFrame)

/-- What stands before the port. -/
def lead : Octets :=
  frame.frameType.header :: (ofNatLE 4 frame.address.word.toNat ++ frame.control.octet ::
    (ofNatLE 2 frame.counter.toNat ++ frame.options))

theorem length_lead : frame.lead.length = 8 + frame.options.length := by
  simp only [lead, List.length_cons, List.length_append, length_ofNatLE]
  omega

theorem signed_eq : frame.signed = frame.lead ++ (frame.fPort.toList ++ frame.payload) := by
  simp [signed, lead]

theorem length_octets :
    frame.octets.length = frame.lead.length + (frame.fPort.toList ++ frame.payload).length + 4 := by
  simp only [octets, signed_eq, List.length_append, length_ofNatLE]

end DataFrame

/-- A network identifier takes 24 bits. -/
def RejoinRequest.WellFormed (request : RejoinRequest) : Prop :=
  ∀ networkId, request.purpose.networkId? = some networkId → networkId.toNat < 0x1000000

namespace Frame

variable {frame : DataFrame} {raw : Octets} {start portAt codeAt : Nat}

/-- Behind the options either the code follows at once, or a port and the payload do. -/
theorem port_and_payload (wellFormed : frame.WellFormed)
    (place : portAt = 8 + frame.control.optionsLength)
    (code : codeAt = frame.octets.length - codeLength) :
    portAt ≤ codeAt ∧ (if portAt = codeAt then none else frame.octets[portAt]?) = frame.fPort ∧
      frame.octets.slice (portAt + 1) (codeAt - (portAt + 1)) = frame.payload := by
  have lead := frame.length_lead
  have long := frame.length_octets
  have split : frame.octets = frame.lead ++ (frame.fPort.toList ++
      (frame.payload ++ ofNatLE 4 frame.code.toNat)) := by
    simp [DataFrame.octets, frame.signed_eq]
  rw [wellFormed.options, ← place] at lead
  unfold codeLength at code
  cases port : frame.fPort with
  | none =>
      -- The slice starts behind the place where it should end, so it is empty.
      have silent := wellFormed.payload port
      simp only [port, silent, Option.toList_none, List.append_nil, List.length_nil] at long
      have same : portAt = codeAt := by omega
      rw [silent, if_pos same, same, Nat.sub_eq_zero_of_le (Nat.le_succ codeAt)]
      exact ⟨Nat.le_refl _, rfl, List.take_zero⟩
  | some fPort =>
      simp only [port, Option.toList_some, List.length_append, List.length_singleton] at long
      have payload : codeAt - (portAt + 1) = frame.payload.length := by omega
      rw [if_neg (by omega), payload, split, port, ← lead]
      exact ⟨by omega, by simp, by simp⟩

theorem port_append_payload (raw : Octets) (order : portAt ≤ codeAt) :
    (if portAt = codeAt then none else raw[portAt]?).toList ++
      raw.slice (portAt + 1) (codeAt - (portAt + 1)) = raw.slice portAt (codeAt - portAt) := by
  by_cases same : portAt = codeAt
  · rw [if_pos same, same, Nat.sub_self, Nat.sub_eq_zero_of_le (Nat.le_succ codeAt)]
    rfl
  · have width : 1 + (codeAt - (portAt + 1)) = codeAt - portAt := by omega
    rw [if_neg same, toList_getElem?, slice_append_slice raw rfl, width]

theorem readData_octets (wellFormed : frame.WellFormed) :
    readData frame.octets frame.confirmed frame.direction = .ok frame := by
  have address : frame.octets.word32At 1 = frame.address.word := by
    simp [DataFrame.octets, DataFrame.signed, word32At]
  have control : frame.octets.getD 5 0 = frame.control.octet := by
    simp [DataFrame.octets, DataFrame.signed]
  have counter : frame.octets.word16At 6 = frame.counter := by
    simp [DataFrame.octets, DataFrame.signed, word16At]
  have options : frame.octets.slice 8 frame.control.optionsLength = frame.options := by
    simp [DataFrame.octets, DataFrame.signed, wellFormed.options]
  have code : frame.octets.word32At (frame.octets.length - codeLength) = frame.code := by
    simp [DataFrame.octets, word32At, codeLength]
  obtain ⟨order, port, payload⟩ := port_and_payload wellFormed rfl rfl
  have long := frame.length_octets
  have lead := frame.length_lead
  simp only [readData, control, address, counter, options, code, port, payload]
  rw [if_neg (by omega), if_neg (Nat.not_lt.mpr order)]

theorem payload_of_portless (inside : codeAt ≤ raw.length) (order : portAt ≤ codeAt)
    (portless : (if portAt = codeAt then none else raw[portAt]?) = none) :
    raw.slice (portAt + 1) (codeAt - (portAt + 1)) = [] := by
  by_cases same : portAt = codeAt
  · rw [same, Nat.sub_eq_zero_of_le (Nat.le_succ codeAt)]
    exact List.take_zero
  · rw [if_neg same, List.getElem?_eq_none_iff] at portless
    omega

/-- What is read is written again as it was, part by part. -/
theorem octets_of_readData {confirmed : Bool} {direction : Direction}
    (first : raw[0]? = some (FrameType.data confirmed direction).header)
    (read : readData raw confirmed direction = .ok frame) :
    frame.WellFormed ∧ frame.octets = raw := by
  unfold readData at read
  split at read
  · cases read
  · rename_i long
    dsimp only at read
    split at read
    · cases read
    · rename_i order
      replace order := Nat.not_lt.mp order
      cases read
      unfold codeLength at order ⊢
      have control : raw[5]? = some (raw.getD 5 0) := by
        rw [List.getD_eq_getElem?_getD, List.getElem?_eq_getElem (by omega)]
        rfl
      refine ⟨⟨length_slice (by omega), payload_of_portless (Nat.sub_le ..) order⟩, ?_⟩
      simp only [DataFrame.octets, DataFrame.signed, DataFrame.frameType]
      -- Every part becomes a slice, and each starts where the one before it ends.
      rw [ofNatLE_word32At (by omega), ofNatLE_word16At (by omega), ofNatLE_word32At (by omega),
        List.append_assoc _ (Option.toList _), port_append_payload raw order,
        singleton_eq_slice control, slice_append_slice _ rfl, slice_append_slice _ rfl,
        slice_append_slice _ rfl, slice_append_slice _ (by omega), List.cons_append,
        slice_append_slice _ (by omega)]
      exact cons_slice first (by omega)

theorem readJoinRequest_octets (request : JoinRequest) :
    readJoinRequest request.octets = .ok request := by
  obtain ⟨⟨joinEui⟩, ⟨deviceEui⟩, deviceNonce, code⟩ := request
  simp [readJoinRequest, JoinRequest.octets, JoinRequest.signed, word64At, word32At, word16At]

theorem octets_of_readJoinRequest {request : JoinRequest}
    (first : raw[0]? = some FrameType.joinRequest.header)
    (read : readJoinRequest raw = .ok request) : request.octets = raw := by
  unfold readJoinRequest at read
  split at read
  · cases read
  · rename_i long
    cases read
    simp only [JoinRequest.octets, JoinRequest.signed]
    rw [ofNatLE_word64At (by omega), ofNatLE_word64At (by omega), ofNatLE_word16At (by omega),
      ofNatLE_word32At (by omega), slice_append_slice _ rfl, slice_append_slice _ rfl,
      List.cons_append, slice_append_slice _ rfl]
    exact cons_slice first (by omega)

theorem toNat_networkIdAt (inside : start + 3 ≤ raw.length) :
    (networkIdAt raw start).toNat = (raw.slice start 3).toNatLE := by
  have low := toNatLE_slice_lt inside
  exact UInt32.toNat_ofNat_of_lt' (Nat.lt_trans low (by decide))

theorem networkIdAt_lt (inside : start + 3 ≤ raw.length) :
    (networkIdAt raw start).toNat < 0x1000000 := by
  rw [toNat_networkIdAt inside]
  exact toNatLE_slice_lt inside

theorem ofNatLE_networkIdAt (inside : start + 3 ≤ raw.length) :
    ofNatLE 3 (networkIdAt raw start).toNat = raw.slice start 3 := by
  rw [toNat_networkIdAt inside, ofNatLE_slice inside]

theorem ofNat_networkId {networkId : UInt32} (short : networkId.toNat < 0x1000000) :
    UInt32.ofNat (toNatLE (ofNatLE 3 networkId.toNat)) = networkId := by
  rw [toNatLE_ofNatLE, Nat.mod_eq_of_lt short, UInt32.ofNat_toNat]

theorem readRejoin_octets {request : RejoinRequest} (wellFormed : request.WellFormed) :
    readRejoin request.octets = .ok request := by
  obtain ⟨purpose, ⟨deviceEui⟩, counter, code⟩ := request
  cases purpose with
  | recover joinEui =>
      obtain ⟨joinEui⟩ := joinEui
      simp [readRejoin, RejoinRequest.octets, RejoinRequest.signed, RejoinPurpose.octets,
        word64At, word32At, word16At]
  | reset networkId | renew networkId =>
      have short := ofNat_networkId (wellFormed networkId rfl)
      simp [readRejoin, readNetworkRejoin, networkIdAt, RejoinRequest.octets,
        RejoinRequest.signed, RejoinPurpose.octets, word64At, word32At, word16At, short]

theorem octets_of_readNetworkRejoin {request : RejoinRequest} {kind : UInt8}
    {purpose : UInt32 → RejoinPurpose} (first : raw[0]? = some FrameType.rejoin.header)
    (second : raw[1]? = some kind)
    (written : ∀ networkId, (purpose networkId).octets = kind :: ofNatLE 3 networkId.toNat)
    (named : ∀ networkId, (purpose networkId).networkId? = some networkId)
    (read : readNetworkRejoin raw purpose = .ok request) :
    request.WellFormed ∧ request.octets = raw := by
  unfold readNetworkRejoin at read
  split at read
  · cases read
  · rename_i long
    cases read
    refine ⟨fun networkId same => ?_, ?_⟩
    · cases (named _).symm.trans same
      exact networkIdAt_lt (by omega)
    · simp only [RejoinRequest.octets, RejoinRequest.signed, written]
      rw [ofNatLE_networkIdAt (by omega), ofNatLE_word64At (by omega),
        ofNatLE_word16At (by omega), ofNatLE_word32At (by omega),
        ← List.singleton_append (x := kind), singleton_eq_slice second,
        slice_append_slice _ rfl, slice_append_slice _ rfl, slice_append_slice _ rfl,
        List.cons_append, slice_append_slice _ rfl]
      exact cons_slice first (by omega)

theorem octets_of_readRejoin {request : RejoinRequest}
    (first : raw[0]? = some FrameType.rejoin.header)
    (read : readRejoin raw = .ok request) : request.WellFormed ∧ request.octets = raw := by
  unfold readRejoin at read
  split at read
  · cases read
  · rename_i second
    exact octets_of_readNetworkRejoin first second (fun _ => rfl) (fun _ => rfl) read
  · rename_i second
    exact octets_of_readNetworkRejoin first second (fun _ => rfl) (fun _ => rfl) read
  · rename_i second
    split at read
    · cases read
    · rename_i long
      cases read
      refine ⟨fun networkId named => (nomatch named), ?_⟩
      simp only [RejoinRequest.octets, RejoinRequest.signed, RejoinPurpose.octets]
      rw [ofNatLE_word64At (by omega), ofNatLE_word64At (by omega), ofNatLE_word16At (by omega),
        ofNatLE_word32At (by omega), ← List.singleton_append (x := 1), singleton_eq_slice second,
        slice_append_slice _ rfl, slice_append_slice _ rfl, slice_append_slice _ rfl,
        List.cons_append, slice_append_slice _ rfl]
      exact cons_slice first (by omega)
  · cases read

theorem map_eq_ok {fault α β : Type} {outcome : Except fault α} {f : α → β} {result : β} :
    f <$> outcome = .ok result ↔ ∃ value, outcome = .ok value ∧ f value = result := by
  cases outcome <;> simp [Functor.map, Except.map]

/-- Beside proprietary frames, the checks of the header leave only the type. -/
theorem header_of_checked {header : UInt8} (version : header &&& 0x03 = 0)
    (reserved : header &&& 0x1C = 0) : header = (FrameType.ofHeader header).header := by
  -- There are few enough headers to look at each.
  obtain ⟨⟨word⟩⟩ := header
  revert word
  decide +kernel

theorem ofHeader_eq_proprietary_iff {header : UInt8} :
    FrameType.ofHeader header = .proprietary ↔ header.toNat / 32 = 7 := by
  obtain ⟨⟨word⟩⟩ := header
  revert word
  decide +kernel

/-- Reads octets as a frame of a type, whatever their header says. -/
def readAs (raw : Octets) : FrameType → Except FrameFault Frame
  | .joinRequest => .joinRequest <$> readJoinRequest raw
  | .rejoin => .rejoin <$> readRejoin raw
  | .joinAccept =>
    if raw.length ≠ 17 ∧ raw.length ≠ 33 then .error .joinAcceptLength
    else .ok (.joinAccept raw.tail)
  | .data confirmed direction => .data <$> readData raw confirmed direction
  | .proprietary => .ok (.proprietary raw.tail)

theorem readAs_of_ofOctets {frame : Frame} {header : UInt8} {body : Octets}
    (read : ofOctets (header :: body) = .ok frame) :
    readAs (header :: body) (FrameType.ofHeader header) = .ok frame ∧
      (FrameType.ofHeader header ≠ .proprietary →
        header = (FrameType.ofHeader header).header) := by
  unfold ofOctets at read
  cases kind : FrameType.ofHeader header with
  | proprietary =>
      simp only [kind] at read
      exact ⟨read, fun standard => (standard rfl).elim⟩
  | joinRequest | rejoin | joinAccept | data =>
      simp only [kind] at read
      split at read
      · cases read
      · rename_i version
        split at read
        · cases read
        · rename_i reserved
          rw [← kind]
          refine ⟨?_, fun _ => header_of_checked (not_not.mp version) (not_not.mp reserved)⟩
          rw [kind]
          exact read

theorem ofOctets_of_header (kind : FrameType) (body : Octets) :
    ofOctets (kind.header :: body) = readAs (kind.header :: body) kind := by
  cases kind with
  | joinRequest | rejoin | joinAccept | proprietary => rfl
  | data confirmed direction => cases confirmed <;> cases direction <;> rfl

/-- What the fields of a frame have to be like to be written and read again. -/
def WellFormed : Frame → Prop
  | .joinRequest _ => True
  | .rejoin request => request.WellFormed
  | .joinAccept body => body.length = 16 ∨ body.length = 32
  | .data frame => frame.WellFormed
  | .proprietary _ => True

theorem octets_of_readAs {frame : Frame} {kind : FrameType} (standard : kind ≠ .proprietary)
    (first : raw[0]? = some kind.header) (read : readAs raw kind = .ok frame) :
    frame.WellFormed ∧ frame.octets = raw := by
  cases kind with
  | proprietary => exact (standard rfl).elim
  | joinRequest =>
      obtain ⟨request, found, rfl⟩ := map_eq_ok.mp read
      exact ⟨trivial, octets_of_readJoinRequest first found⟩
  | rejoin =>
      obtain ⟨request, found, rfl⟩ := map_eq_ok.mp read
      exact octets_of_readRejoin first found
  | data confirmed direction =>
      obtain ⟨frame, found, rfl⟩ := map_eq_ok.mp read
      exact octets_of_readData first found
  | joinAccept =>
      rw [readAs] at read
      split at read
      · cases read
      · rename_i long
        cases read
        cases raw with
        | nil => cases first
        | cons header body =>
            cases first
            rw [List.length_cons] at long
            exact ⟨by simp only [WellFormed, List.tail_cons]; omega, rfl⟩

theorem frameType_of_readAs {frame : Frame} {kind : FrameType} (standard : kind ≠ .proprietary)
    (read : readAs raw kind = .ok frame) : frame.frameType ≠ .proprietary := by
  cases kind with
  | proprietary => exact (standard rfl).elim
  | joinRequest | rejoin | data =>
      obtain ⟨_, -, rfl⟩ := map_eq_ok.mp read
      exact nofun
  | joinAccept =>
      rw [readAs] at read
      split at read <;> cases read
      exact nofun

theorem readAs_octets {frame : Frame} (wellFormed : frame.WellFormed) :
    readAs frame.octets frame.frameType = .ok frame := by
  cases frame with
  | joinRequest request => exact map_eq_ok.mpr ⟨_, readJoinRequest_octets request, rfl⟩
  | rejoin request => exact map_eq_ok.mpr ⟨_, readRejoin_octets wellFormed, rfl⟩
  | data frame => exact map_eq_ok.mpr ⟨_, readData_octets wellFormed, rfl⟩
  | proprietary body => rfl
  | joinAccept body =>
      refine if_neg fun other => ?_
      simp only [octets, List.length_cons] at other
      unfold WellFormed at wellFormed
      omega

theorem octets_eq_cons (frame : Frame) :
    ∃ body, frame.octets = frame.frameType.header :: body := by
  cases frame <;> exact ⟨_, rfl⟩

/-- Reading and writing are inverse to each other on all frames but proprietary ones. -/
theorem ofOctets_eq_ok_iff {frame : Frame} (standard : frame.frameType ≠ .proprietary) :
    ofOctets raw = .ok frame ↔ frame.WellFormed ∧ frame.octets = raw := by
  constructor
  · intro read
    cases raw with
    | nil => cases read
    | cons header body =>
        obtain ⟨read, same⟩ := readAs_of_ofOctets read
        by_cases kind : FrameType.ofHeader header = .proprietary
        · rw [kind] at read
          cases read
          exact (standard rfl).elim
        · exact octets_of_readAs kind (congrArg some (same kind)) read
  · rintro ⟨wellFormed, rfl⟩
    obtain ⟨body, split⟩ := frame.octets_eq_cons
    rw [split, ofOctets_of_header, ← split]
    exact readAs_octets wellFormed

end Frame

end LorawanGateway
