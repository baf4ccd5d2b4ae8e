import LorawanGateway.Proofs.Mac.FrameBounds
import LorawanGateway.Proofs.Mac.FrameCodec

/-!
The wire form of frames. Octets are read as a frame exactly if they have one of a few forms, told
by the first of them, their number and the control octet of a data frame.
-/

namespace LorawanGateway.Frame

open Octets

variable {raw : Octets}

/-- The forms of octets that are a frame, each told by its first octet and its length. -/
inductive WireForm : Octets → Prop where
  | proprietary (header : UInt8) (body : Octets) (top : header.toNat / 32 = 7) :
      WireForm (header :: body)
  | joinAccept (body : Octets) (long : body.length = 16 ∨ body.length = 32) :
      WireForm (0x20 :: body)
  | joinRequest (body : Octets) (long : body.length = 22) : WireForm (0x00 :: body)
  | networkRejoin (kind : UInt8) (body : Octets) (named : kind = 0 ∨ kind = 2)
      (long : body.length = 17) : WireForm (0xC0 :: kind :: body)
  | joinRejoin (body : Octets) (long : body.length = 22) : WireForm (0xC0 :: 1 :: body)
  | data (header control : UInt8) (address counter options : Octets) (fPort : Option UInt8)
      (payload code : Octets) (kind : header ∈ [0x40, 0x60, 0x80, 0xA0])
      (addressed : address.length = 4) (counted : counter.length = 2)
      (long : options.length = control.toNat % 16) (portless : fPort = none → payload = [])
      (coded : code.length = 4) :
      WireForm (header :: (address ++ control ::
        (counter ++ (options ++ (fPort.toList ++ (payload ++ code))))))

theorem mem_dataHeaders {header : UInt8} :
    header ∈ [0x40, 0x60, 0x80, 0xA0] ↔
      ∃ confirmed direction, header = (FrameType.data confirmed direction).header := by
  constructor
  · intro member
    simp only [List.mem_cons, List.not_mem_nil, or_false] at member
    rcases member with rfl | rfl | rfl | rfl
    · exact ⟨false, .uplink, rfl⟩
    · exact ⟨false, .downlink, rfl⟩
    · exact ⟨true, .uplink, rfl⟩
    · exact ⟨true, .downlink, rfl⟩
  · rintro ⟨confirmed, direction, rfl⟩
    cases confirmed <;> cases direction <;> decide

theorem wireForm_octets {frame : Frame} (wellFormed : frame.WellFormed)
    (standard : frame.frameType ≠ .proprietary) : WireForm frame.octets := by
  cases frame with
  | proprietary body => exact (standard rfl).elim
  | joinAccept body => exact .joinAccept body wellFormed
  | joinRequest request => exact .joinRequest _ (by simp)
  | rejoin request =>
      obtain ⟨purpose, deviceEui, counter, code⟩ := request
      cases purpose with
      | reset networkId => exact .networkRejoin 0 _ (.inl rfl) (by simp)
      | renew networkId => exact .networkRejoin 2 _ (.inr rfl) (by simp)
      | recover joinEui => exact .joinRejoin _ (by simp)
  | data frame =>
      have split : frame.octets = frame.frameType.header :: (ofNatLE 4 frame.address.word.toNat ++
          frame.control.octet :: (ofNatLE 2 frame.counter.toNat ++ (frame.options ++
            (frame.fPort.toList ++ (frame.payload ++ ofNatLE 4 frame.code.toNat))))) := by
        simp [DataFrame.octets, DataFrame.signed]
      rw [octets, split]
      exact .data _ _ _ _ _ _ _ _ (mem_dataHeaders.mpr ⟨_, _, rfl⟩) (length_ofNatLE ..)
        (length_ofNatLE ..) wellFormed.options wellFormed.payload (length_ofNatLE ..)

theorem wireForm_of_ofOctets {frame : Frame} (read : ofOctets raw = .ok frame) :
    WireForm raw := by
  cases raw with
  | nil => cases read
  | cons header body =>
      obtain ⟨read, same⟩ := readAs_of_ofOctets read
      by_cases kind : FrameType.ofHeader header = .proprietary
      · exact .proprietary header body (ofHeader_eq_proprietary_iff.mp kind)
      · obtain ⟨wellFormed, written⟩ := octets_of_readAs kind (congrArg some (same kind)) read
        rw [← written]
        exact wireForm_octets wellFormed (frameType_of_readAs kind read)

theorem readable_data {confirmed : Bool} {direction : Direction} (long : 12 ≤ raw.length)
    (order : 8 + FrameControl.optionsLength ⟨raw.getD 5 0⟩ ≤ raw.length - codeLength) :
    ∃ frame, readData raw confirmed direction = .ok frame :=
  ⟨_, (if_neg (Nat.not_lt.mpr long)).trans (if_neg (Nat.not_lt.mpr order))⟩

theorem readable_of_wireForm (form : WireForm raw) : ∃ frame, ofOctets raw = .ok frame := by
  cases form with
  | proprietary header body top =>
      refine ⟨.proprietary body, ?_⟩
      simp only [ofOctets, ofHeader_eq_proprietary_iff.mpr top]
  | joinAccept body long =>
      refine ⟨.joinAccept body, (ofOctets_of_header .joinAccept body).trans (if_neg ?_)⟩
      rw [List.length_cons]
      omega
  | joinRequest body long =>
      refine ⟨_, (ofOctets_of_header .joinRequest body).trans
        (map_eq_ok.mpr ⟨_, if_neg (not_not.mpr ?_), rfl⟩)⟩
      rw [List.length_cons, long]
  | networkRejoin kind body named long =>
      have read : ∃ request, readRejoin (0xC0 :: kind :: body) = .ok request := by
        rcases named with rfl | rfl <;>
          exact ⟨_, if_neg (not_not.mpr (by rw [List.length_cons, List.length_cons, long]))⟩
      obtain ⟨request, read⟩ := read
      exact ⟨.rejoin request, (ofOctets_of_header .rejoin _).trans
        (map_eq_ok.mpr ⟨request, read, rfl⟩)⟩
  | joinRejoin body long =>
      refine ⟨_, (ofOctets_of_header .rejoin _).trans
        (map_eq_ok.mpr ⟨_, if_neg (not_not.mpr ?_), rfl⟩)⟩
      rw [List.length_cons, List.length_cons, long]
  | data header control address counter options fPort payload code kind addressed counted long
      portless coded =>
      obtain ⟨confirmed, direction, rfl⟩ := mem_dataHeaders.mp kind
      -- What follows the options only has to leave room for the code.
      generalize content : fPort.toList ++ (payload ++ code) = rest
      have enough : 4 ≤ rest.length := by
        rw [← content, List.length_append, List.length_append, coded]
        omega
      obtain ⟨frame, read⟩ : ∃ frame, readData ((FrameType.data confirmed direction).header ::
          (address ++ control :: (counter ++ (options ++ rest)))) confirmed direction =
            .ok frame := by
        refine readable_data ?_ ?_
        · simp [addressed, counted]
          omega
        · simp [addressed, FrameControl.optionsLength, counted, codeLength, long]
          omega
      exact ⟨.data frame, (ofOctets_of_header _ _).trans (map_eq_ok.mpr ⟨frame, read, rfl⟩)⟩

/-- Reading never looks beyond the octets, and makes a frame of them exactly if they have one of the
wire forms. Any frame but a proprietary one is written again as the octets it was read from, so
that no others are read as it. -/
theorem read_exactly_from_wire_form (raw : Octets) :
    ofOctets? raw = some (ofOctets raw) ∧
      ((∃ frame, ofOctets raw = .ok frame) ↔ WireForm raw) ∧
      ∀ frame, ofOctets raw = .ok frame → frame.frameType ≠ .proprietary →
        frame.WellFormed ∧ frame.octets = raw ∧
          ∀ other, ofOctets other = .ok frame → other = raw := by
  refine ⟨ofOctets?_eq raw, ⟨fun ⟨_, read⟩ => wireForm_of_ofOctets read, readable_of_wireForm⟩,
    fun frame read standard => ?_⟩
  obtain ⟨wellFormed, written⟩ := (ofOctets_eq_ok_iff standard).mp read
  refine ⟨wellFormed, written, fun other same => ?_⟩
  rw [← written, ((ofOctets_eq_ok_iff standard).mp same).2]

/-- A frame with options that end right before the code, and so without a port. -/
def portlessOctets : Octets :=
  [0x40, 0x04, 0x03, 0x02, 0x01, 0x82, 0x05, 0x00, 0x0D, 0x0E, 0xAA, 0xBB, 0xCC, 0xDD]

def portlessFrame : DataFrame where
  confirmed := false
  direction := .uplink
  address := ⟨0x01020304⟩
  control := ⟨0x82⟩
  counter := 5
  options := [0x0D, 0x0E]
  fPort := none
  payload := []
  code := 0xDDCCBBAA

theorem portless_frame_read_and_written :
    ofOctets portlessOctets = .ok (.data portlessFrame) ∧ portlessFrame.octets = portlessOctets :=
  ⟨rfl, ((read_exactly_from_wire_form portlessOctets).2.2 (.data portlessFrame) rfl nofun).2.1⟩

end LorawanGateway.Frame
