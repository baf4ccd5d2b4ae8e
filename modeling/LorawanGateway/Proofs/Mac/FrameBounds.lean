import LorawanGateway.Mac.Frame.Reader
import Mathlib.Logic.Basic

/-!
No access beyond the octets of a frame. The readers here check every access on their own: there is
no answer at all where an octet, a word or a part lies outside. They answer on all octets, and what
the readers of frames do, so those never look beyond what is there.
-/

namespace LorawanGateway

namespace Octets

variable {octets : Octets} {start first last : Nat}

/-- The octets from a place up to another, if these stand in order within the run. -/
def between? (octets : Octets) (first last : Nat) : Option Octets :=
  if first ≤ last ∧ last ≤ octets.length then some (octets.slice first (last - first)) else none

def word16? (octets : Octets) (start : Nat) : Option UInt16 :=
  (octets.between? start (start + 2)).map fun part => UInt16.ofNat part.toNatLE

def word32? (octets : Octets) (start : Nat) : Option UInt32 :=
  (octets.between? start (start + 4)).map fun part => UInt32.ofNat part.toNatLE

def word64? (octets : Octets) (start : Nat) : Option UInt64 :=
  (octets.between? start (start + 8)).map fun part => UInt64.ofNat part.toNatLE

theorem between?_eq (order : first ≤ last) (inside : last ≤ octets.length) :
    octets.between? first last = some (octets.slice first (last - first)) :=
  if_pos ⟨order, inside⟩

theorem between?_add {count : Nat} (inside : start + count ≤ octets.length) :
    octets.between? start (start + count) = some (octets.slice start count) := by
  rw [between?_eq (Nat.le_add_right ..) inside, Nat.add_sub_cancel_left]

theorem word16?_eq (inside : start + 2 ≤ octets.length) :
    octets.word16? start = some (octets.word16At start) := by
  rw [word16?, between?_add inside, Option.map_some, word16At]

theorem word32?_eq (inside : start + 4 ≤ octets.length) :
    octets.word32? start = some (octets.word32At start) := by
  rw [word32?, between?_add inside, Option.map_some, word32At]

theorem word64?_eq (inside : start + 8 ≤ octets.length) :
    octets.word64? start = some (octets.word64At start) := by
  rw [word64?, between?_add inside, Option.map_some, word64At]

end Octets

open Octets

namespace Frame

variable {raw : Octets}

def readJoinRequest? (raw : Octets) : Option (Except FrameFault JoinRequest) :=
  if raw.length ≠ 23 then some (.error .joinRequestLength)
  else do
    let joinEui ← raw.word64? 1
    let deviceEui ← raw.word64? 9
    let deviceNonce ← raw.word16? 17
    let code ← raw.word32? 19
    return .ok { joinEui := ⟨joinEui⟩, deviceEui := ⟨deviceEui⟩, deviceNonce, code }

def readNetworkRejoin? (raw : Octets) (purpose : UInt32 → RejoinPurpose) :
    Option (Except FrameFault RejoinRequest) :=
  if raw.length ≠ 19 then some (.error .rejoinNetIdLength)
  else do
    let networkId ← raw.between? 2 5
    let deviceEui ← raw.word64? 5
    let counter ← raw.word16? 13
    let code ← raw.word32? 15
    return .ok {
      purpose := purpose (UInt32.ofNat networkId.toNatLE)
      deviceEui := ⟨deviceEui⟩
      counter, code }

def readRejoin? (raw : Octets) : Option (Except FrameFault RejoinRequest) :=
  match (raw[1]? : Option UInt8) with
  | none => some (.error .rejoinWithoutType)
  | some 0 => readNetworkRejoin? raw .reset
  | some 2 => readNetworkRejoin? raw .renew
  | some 1 =>
    if raw.length ≠ 24 then some (.error .rejoinJoinEuiLength)
    else do
      let joinEui ← raw.word64? 2
      let deviceEui ← raw.word64? 10
      let counter ← raw.word16? 18
      let code ← raw.word32? 20
      return .ok { purpose := .recover ⟨joinEui⟩, deviceEui := ⟨deviceEui⟩, counter, code }
  | some _ => some (.error .unknownRejoinType)

/-- The port and the payload between the options and the integrity code. -/
def readContent? (raw : Octets) (portAt codeAt : Nat) : Option (Option UInt8 × Octets) :=
  if portAt = codeAt then do
    let payload ← raw.between? codeAt codeAt
    return (none, payload)
  else do
    let fPort ← raw[portAt]?
    let payload ← raw.between? (portAt + 1) codeAt
    return (some fPort, payload)

def readData? (raw : Octets) (confirmed : Bool) (direction : Direction) :
    Option (Except FrameFault DataFrame) :=
  if raw.length < 12 then some (.error .dataTooShort)
  else do
    let octet ← raw[5]?
    let control : FrameControl := ⟨octet⟩
    let portAt := 8 + control.optionsLength
    let codeAt ← if codeLength ≤ raw.length then some (raw.length - codeLength) else none
    if codeAt < portAt then some (.error .optionsOverrun)
    else do
      let (fPort, payload) ← readContent? raw portAt codeAt
      let address ← raw.word32? 1
      let counter ← raw.word16? 6
      let options ← raw.between? 8 portAt
      let code ← raw.word32? codeAt
      return .ok {
        confirmed, direction, control, counter, options, fPort, payload, code
        address := ⟨address⟩ }

/-- Reads a frame with every access checked. -/
def ofOctets? (raw : Octets) : Option (Except FrameFault Frame) :=
  match (raw[0]? : Option UInt8) with
  | none => some (.error .empty)
  | some header =>
    let frameType := FrameType.ofHeader header
    if frameType ≠ .proprietary ∧ header &&& 0x03 ≠ 0 then some (.error .unsupportedMajor)
    else if frameType ≠ .proprietary ∧ header &&& 0x1C ≠ 0 then some (.error .reservedBits)
    else
      match frameType with
      | .joinRequest => (readJoinRequest? raw).map (.joinRequest <$> ·)
      | .rejoin => (readRejoin? raw).map (.rejoin <$> ·)
      | .joinAccept =>
        if raw.length ≠ 17 ∧ raw.length ≠ 33 then some (.error .joinAcceptLength)
        else (raw.between? 1 raw.length).map fun body => .ok (.joinAccept body)
      | .proprietary => (raw.between? 1 raw.length).map fun body => .ok (.proprietary body)
      | .data confirmed direction => (readData? raw confirmed direction).map (.data <$> ·)

theorem readJoinRequest?_eq (raw : Octets) :
    readJoinRequest? raw = some (readJoinRequest raw) := by
  unfold readJoinRequest? readJoinRequest
  split
  · rfl
  · rename_i long
    rw [word64?_eq (by omega), word64?_eq (by omega), word16?_eq (by omega),
      word32?_eq (by omega)]
    rfl

theorem readNetworkRejoin?_eq (raw : Octets) (purpose : UInt32 → RejoinPurpose) :
    readNetworkRejoin? raw purpose = some (readNetworkRejoin raw purpose) := by
  unfold readNetworkRejoin? readNetworkRejoin
  split
  · rfl
  · rename_i long
    rw [between?_eq (by omega) (by omega), word64?_eq (by omega),
      word16?_eq (by omega), word32?_eq (by omega)]
    rfl

theorem readRejoin?_eq (raw : Octets) : readRejoin? raw = some (readRejoin raw) := by
  unfold readRejoin? readRejoin
  generalize (raw[1]? : Option UInt8) = second
  split
  · rfl
  · exact readNetworkRejoin?_eq raw _
  · exact readNetworkRejoin?_eq raw _
  · split
    · rfl
    · rename_i long
      rw [word64?_eq (by omega), word64?_eq (by omega),
        word16?_eq (by omega), word32?_eq (by omega)]
      rfl
  · simp [*]

theorem readContent?_eq {portAt codeAt : Nat} (order : portAt ≤ codeAt)
    (inside : codeAt < raw.length) :
    readContent? raw portAt codeAt =
      some (if portAt = codeAt then none else raw[portAt]?,
        raw.slice (portAt + 1) (codeAt - (portAt + 1))) := by
  unfold readContent?
  split
  · rename_i same
    rw [between?_eq (Nat.le_refl _) (Nat.le_of_lt inside), same, Nat.sub_self,
      Nat.sub_eq_zero_of_le (Nat.le_succ codeAt)]
    rfl
  · rename_i apart
    rw [between?_eq (by omega) (by omega), List.getElem?_eq_getElem (by omega)]
    rfl

theorem readData?_eq (raw : Octets) (confirmed : Bool) (direction : Direction) :
    readData? raw confirmed direction = some (readData raw confirmed direction) := by
  unfold readData? readData
  split
  · rfl
  · rename_i long
    have control : raw[5]? = some (raw.getD 5 0) := by
      rw [List.getD_eq_getElem?_getD, List.getElem?_eq_getElem (by omega)]
      rfl
    have code : codeLength ≤ raw.length := by
      unfold codeLength
      omega
    simp only [control, if_pos code, Option.bind_eq_bind, Option.bind_some]
    split
    · rfl
    · rename_i order
      replace order := Nat.not_lt.mp order
      have behind : raw.length - codeLength + 4 ≤ raw.length := by
        unfold codeLength at code ⊢
        omega
      rw [readContent?_eq order (by omega), word32?_eq (by omega),
        word16?_eq (by omega), between?_add (by omega), word32?_eq behind]
      rfl

/-- The checked reader always answers, and what the reader of frames does. -/
theorem ofOctets?_eq (raw : Octets) : ofOctets? raw = some (ofOctets raw) := by
  cases raw with
  | nil => rfl
  | cons header body =>
      have rest : between? (header :: body) 1 (header :: body).length = some body := by
        rw [between?_eq (by simp) (Nat.le_refl _)]
        simp [slice]
      simp only [ofOctets?, ofOctets, List.getElem?_cons_zero, readJoinRequest?_eq,
        readRejoin?_eq, readData?_eq, rest, Option.map_some]
      cases FrameType.ofHeader header with
      | proprietary => simp
      | joinRequest | rejoin | joinAccept | data =>
          simp only [ne_eq, reduceCtorEq, not_false_eq_true, true_and, apply_ite some]

end Frame

end LorawanGateway
