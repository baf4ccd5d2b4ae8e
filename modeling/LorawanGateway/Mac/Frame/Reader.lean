import LorawanGateway.Mac.Frame.Basic

/-!
Reading frames. The header is checked first, then the length that the type asks for; a proprietary
frame is taken whatever it holds.
-/

namespace LorawanGateway.Frame

def codeLength : Nat := 4

def readJoinRequest (raw : Octets) : Except FrameFault JoinRequest :=
  if raw.length ≠ 23 then .error .joinRequestLength
  else .ok {
    joinEui := ⟨raw.word64At 1⟩
    deviceEui := ⟨raw.word64At 9⟩
    deviceNonce := raw.word16At 17
    code := raw.word32At 19 }

/-- A 24-bit network identifier. -/
def networkIdAt (raw : Octets) (start : Nat) : UInt32 :=
  UInt32.ofNat (raw.slice start 3).toNatLE

def readNetworkRejoin (raw : Octets) (purpose : UInt32 → RejoinPurpose) :
    Except FrameFault RejoinRequest :=
  if raw.length ≠ 19 then .error .rejoinNetIdLength
  else .ok {
    purpose := purpose (networkIdAt raw 2)
    deviceEui := ⟨raw.word64At 5⟩
    counter := raw.word16At 13
    code := raw.word32At 15 }

def readRejoin (raw : Octets) : Except FrameFault RejoinRequest :=
  match (raw[1]? : Option UInt8) with
  | none => .error .rejoinWithoutType
  | some 0 => readNetworkRejoin raw .reset
  | some 2 => readNetworkRejoin raw .renew
  | some 1 =>
    if raw.length ≠ 24 then .error .rejoinJoinEuiLength
    else .ok {
      purpose := .recover ⟨raw.word64At 2⟩
      deviceEui := ⟨raw.word64At 10⟩
      counter := raw.word16At 18
      code := raw.word32At 20 }
  | some _ => .error .unknownRejoinType

/-- A data frame. Where the options end the signed part, there is neither an FPort nor a
payload. -/
def readData (raw : Octets) (confirmed : Bool) (direction : Direction) :
    Except FrameFault DataFrame :=
  if raw.length < 12 then .error .dataTooShort
  else
    let control : FrameControl := ⟨raw.getD 5 0⟩
    let portAt := 8 + control.optionsLength
    let codeAt := raw.length - codeLength
    if codeAt < portAt then .error .optionsOverrun
    else .ok {
      confirmed, direction, control
      address := ⟨raw.word32At 1⟩
      counter := raw.word16At 6
      options := raw.slice 8 control.optionsLength
      fPort := if portAt = codeAt then none else raw[portAt]?
      payload := raw.slice (portAt + 1) (codeAt - (portAt + 1))
      code := raw.word32At codeAt }

def ofOctets : Octets → Except FrameFault Frame
  | [] => .error .empty
  | header :: body =>
    let raw := header :: body
    match FrameType.ofHeader header with
    | .proprietary => .ok (.proprietary body)
    | frameType =>
      if header &&& 0x03 ≠ 0 then .error .unsupportedMajor
      else if header &&& 0x1C ≠ 0 then .error .reservedBits
      else
        match frameType with
        | .joinRequest => .joinRequest <$> readJoinRequest raw
        | .rejoin => .rejoin <$> readRejoin raw
        | .joinAccept =>
          if raw.length ≠ 17 ∧ raw.length ≠ 33 then .error .joinAcceptLength
          else .ok (.joinAccept body)
        | .data confirmed direction => .data <$> readData raw confirmed direction
        | .proprietary => .ok (.proprietary body)

end LorawanGateway.Frame
