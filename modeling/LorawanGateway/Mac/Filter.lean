import LorawanGateway.Mac.Frame.Basic

/-!
Admission of frames by rules in a store. A rule is a key for one service, one dimension of a
frame's identity and one value; a dimension drops the frames whose key is not listed.
-/

namespace LorawanGateway

/-- How a dimension is filtered. Both filters drop what is not listed; they differ in what they
exempt. -/
inductive FilterMode where
  | none
  | include
  | exclude
  deriving DecidableEq, Repr

/-- An ASCII letter in lower case, any other character as it is. -/
def asciiLower (c : Char) : Char :=
  if 'A' ≤ c && c ≤ 'Z' then Char.ofNat (c.toNat + 32) else c

/-- The mode that a setting names in any case, no setting meaning no filter; an unknown name comes
back in lower case. -/
def FilterMode.ofText (text : String) : Except String FilterMode :=
  let name := text.map asciiLower
  if name = "none" ∨ name = "" then .ok .none
  else if name = "include" then .ok .include
  else if name = "exclude" then .ok .exclude
  else .error name

def FilterMode.unknownMessage (name : String) : String := s!"unknown filter mode '{name}'"

/-- What a rule can look at. -/
inductive Dimension where
  | fPort
  | address
  | network
  | device
  deriving DecidableEq, Repr

namespace Dimension

def all : List Dimension := [.fPort, .address, .network, .device]

def label : Dimension → String
  | .fPort => "fport"
  | .address => "devaddr"
  | .network => "nwkid"
  | .device => "deveui"

def valueText (dimension : Dimension) (identity : FrameIdentity) : String :=
  match dimension with
  | .fPort => toString identity.fPort.toNat
  | .address => identity.address.text
  | .network => Hex.padded 2 identity.networkId.toNat
  | .device => identity.deviceEui.text

end Dimension

/-- A mode for each dimension. -/
structure FilterPolicy where
  fPort : FilterMode
  address : FilterMode
  network : FilterMode
  device : FilterMode
  deriving DecidableEq, Repr

namespace FilterPolicy

def mode (policy : FilterPolicy) : Dimension → FilterMode
  | .fPort => policy.fPort
  | .address => policy.address
  | .network => policy.network
  | .device => policy.device

def isActive (policy : FilterPolicy) : Bool :=
  Dimension.all.any fun dimension => policy.mode dimension != .none

end FilterPolicy

/-- The filter of a service. -/
structure FrameFilter where
  service : String
  policy : FilterPolicy
  deriving DecidableEq, Repr

namespace FrameFilter

/-- The key of the rule that lists an identity's value in a dimension. -/
def ruleKey (filter : FrameFilter) (dimension : Dimension) (identity : FrameIdentity) : String :=
  filter.service ++ "/" ++ dimension.label ++ "/" ++ dimension.valueText identity

/-- Whether a mode lets an identity pass in a dimension without a rule. No device identifier always
passes; a missing FPort passes an excluding filter, and so does a missing address, on which the
network identifier depends. -/
def exempts (mode : FilterMode) (dimension : Dimension) (identity : FrameIdentity) : Bool :=
  match dimension with
  | .device => identity.deviceEui.isZero
  | .fPort => mode == .exclude && identity.fPort == 0
  | .address | .network => mode == .exclude && identity.address.isZero

def rejects (filter : FrameFilter) (listed : String → Bool) (identity : FrameIdentity)
    (dimension : Dimension) : Bool :=
  let mode := filter.policy.mode dimension
  mode != .none && !exempts mode dimension identity && !listed (filter.ruleKey dimension identity)

/-- Whether a frame with the identity is dropped, given which keys are listed. -/
def drops (filter : FrameFilter) (listed : String → Bool) (identity : FrameIdentity) : Bool :=
  Dimension.all.any (filter.rejects listed identity)

end FrameFilter

end LorawanGateway
