import LorawanGateway.Gateway.Store
import LorawanGateway.Mac.Frame.Reader

/-!
Looking into data frames with session keys that are provisioned in the store, for diagnosis only:
what is forwarded does not depend on it.
-/

namespace LorawanGateway

/-- What a data frame holds once its integrity code is checked and its payload decrypted. -/
structure InspectedFrame where
  address : DevAddr
  counter : UInt16
  fPort : Option UInt8
  isAuthentic : Bool
  payload : Octets
  deriving DecidableEq, Repr

/-- Looks into a frame; `none` for one that is no data frame, or whose device has no keys. The upper
half of the frame counter is taken to be zero. -/
def inspect (cipher : BlockCipher) (store : Store) (frame : Frame) :
    Except MacError (Option InspectedFrame) :=
  match frame with
  | .data data =>
    match store.get? (Store.sessionKey data.address "nwkskey"),
        store.get? (Store.sessionKey data.address "appskey") with
    | some network, some application => do
      let network ← Key.ofHex network
      let application ← Key.ofHex application
      let isAuthentic ← data.verify cipher network.toList 0
      let payload ← data.clearPayload cipher network.toList application.toList 0
      return some {
        address := data.address
        counter := data.counter
        fPort := data.fPort
        isAuthentic, payload }
    | _, _ => .ok none
  | _ => .ok none

end LorawanGateway
