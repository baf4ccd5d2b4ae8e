import LorawanGateway.Json.Record
import LorawanGateway.Mac.Address

/-!
A store of texts under text keys: filter rules, session keys and status entries. The entries are
kept in the order of their keys, so that the keys with a common beginning stand together.
-/

namespace LorawanGateway

/-- The entries of a store in the order of their keys. -/
structure Store where
  entries : List (String × String) := []
  deriving DecidableEq, Repr

namespace Store

/-- The entries with one set: a new key goes to its place, a known one gets the value. -/
def insertEntry (key value : String) : List (String × String) → List (String × String)
  | [] => [(key, value)]
  | (other, kept) :: rest =>
    if key < other then (key, value) :: (other, kept) :: rest
    else if key = other then (key, value) :: rest
    else (other, kept) :: insertEntry key value rest

/-- A store of some entries; of several with one key the last one counts. -/
def ofList (entries : List (String × String)) : Store :=
  ⟨entries.foldl (fun kept (key, value) => insertEntry key value kept) []⟩

def get? (store : Store) (key : String) : Option String := store.entries.lookup key

def contains (store : Store) (key : String) : Bool := (store.get? key).isSome

def put (store : Store) (key value : String) : Store := ⟨insertEntry key value store.entries⟩

def erase (store : Store) (key : String) : Store :=
  ⟨store.entries.filter fun entry => entry.1 != key⟩

def beginsWith (start key : String) : Bool := start.toList.isPrefixOf key.toList

/-- The entries whose keys begin with a text, in order. Reading starts at the first key that is not
before the text and stops at the first one that does not begin with it. -/
def scan (store : Store) (start : String) : List (String × String) :=
  (store.entries.dropWhile fun entry => entry.1 < start).takeWhile fun entry =>
    beginsWith start entry.1

/-- The store of a JSON object whose members are all texts. -/
def ofJson? : Json → Option Store
  | .object members => ofList <$> members.mapM fun (key, value) => (Json.text? value).map (key, ·)
  | _ => none

def ofText? (text : String) : Option Store := (Json.ofText? text).bind ofJson?

def familyKey (family key : String) : String := family ++ "/" ++ key

def serviceFamily : String := "service/lorawan"

def serviceKey (service : String) : String := familyKey serviceFamily service

def statusKey (service : String) (slot : Nat) : String :=
  serviceKey service ++ "/network" ++ toString slot

/-- The key under which a session key of a device is provisioned. -/
def sessionKey (address : DevAddr) (name : String) : String :=
  "devices/" ++ address.text ++ "/" ++ name

end Store

end LorawanGateway
