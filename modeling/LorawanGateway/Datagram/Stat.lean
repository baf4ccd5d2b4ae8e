import LorawanGateway.Json.Printer
import LorawanGateway.Json.Record

/-!
The status report of a gateway as an object of a datagram to the server.
-/

namespace LorawanGateway

/-- A status report: where the gateway is, and what it counted since the last report. -/
structure Stat where
  time : String
  latitude : Option Float
  longitude : Option Float
  altitude : Option Int32
  received : UInt32
  receivedOk : UInt32
  forwarded : UInt32
  acknowledgedShare : Float
  fromServer : UInt32
  transmitted : UInt32

namespace Stat

/-- The names of the fields in order. -/
def names : List String :=
  ["time", "lati", "long", "alti", "rxnb", "rxok", "rxfw", "ackr", "dwnb", "txnb"]

/-- The JSON form; absent fields are left out. -/
def toJson (stat : Stat) : Json := .object <|
  [("time", .text stat.time)] ++
  Json.member? "lati" .double stat.latitude ++
  Json.member? "long" .double stat.longitude ++
  Json.member? "alti" (fun altitude => .integer altitude.toInt) stat.altitude ++
  [("rxnb", .natural stat.received.toNat), ("rxok", .natural stat.receivedOk.toNat),
    ("rxfw", .natural stat.forwarded.toNat), ("ackr", .double stat.acknowledgedShare),
    ("dwnb", .natural stat.fromServer.toNat), ("txnb", .natural stat.transmitted.toNat)]

def ofJson? (value : Json) : Option Stat := do
  let record ← Json.record? names value
  return {
    time := ← record.required "time" Json.text?
    latitude := ← record.optional "lati" Json.double?
    longitude := ← record.optional "long" Json.double?
    altitude := ← record.optional "alti" Json.signed32?
    received := ← record.required "rxnb" Json.word32?
    receivedOk := ← record.required "rxok" Json.word32?
    forwarded := ← record.required "rxfw" Json.word32?
    acknowledgedShare := ← record.required "ackr" Json.double?
    fromServer := ← record.required "dwnb" Json.word32?
    transmitted := ← record.required "txnb" Json.word32? }

end Stat

end LorawanGateway
