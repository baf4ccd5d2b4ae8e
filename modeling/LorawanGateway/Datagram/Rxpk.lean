import LorawanGateway.Datagram.SpelledRate
import LorawanGateway.Text.Base64

/-!
A received packet as an object of a datagram to the server.
-/

namespace LorawanGateway

/-- A received packet in a datagram. The frequency is in MHz, the GPS time in milliseconds. -/
structure Rxpk where
  formatVersion : UInt8
  counter : UInt32
  time : Option String
  gpsTime : Option UInt64
  ifChain : UInt8
  rfChain : UInt8
  frequency : Float
  modem : UInt8
  status : Int8
  modulation : String
  dataRate : SpelledRate
  codingRate : Option String
  signalLevel : Option Float32
  signalToNoise : Option Float32
  frequencyOffset : Int32
  channelLevel : Float32
  size : UInt16
  data : String

namespace Rxpk

/-- The names of the fields in order. -/
def names : List String :=
  ["jver", "tmst", "time", "tmms", "chan", "rfch", "freq", "mid", "stat", "modu", "datr", "codr",
    "rssis", "lsnr", "foff", "rssi", "size", "data"]

/-- The JSON form; absent fields are left out. -/
def toJson (rxpk : Rxpk) : Json := .object <|
  [("jver", .natural rxpk.formatVersion.toNat), ("tmst", .natural rxpk.counter.toNat)] ++
  Json.member? "time" .text rxpk.time ++
  Json.member? "tmms" (fun time => .natural time.toNat) rxpk.gpsTime ++
  [("chan", .natural rxpk.ifChain.toNat), ("rfch", .natural rxpk.rfChain.toNat),
    ("freq", .double rxpk.frequency), ("mid", .natural rxpk.modem.toNat),
    ("stat", .integer rxpk.status.toInt), ("modu", .text rxpk.modulation),
    ("datr", rxpk.dataRate.toJson)] ++
  Json.member? "codr" .text rxpk.codingRate ++
  Json.member? "rssis" .single rxpk.signalLevel ++
  Json.member? "lsnr" .single rxpk.signalToNoise ++
  [("foff", .integer rxpk.frequencyOffset.toInt), ("rssi", .single rxpk.channelLevel),
    ("size", .natural rxpk.size.toNat), ("data", .text rxpk.data)]

def ofJson? (value : Json) : Option Rxpk := do
  let record ← Json.record? names value
  return {
    formatVersion := ← record.required "jver" Json.word8?
    counter := ← record.required "tmst" Json.word32?
    time := ← record.optional "time" Json.text?
    gpsTime := ← record.optional "tmms" Json.word64?
    ifChain := ← record.required "chan" Json.word8?
    rfChain := ← record.required "rfch" Json.word8?
    frequency := ← record.required "freq" Json.double?
    modem := ← record.required "mid" Json.word8?
    status := ← record.required "stat" Json.signed8?
    modulation := ← record.required "modu" Json.text?
    dataRate := ← record.required "datr" SpelledRate.ofJson?
    codingRate := ← record.optional "codr" Json.text?
    signalLevel := ← record.optional "rssis" Json.single?
    signalToNoise := ← record.optional "lsnr" Json.single?
    frequencyOffset := ← record.required "foff" Json.signed32?
    channelLevel := ← record.required "rssi" Json.single?
    size := ← record.required "size" Json.word16?
    data := ← record.required "data" Json.text? }

def payload? (rxpk : Rxpk) : Option Octets := Base64.decode? rxpk.data

end Rxpk

end LorawanGateway
