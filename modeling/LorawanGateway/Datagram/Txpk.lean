import LorawanGateway.Datagram.SpelledRate

/-!
The request to send a packet, as the server spells it. Every field may be left out; whether what
is there suffices is decided when the packet is made. Numbers that stand for integers may be
written with a fraction, which is cut off.
-/

namespace LorawanGateway

/-- A request to send a packet. The frequency is in MHz, the GPS time in milliseconds, the
deviation in Hz. -/
structure Txpk where
  immediate : Option Bool := none
  counter : Option UInt32 := none
  gpsTime : Option UInt64 := none
  withoutCrc : Option Bool := none
  frequency : Option Float := none
  rfChain : Option UInt8 := none
  power : Option Int8 := none
  modulation : Option String := none
  dataRate : Option SpelledRate := none
  codingRate : Option String := none
  invertPolarity : Option Bool := none
  preamble : Option UInt16 := none
  deviation : Option UInt32 := none
  size : Option UInt16 := none
  data : Option String := none

namespace Json

/-- The integer that a number stands for, its fraction cut off; it has to fit a signed 64-bit
number. -/
def wholeNumber? : Json → Option Int
  | .number (.integer value) => if value < 0x8000000000000000 then some value else none
  | .number (.double value) =>
    match Binary.ofDouble value with
    | .finite negative significand exponent =>
      let whole := Binary.scaleToNat .towardZero significand exponent 1
      if whole < 0x8000000000000000 then some (if negative then -whole else whole) else none
    | _ => none
  | _ => none

/-- A number from `lowest` to `highest`, its fraction cut off. -/
def wholeWithin? (lowest highest : Int) (value : Json) : Option Int :=
  (wholeNumber? value).filter fun whole => lowest ≤ whole && whole ≤ highest

/-- A number of at most `bits` bits, its fraction cut off. -/
def wholeBelow? (bits : Nat) (value : Json) : Option Nat :=
  (wholeWithin? 0 ((1 <<< bits : Nat) - 1) value).map Int.toNat

end Json

namespace Txpk

/-- The names of the fields in order. -/
def names : List String :=
  ["imme", "tmst", "tmms", "ncrc", "freq", "rfch", "powe", "modu", "datr", "codr", "ipol", "prea",
    "fdev", "size", "data"]

/-- The JSON form; absent fields are left out. -/
def toJson (txpk : Txpk) : Json := .object <|
  Json.member? "imme" .bool txpk.immediate ++
  Json.member? "tmst" (fun counter => .natural counter.toNat) txpk.counter ++
  Json.member? "tmms" (fun time => .natural time.toNat) txpk.gpsTime ++
  Json.member? "ncrc" .bool txpk.withoutCrc ++
  Json.member? "freq" .double txpk.frequency ++
  Json.member? "rfch" (fun chain => .natural chain.toNat) txpk.rfChain ++
  Json.member? "powe" (fun power => .integer power.toInt) txpk.power ++
  Json.member? "modu" .text txpk.modulation ++
  Json.member? "datr" SpelledRate.toJson txpk.dataRate ++
  Json.member? "codr" .text txpk.codingRate ++
  Json.member? "ipol" .bool txpk.invertPolarity ++
  Json.member? "prea" (fun preamble => .natural preamble.toNat) txpk.preamble ++
  Json.member? "fdev" (fun deviation => .natural deviation.toNat) txpk.deviation ++
  Json.member? "size" (fun size => .natural size.toNat) txpk.size ++
  Json.member? "data" .text txpk.data

/-- A field that may be left out or `null`. -/
def field? (record : Json.Record) (name : String) (decode : Json → Option α) :
    Option (Option α) :=
  record.withDefault name none (Json.Record.nullable decode)

def ofJson? (value : Json) : Option Txpk := do
  let record ← Json.record? names value
  return {
    immediate := ← field? record "imme" Json.bool?
    counter := ← field? record "tmst" fun n => (Json.wholeBelow? 32 n).map Nat.toUInt32
    gpsTime := ← field? record "tmms" fun n => (Json.wholeBelow? 64 n).map Nat.toUInt64
    withoutCrc := ← field? record "ncrc" Json.bool?
    frequency := ← field? record "freq" Json.double?
    rfChain := ← field? record "rfch" fun n => (Json.wholeBelow? 8 n).map Nat.toUInt8
    power := ← field? record "powe" fun n => (Json.wholeWithin? (-128) 127 n).map Int.toInt8
    modulation := ← field? record "modu" Json.text?
    dataRate := ← field? record "datr" SpelledRate.ofJson?
    codingRate := ← field? record "codr" Json.text?
    invertPolarity := ← field? record "ipol" Json.bool?
    preamble := ← field? record "prea" fun n => (Json.wholeBelow? 16 n).map Nat.toUInt16
    deviation := ← field? record "fdev" fun n => (Json.wholeBelow? 32 n).map Nat.toUInt32
    size := ← field? record "size" fun n => (Json.wholeBelow? 16 n).map Nat.toUInt16
    data := ← field? record "data" Json.text? }

end Txpk

end LorawanGateway
