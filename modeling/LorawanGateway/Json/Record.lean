import LorawanGateway.Json.Reader

/-!
Records in JSON: an object with the fields as members, or an array of the fields in their order.
A member named twice is refused, a member of another name is ignored.
-/

namespace LorawanGateway.Json

/-- What a value supplies for the fields of a record. -/
structure Record where
  positional : Bool
  field : String → Option Json

/-- Whether a name stands twice among some members. -/
def repeats (name : String) (members : List (String × Json)) : Bool :=
  1 < members.countP fun member => member.1 == name

/-- The fields `names` of a record, as a value supplies them. -/
def record? (names : List String) : Json → Option Record
  | .object members =>
    if names.any fun name => repeats name members then none
    else some ⟨false, fun name => members.lookup name⟩
  | .array items =>
    if items.length ≤ names.length then some ⟨true, fun name => (names.zip items).lookup name⟩
    else none
  | _ => none

namespace Record

def required (record : Record) (name : String) (decode : Json → Option α) : Option α :=
  (record.field name).bind decode

/-- A value, or `null` for its absence. -/
def nullable (decode : Json → Option α) : Json → Option (Option α)
  | .null => some none
  | value => (decode value).map some

/-- A field that may be left out of an object, but not of an array. -/
def optional (record : Record) (name : String) (decode : Json → Option α) : Option (Option α) :=
  match record.field name with
  | none => if record.positional then none else some none
  | some value => nullable decode value

def withDefault (record : Record) (name : String) (default : α) (decode : Json → Option α) :
    Option α :=
  match record.field name with
  | none => some default
  | some value => decode value

end Record

def bool? : Json → Option Bool
  | .bool value => some value
  | _ => none

def text? : Json → Option String
  | .text value => some value
  | _ => none

/-- An integer from `lowest` to `highest`. -/
def integerWithin? (lowest highest : Int) : Json → Option Int
  | .number (.integer value) => if lowest ≤ value ∧ value ≤ highest then some value else none
  | _ => none

/-- A natural number below `2 ^ bits`. -/
def naturalBelow? (bits : Nat) (value : Json) : Option Nat :=
  (integerWithin? 0 ((1 <<< bits : Nat) - 1) value).map Int.toNat

/-- An 8-bit word. -/
def word8? (value : Json) : Option UInt8 := (naturalBelow? 8 value).map Nat.toUInt8

/-- A 16-bit word. -/
def word16? (value : Json) : Option UInt16 := (naturalBelow? 16 value).map Nat.toUInt16

/-- A 32-bit word. -/
def word32? (value : Json) : Option UInt32 := (naturalBelow? 32 value).map Nat.toUInt32

/-- A 64-bit word. -/
def word64? (value : Json) : Option UInt64 := (naturalBelow? 64 value).map Nat.toUInt64

/-- A signed 8-bit number. -/
def signed8? (value : Json) : Option Int8 :=
  (integerWithin? (-0x80) 0x7F value).map Int.toInt8

/-- A signed 32-bit number. -/
def signed32? (value : Json) : Option Int32 :=
  (integerWithin? (-0x80000000) 0x7FFFFFFF value).map Int.toInt32

/-- The 64-bit fractional number nearest to a JSON number. -/
def double? : Json → Option Float
  | .number (.integer value) =>
    some (if value < 0 then -(-value).toNat.toUInt64.toFloat else value.toNat.toUInt64.toFloat)
  | .number (.double value) => some value
  | _ => none

/-- The 32-bit fractional number nearest to a JSON number. -/
def single? : Json → Option Float32
  | .number (.integer value) =>
    some (if value < 0 then -(-value).toNat.toUInt64.toFloat32
      else value.toNat.toUInt64.toFloat32)
  | .number (.double value) => some value.toFloat32
  | _ => none

def list? (decode : Json → Option α) : Json → Option (List α)
  | .array items => items.mapM decode
  | _ => none

end LorawanGateway.Json
