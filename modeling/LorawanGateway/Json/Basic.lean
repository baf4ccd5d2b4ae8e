/-!
JSON values. An object keeps its members in the order they were written in, repeated names
included; what a repeated name means is decided by the reader of the value.
-/

namespace LorawanGateway

/-- A JSON number. A fractional number remembers the width it was computed in, since its text
depends on it. -/
inductive Number where
  | integer (value : Int)
  | double (value : Float)
  | single (value : Float32)

/-- A JSON value. `unreadable` is a part that follows the grammar but stands for nothing: a number
beyond the largest one, or a text that is no Unicode text. -/
inductive Json where
  | null
  | bool (value : Bool)
  | number (value : Number)
  | text (value : String)
  | array (items : List Json)
  | object (members : List (String × Json))
  | unreadable

namespace Json

def integer (value : Int) : Json := .number (.integer value)

def natural (value : Nat) : Json := .integer value

/-- A 64-bit number; what is not finite is written as `null`. -/
def double (value : Float) : Json :=
  if value.isFinite then .number (.double value) else .null

/-- A 32-bit number; what is not finite is written as `null`. -/
def single (value : Float32) : Json :=
  if value.isFinite then .number (.single value) else .null

/-- `null` for an absent value. -/
def orNull (encode : α → Json) : Option α → Json
  | none => .null
  | some value => encode value

def member? (name : String) (encode : α → Json) : Option α → List (String × Json)
  | none => []
  | some value => [(name, encode value)]

end Json

end LorawanGateway
