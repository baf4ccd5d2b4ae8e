import LorawanGateway.Json.Basic
import LorawanGateway.Number.Layout
import LorawanGateway.Octets

/-!
Compact JSON text: no blanks, members in their order. In texts the quote, the backslash and the
control characters are escaped and nothing else is.
-/

namespace LorawanGateway.Json

def hexDigit (value : UInt8) : UInt8 :=
  if value < 10 then 0x30 + value else 0x57 + value

def escapeOctet (octet : UInt8) : Octets :=
  if octet = 0x22 then [0x5C, 0x22]
  else if octet = 0x5C then [0x5C, 0x5C]
  else if octet = 0x08 then [0x5C, 0x62]
  else if octet = 0x0C then [0x5C, 0x66]
  else if octet = 0x0A then [0x5C, 0x6E]
  else if octet = 0x0D then [0x5C, 0x72]
  else if octet = 0x09 then [0x5C, 0x74]
  else if octet < 0x20 then [0x5C, 0x75, 0x30, 0x30, hexDigit (octet / 16), hexDigit (octet % 16)]
  else [octet]

def printText (text : String) : Octets :=
  0x22 :: ((Octets.ofText text).flatMap escapeOctet ++ [0x22])

/-- A number; what is not finite is written as `null`. -/
def printNumber : Number → Octets
  | .integer value => Octets.ofText (toString value)
  | .double value =>
    Octets.ofText ((DecimalLayout.double.renderBinary? .double (.ofDouble value)).getD "null")
  | .single value =>
    Octets.ofText ((DecimalLayout.single.renderBinary? .single (.ofSingle value)).getD "null")

mutual

def print : Json → Octets
  | .null => Octets.ofText "null"
  | .bool true => Octets.ofText "true"
  | .bool false => Octets.ofText "false"
  | .number value => printNumber value
  | .text value => printText value
  | .array items => 0x5B :: (printItems items ++ [0x5D])
  | .object members => 0x7B :: (printMembers members ++ [0x7D])
  | .unreadable => Octets.ofText "null"

def printItems : List Json → Octets
  | [] => []
  | [item] => print item
  | item :: rest => print item ++ 0x2C :: printItems rest

def printMembers : List (String × Json) → Octets
  | [] => []
  | [(name, value)] => printText name ++ 0x3A :: print value
  | (name, value) :: rest => printText name ++ 0x3A :: (print value ++ 0x2C :: printMembers rest)

end

def render (value : Json) : String :=
  (Octets.toText? value.print).getD ""

end LorawanGateway.Json
