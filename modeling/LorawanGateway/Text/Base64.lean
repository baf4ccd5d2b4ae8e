import LorawanGateway.Octets
import LorawanGateway.Text.Blank

/-!
Payloads as base-64 text: the standard alphabet, four characters for three octets, the last group
padded, unused bits zero. Reading accepts exactly what writing produces.
-/

namespace LorawanGateway.Base64

/-- The character for a value below 64. -/
def digit (value : Nat) : Char :=
  if value < 26 then Char.ofNat (65 + value)
  else if value < 52 then Char.ofNat (71 + value)
  else if value < 62 then Char.ofNat (value - 4)
  else if value = 62 then '+'
  else '/'

def digitValue? (c : Char) : Option Nat :=
  let code := c.toNat
  if 65 ≤ code && code ≤ 90 then some (code - 65)
  else if 97 ≤ code && code ≤ 122 then some (code - 71)
  else if 48 ≤ code && code ≤ 57 then some (code + 4)
  else if c = '+' then some 62
  else if c = '/' then some 63
  else none

def encodeChars : Octets → List Char
  | [] => []
  | [a] => [digit (a.toNat / 4), digit (a.toNat % 4 * 16), '=', '=']
  | [a, b] =>
    [digit (a.toNat / 4), digit (a.toNat % 4 * 16 + b.toNat / 16), digit (b.toNat % 16 * 4), '=']
  | a :: b :: c :: rest =>
    digit (a.toNat / 4) :: digit (a.toNat % 4 * 16 + b.toNat / 16) ::
      digit (b.toNat % 16 * 4 + c.toNat / 64) :: digit (c.toNat % 64) :: encodeChars rest

def encode (octets : Octets) : String :=
  String.ofList (encodeChars octets)

/-- Reads groups of four characters; padding stands only in the last group. -/
def decodeChars? : List Char → Option Octets
  | [] => some []
  | [p, q, '=', '='] => do
    let v ← digitValue? p
    let w ← digitValue? q
    guard (w % 16 = 0)
    return [UInt8.ofNat (v * 4 + w / 16)]
  | [p, q, r, '='] => do
    let v ← digitValue? p
    let w ← digitValue? q
    let x ← digitValue? r
    guard (x % 4 = 0)
    return [UInt8.ofNat (v * 4 + w / 16), UInt8.ofNat (w % 16 * 16 + x / 4)]
  | p :: q :: r :: s :: rest => do
    let v ← digitValue? p
    let w ← digitValue? q
    let x ← digitValue? r
    let y ← digitValue? s
    let octets ← decodeChars? rest
    return UInt8.ofNat (v * 4 + w / 16) :: UInt8.ofNat (w % 16 * 16 + x / 4) ::
      UInt8.ofNat (x % 4 * 64 + y) :: octets
  | _ => none

def decode? (text : String) : Option Octets :=
  decodeChars? text.toList

/-- The octets a payload field spells, blanks around it ignored. -/
def decodePayload? (text : String) : Option Octets :=
  decode? (Text.trim text)

end LorawanGateway.Base64
