import LorawanGateway.Octets
import LorawanGateway.Text.Quoted

/-!
Octets and addresses in hexadecimal. A text is read in pairs of digits of either case; an odd
number of digits is refused before any digit is looked at.
-/

namespace LorawanGateway.Hex

/-- The digit for a value below 16. -/
def lowerDigit (value : Nat) : Char :=
  if value < 10 then Char.ofNat (48 + value) else Char.ofNat (87 + value)

/-- The upper-case digit for a value below 16. -/
def upperDigit (value : Nat) : Char :=
  if value < 10 then Char.ofNat (48 + value) else Char.ofNat (55 + value)

/-- The value of a digit of either case, given by its code. -/
def digitValue? (code : Nat) : Option Nat :=
  if 48 ≤ code && code ≤ 57 then some (code - 48)
  else if 97 ≤ code && code ≤ 102 then some (code - 87)
  else if 65 ≤ code && code ≤ 70 then some (code - 55)
  else none

def lowerChars : Octets → List Char
  | [] => []
  | octet :: rest =>
    lowerDigit (octet.toNat / 16) :: lowerDigit (octet.toNat % 16) :: lowerChars rest

def encode (octets : Octets) : String :=
  String.ofList (lowerChars octets)

/-- The `width` low upper-case digits of `value`, most significant first. -/
def upperChars : (width value : Nat) → List Char
  | 0, _ => []
  | width + 1, value => upperChars width (value / 16) ++ [upperDigit (value % 16)]

/-- The `width` low upper-case digits of `value` as a text. -/
def padded (width value : Nat) : String :=
  String.ofList (upperChars width value)

/-- Why a text is not hexadecimal. -/
inductive DecodeError where
  | oddLength
  | badDigit (octet : UInt8) (position : Nat)
  deriving DecidableEq, Repr

/-- The wording of each cause; a foreign octet is shown as the character of that code. -/
def DecodeError.message : DecodeError → String
  | .oddLength => "Odd number of digits"
  | .badDigit octet position =>
    "Invalid character " ++ Text.quoteChar (Char.ofNat octet.toNat) ++
      " at position " ++ toString position

/-- Reads digits in pairs, the first of them standing at `position`. -/
def decodeFrom (position : Nat) : Octets → Except DecodeError Octets
  | [] => .ok []
  | [_] => .error .oddLength
  | high :: low :: rest =>
    match digitValue? high.toNat, digitValue? low.toNat with
    | none, _ => .error (.badDigit high position)
    | _, none => .error (.badDigit low (position + 1))
    | some h, some l => do
      let octets ← decodeFrom (position + 2) rest
      return UInt8.ofNat (16 * h + l) :: octets

def decode (text : String) : Except DecodeError Octets :=
  let digits := Octets.ofText text
  if digits.length % 2 = 1 then .error .oddLength else decodeFrom 0 digits

end LorawanGateway.Hex
