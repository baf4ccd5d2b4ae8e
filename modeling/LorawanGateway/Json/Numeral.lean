import LorawanGateway.Json.Basic
import LorawanGateway.Octets
import LorawanGateway.Number.Scaled

/-!
Numbers as they are spelled in JSON, and what a spelling stands for: an integer where it fits 64
bits, otherwise a fractional number read from its leading digits.
-/

namespace LorawanGateway.Json

/-- A number as spelled: digits before and after the point and a signed exponent. -/
structure Numeral where
  negative : Bool
  whole : List Nat
  fraction : List Nat
  exponent : Option (Bool × List Nat)
  deriving DecidableEq, Repr

namespace Numeral

def digit? (octet : UInt8) : Option Nat :=
  if 48 ≤ octet && octet ≤ 57 then some (octet.toNat - 48) else none

def spanDigits : Octets → List Nat × Octets
  | [] => ([], [])
  | octet :: rest =>
    match digit? octet with
    | none => ([], octet :: rest)
    | some digit => let (digits, after) := spanDigits rest; (digit :: digits, after)

/-- The digits before the point: a zero stands alone. -/
def scanWhole? (octets : Octets) : Option (List Nat × Octets) :=
  match spanDigits octets with
  | ([], _) => none
  | (0 :: _ :: _, _) => none
  | found => some found

/-- The digits after a point, if there is one. -/
def scanFraction? : Octets → Option (List Nat × Octets)
  | 0x2E :: rest =>
    match spanDigits rest with
    | ([], _) => none
    | found => some found
  | octets => some ([], octets)

/-- The sign of an exponent, `true` for a minus. -/
def scanExponentSign : Octets → Bool × Octets
  | 0x2B :: rest => (false, rest)
  | 0x2D :: rest => (true, rest)
  | octets => (false, octets)

/-- The exponent behind its mark, if there is one. -/
def scanExponent? : Octets → Option (Option (Bool × List Nat) × Octets)
  | octet :: rest =>
    if octet == 0x65 || octet == 0x45 then
      let (negative, digits) := scanExponentSign rest
      match spanDigits digits with
      | ([], _) => none
      | (exponent, after) => some (some (negative, exponent), after)
    else some (none, octet :: rest)
  | [] => some (none, [])

def scanUnsigned? (negative : Bool) (octets : Octets) : Option (Numeral × Octets) := do
  let (whole, octets) ← scanWhole? octets
  let (fraction, octets) ← scanFraction? octets
  let (exponent, octets) ← scanExponent? octets
  return (⟨negative, whole, fraction, exponent⟩, octets)

def scan? : Octets → Option (Numeral × Octets)
  | 0x2D :: rest => scanUnsigned? true rest
  | octets => scanUnsigned? false octets

/-- One past the largest 64-bit integer. -/
def wordRange : Nat := 0x10000000000000000

/-- The leading digits as a 64-bit integer, and how many further digits did not fit. -/
def leadingWhole (digits : List Nat) : Nat × Nat :=
  digits.foldl (fun (value, dropped) digit =>
    if dropped = 0 ∧ value * 10 + digit < wordRange then (value * 10 + digit, 0)
    else (value, dropped + 1)) (0, 0)

/-- A 64-bit integer extended by the digits after the point until one does not fit, and how many
were taken. -/
def extendByFraction (value taken : Nat) : List Nat → Nat × Nat
  | [] => (value, taken)
  | digit :: rest =>
    if value * 10 + digit < wordRange then extendByFraction (value * 10 + digit) (taken + 1) rest
    else (value, taken)

/-- The range of a decimal exponent: beyond it, one stays at its end. -/
def exponentLimit : Nat := 0x7FFFFFFF

def digitsValue (digits : List Nat) : Nat :=
  digits.foldl (fun value digit => value * 10 + digit) 0

def signed (negative : Bool) (x : Float) : Float :=
  if negative then -x else x

/-- What a numeral with a point, an exponent or too many digits stands for. -/
def fractional? (numeral : Numeral) : Option Float :=
  let (whole, dropped) := leadingWhole numeral.whole
  let (significand, taken) := extendByFraction whole 0 numeral.fraction
  let shift : Int := dropped - taken
  let scaled (exponent : Int) :=
    (scaleByTen? significand.toUInt64.toFloat exponent).map (signed numeral.negative)
  match numeral.exponent with
  | none => scaled shift
  | some (negative, digits) =>
    let size := digitsValue digits
    if exponentLimit < size then
      if significand ≠ 0 ∧ !negative then none else some (signed numeral.negative 0.0)
    else
      let limit : Int := exponentLimit
      scaled (max (-limit - 1) (min limit (shift + if negative then -(size : Int) else size)))

/-- What a numeral stands for. A minus before zero makes it fractional, since no integer is a
negative zero. -/
def number? (numeral : Numeral) : Option Number :=
  let (whole, dropped) := leadingWhole numeral.whole
  if numeral.fraction = [] ∧ numeral.exponent = none ∧ dropped = 0 then
    if !numeral.negative then some (.integer whole)
    else if whole = 0 ∨ 0x8000000000000000 < whole then some (.double (-whole.toUInt64.toFloat))
    else some (.integer (-whole))
  else numeral.fractional?.map .double

end Numeral

end LorawanGateway.Json
