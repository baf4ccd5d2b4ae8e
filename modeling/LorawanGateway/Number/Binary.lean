/-!
Binary floating-point numbers taken apart into sign, significand and exponent, so that rounding to
an integer is done in exact arithmetic.
-/

namespace LorawanGateway

/-- An interchange format: how many fraction bits are stored and how wide the exponent field is. -/
structure BinaryFormat where
  fractionBits : Nat
  exponentBits : Nat
  deriving DecidableEq, Repr

namespace BinaryFormat

/-- The 64-bit format. -/
def double : BinaryFormat := ⟨52, 11⟩

/-- The 32-bit format. -/
def single : BinaryFormat := ⟨23, 8⟩

/-- The exponent of the least significant bit of the smallest numbers. -/
def lowestExponent (format : BinaryFormat) : Int :=
  2 - (1 <<< (format.exponentBits - 1) : Nat) - format.fractionBits

end BinaryFormat

/-- A floating-point number: `finite` stands for `significand * 2 ^ exponent` with its sign. -/
inductive Binary where
  | notANumber
  | infinite (negative : Bool)
  | finite (negative : Bool) (significand : Nat) (exponent : Int)
  deriving DecidableEq, Repr

/-- How a quotient becomes a whole number. -/
inductive Rounding where
  | towardZero
  | halfAway
  | halfEven
  deriving DecidableEq, Repr

/-- The rounded quotient of two natural numbers. -/
def Rounding.divide (mode : Rounding) (numerator denominator : Nat) : Nat :=
  let quotient := numerator / denominator
  let twice := 2 * (numerator % denominator)
  match mode with
  | .towardZero => quotient
  | .halfAway => if denominator ≤ twice then quotient + 1 else quotient
  | .halfEven =>
    if denominator < twice ∨ (denominator = twice ∧ quotient % 2 = 1) then quotient + 1
    else quotient

namespace Binary

/-- The number whose stored form is `bits`. -/
def ofBits (format : BinaryFormat) (bits : Nat) : Binary :=
  let fraction := bits % (1 <<< format.fractionBits)
  let field := (bits >>> format.fractionBits) % (1 <<< format.exponentBits)
  let negative := (bits >>> (format.fractionBits + format.exponentBits)) % 2 = 1
  if field = (1 <<< format.exponentBits) - 1 then
    if fraction = 0 then .infinite negative else .notANumber
  else if field = 0 then
    .finite negative fraction format.lowestExponent
  else
    .finite negative (fraction + (1 <<< format.fractionBits))
      (format.lowestExponent + (field - 1))

/-- A 64-bit number taken apart. -/
def ofDouble (x : Float) : Binary := ofBits .double x.toBits.toNat

/-- A 32-bit number taken apart. -/
def ofSingle (x : Float32) : Binary := ofBits .single x.toBits.toNat

/-- `significand * 2 ^ exponent * factor`, rounded to a natural number. -/
def scaleToNat (mode : Rounding) (significand : Nat) (exponent : Int) (factor : Nat) : Nat :=
  mode.divide ((significand * factor) <<< exponent.toNat) (1 <<< (-exponent).toNat)

/-- The number rounded to an integer and brought into `lowest … highest`; what is no number
becomes zero. -/
def toIntWithin (mode : Rounding) (lowest highest : Int) : Binary → Int
  | .notANumber => 0
  | .infinite negative => if negative then lowest else highest
  | .finite negative significand exponent =>
    let magnitude : Int := scaleToNat mode significand exponent 1
    max lowest (min highest (if negative then -magnitude else magnitude))

end Binary

end LorawanGateway
