import LorawanGateway.Number.Shortest

/-!
How a decimal is laid out as text: positionally with at least one place after the point, or with
one digit before the point and a signed exponent.
-/

namespace LorawanGateway

/-- The decimal exponents of the leading digit that are written positionally, the upper end
excluded. -/
structure DecimalLayout where
  positionalFrom : Int
  positionalBelow : Int

namespace DecimalLayout

/-- Coordinates, frequencies and ratios: positional from `0.00001` up to sixteen places. -/
def double : DecimalLayout := ⟨-5, 16⟩

/-- Signal levels: positional from `0.000001` up to thirteen places. -/
def single : DecimalLayout := ⟨-6, 13⟩

/-- `count` zeros. -/
def zeros (count : Nat) : String := String.ofList (List.replicate count '0')

/-- The digits with the decimal point set so that the leading digit stands for
`10 ^ leading`. -/
def positional (digits : String) (leading : Int) : String :=
  if leading < 0 then "0." ++ zeros (-leading - 1).toNat ++ digits
  else
    let whole := leading.toNat + 1
    if digits.length ≤ whole then digits ++ zeros (whole - digits.length) ++ ".0"
    else String.ofList (digits.toList.take whole) ++ "." ++ String.ofList (digits.toList.drop whole)

/-- One digit, the others behind the point, and the exponent with its sign. -/
def scientific (digits : String) (leading : Int) : String :=
  let fraction := String.ofList (digits.toList.drop 1)
  let mantissa := String.ofList (digits.toList.take 1) ++
    if fraction.isEmpty then "" else "." ++ fraction
  mantissa ++ (if leading < 0 then "e-" else "e+") ++ toString leading.natAbs

def render (layout : DecimalLayout) (decimal : Decimal) : String :=
  let digits := toString decimal.digits
  let leading := decimal.exponent + digits.length - 1
  if layout.positionalFrom ≤ leading ∧ leading < layout.positionalBelow then
    positional digits leading
  else scientific digits leading

/-- A finite number as text; `none` for what is no finite number. -/
def renderBinary? (layout : DecimalLayout) (format : BinaryFormat) : Binary → Option String
  | .finite negative significand exponent =>
    let magnitude :=
      if significand = 0 then "0.0"
      else layout.render (Decimal.shortest format significand exponent)
    some (if negative then "-" ++ magnitude else magnitude)
  | _ => none

end DecimalLayout

end LorawanGateway
