import LorawanGateway.Number.Binary

/-!
The shortest decimal that reads back: of all decimals with the fewest digits that round to a given
binary number, the one nearest to it.
-/

namespace LorawanGateway

/-- The number `digits * 10 ^ exponent`. -/
structure Decimal where
  digits : Nat
  exponent : Int
  deriving DecidableEq, Repr

namespace Decimal

def digitCount (n : Nat) : Nat := (Nat.toDigits 10 n).length

/-- The largest `k` with `10 ^ k` at most `significand * 2 ^ exponent`, for a positive number. -/
def magnitude (significand : Nat) (exponent : Int) : Int :=
  if 0 ≤ exponent then (digitCount (significand <<< exponent.toNat) : Int) - 1
  else (digitCount (significand * Nat.pow 5 (-exponent).toNat) : Int) - 1 + exponent

/-- The reals that round to a binary number, as quarters of its last place: from `low` to `high`,
the ends included when `closed`. -/
structure Cell where
  value : Nat
  low : Nat
  high : Nat
  exponent : Int
  closed : Bool

/-- The cell of a positive finite number. The gap below a power of two is half as wide, unless
the number below is as far away as the one above. -/
def Cell.of (format : BinaryFormat) (significand : Nat) (exponent : Int) : Cell :=
  let narrow := significand = 1 <<< format.fractionBits ∧ format.lowestExponent < exponent
  { value := 4 * significand
    low := 4 * significand - if narrow then 1 else 2
    high := 4 * significand + 2
    exponent := exponent - 2
    closed := significand % 2 = 0 }

/-- The scale factors `(a, b)` under which `digits * 10 ^ grid` and `quarters * 2 ^ exponent`
compare as `digits * a` and `quarters * b`. -/
def scales (grid exponent : Int) : Nat × Nat :=
  (Nat.pow 10 grid.toNat <<< (-exponent).toNat, Nat.pow 10 (-grid).toNat <<< exponent.toNat)

/-- The point of the grid `10 ^ grid` that lies in the cell and is nearest to its number, if one
does; of two equally near the even one. -/
def Cell.nearest? (cell : Cell) (grid : Int) : Option Nat :=
  let (a, b) := scales grid cell.exponent
  let inside (point : Nat) : Bool :=
    if cell.closed then cell.low * b ≤ point * a && point * a ≤ cell.high * b
    else cell.low * b < point * a && point * a < cell.high * b
  let below := cell.value * b / a
  let above := below + 1
  let gapBelow := cell.value * b - below * a
  let gapAbove := above * a - cell.value * b
  let preferBelow := gapBelow < gapAbove || (gapBelow == gapAbove && below % 2 == 0)
  if inside below && (preferBelow || !inside above) then some below
  else if inside above then some above
  else none

/-- Searches `count` grids from coarse to fine; on the grid after them the nearest point is taken
as it is. -/
def searchGrids (cell : Cell) : (count : Nat) → (grid : Int) → Decimal
  | 0, grid =>
    let (a, b) := scales grid cell.exponent
    ⟨Rounding.halfEven.divide (cell.value * b) a, grid⟩
  | count + 1, grid =>
    match cell.nearest? grid with
    | some digits => ⟨digits, grid⟩
    | none => searchGrids cell count (grid - 1)

/-- The most digits a decimal needs to tell the numbers of a format apart. -/
def digitLimit (format : BinaryFormat) : Nat :=
  if format = .single then 9 else 17

/-- The shortest decimal that reads back as the positive number `significand * 2 ^ exponent`. The
coarsest grid is one place above the leading digit, the finest has `digitLimit` digits. -/
def shortest (format : BinaryFormat) (significand : Nat) (exponent : Int) : Decimal :=
  searchGrids (.of format significand exponent) (digitLimit format)
    (magnitude significand exponent + 1)

end Decimal

end LorawanGateway
