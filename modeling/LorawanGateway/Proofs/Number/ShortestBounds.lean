import Mathlib.Data.Nat.Digits.Defs
import LorawanGateway.Number.Shortest

/-!
How large the shortest decimal of a binary number gets: its digits never exceed the first power of
ten beyond the digit limit, and its exponent stays near the magnitude of the number.
-/

namespace LorawanGateway.Decimal

variable {format : BinaryFormat} {significand n : Nat} {exponent grid : Int} {cell : Cell}
variable {step : Nat}

theorem lt_pow_digitCount (n : Nat) : n < 10 ^ digitCount n :=
  (Nat.length_toDigits_le_iff (by decide) Nat.length_toDigits_pos).mp Nat.le.refl

theorem digitCount_pos (n : Nat) : 0 < digitCount n := Nat.length_toDigits_pos

theorem digitCount_le {width : Nat} (positive : 0 < width) (below : n < 10 ^ width) :
    digitCount n ≤ width :=
  (Nat.length_toDigits_le_iff (by decide) positive).mpr below

/-- The number of a cell is below `10 ^ (grid + step)`, counted in steps of ten from the grid on. -/
def Cell.Below (cell : Cell) (grid : Int) (step : Nat) : Prop :=
  cell.value * (scales grid cell.exponent).2 < 10 ^ step * (scales grid cell.exponent).1

theorem scales_fst_pos (grid exponent : Int) : 0 < (scales grid exponent).1 := by
  simp only [scales, Nat.shiftLeft_eq, Nat.pow_eq]
  positivity

/-- A grid that is ten times finer has ten times as many steps below a number. -/
theorem Cell.Below.finer (below : cell.Below grid step) : cell.Below (grid - 1) (step + 1) := by
  simp only [Cell.Below, scales, Nat.shiftLeft_eq, Nat.pow_eq] at below ⊢
  by_cases coarse : 0 < grid
  · have ten : 10 ^ grid.toNat = 10 * 10 ^ (grid - 1).toNat := by
      rw [← Nat.pow_succ']
      congr 1
      omega
    have whole : (-grid).toNat = 0 := by omega
    have wholeNext : (-(grid - 1)).toNat = 0 := by omega
    rw [ten, whole] at below
    rw [wholeNext]
    calc _ < 10 ^ step * (10 * 10 ^ (grid - 1).toNat * 2 ^ (-cell.exponent).toNat) := below
      _ = _ := by ring
  · have ten : 10 ^ (-(grid - 1)).toNat = 10 * 10 ^ (-grid).toNat := by
      rw [← Nat.pow_succ']
      congr 1
      omega
    have whole : grid.toNat = 0 := by omega
    have wholeNext : (grid - 1).toNat = 0 := by omega
    rw [whole] at below
    rw [ten, wholeNext]
    calc _ = 10 * (cell.value * (10 ^ (-grid).toNat * 2 ^ cell.exponent.toNat)) := by ring
      _ < 10 * (10 ^ step * (10 ^ 0 * 2 ^ (-cell.exponent).toNat)) := by omega
      _ = _ := by ring

theorem Cell.Below.quotient_lt (below : cell.Below grid step) :
    cell.value * (scales grid cell.exponent).2 / (scales grid cell.exponent).1 < 10 ^ step :=
  (Nat.div_lt_iff_lt_mul (scales_fst_pos grid cell.exponent)).mpr below

theorem Cell.Below.nearest?_le (below : cell.Below grid step)
    (found : cell.nearest? grid = some n) : n ≤ 10 ^ step := by
  have quotient := below.quotient_lt
  have choice : ∀ (low high : Bool) (point : Nat), (if low then some point
      else if high then some (point + 1) else none) = some n → n ≤ point + 1 := by
    intro low high point chosen
    cases low <;> cases high <;> simp at chosen <;> omega
  have near : n ≤ cell.value * (scales grid cell.exponent).2 /
      (scales grid cell.exponent).1 + 1 := choice _ _ _ found
  omega

theorem divide_halfEven_le (numerator denominator : Nat) :
    Rounding.halfEven.divide numerator denominator ≤ numerator / denominator + 1 := by
  simp only [Rounding.divide]
  split <;> omega

/-- The search ends on one of its grids, with digits up to the power of ten that belongs to its
finest grid. -/
theorem searchGrids_bounds (count : Nat) (below : cell.Below grid step) :
    (searchGrids cell count grid).digits ≤ 10 ^ (step + count) ∧
      grid - count ≤ (searchGrids cell count grid).exponent ∧
      (searchGrids cell count grid).exponent ≤ grid := by
  induction count generalizing grid step with
  | zero =>
      have rounded := divide_halfEven_le (cell.value * (scales grid cell.exponent).2)
        (scales grid cell.exponent).1
      have quotient := below.quotient_lt
      simp only [searchGrids, Nat.add_zero]
      omega
  | succ count induction =>
      rw [searchGrids]
      cases found : cell.nearest? grid with
      | some digits =>
          have near : digits ≤ 10 ^ step := below.nearest?_le found
          have more : 10 ^ step ≤ 10 ^ (step + (count + 1)) :=
            Nat.pow_le_pow_right (by decide) (Nat.le_add_right ..)
          dsimp only
          omega
      | none =>
          obtain ⟨digits, low, high⟩ := induction below.finer
          have same : step + 1 + count = step + (count + 1) := by omega
          rw [same] at digits
          dsimp only
          omega

/-- A binary number is below the power of ten above its magnitude. -/
theorem below_magnitude (format : BinaryFormat) (significand : Nat) (exponent : Int) :
    (Cell.of format significand exponent).Below (magnitude significand exponent + 1) 0 := by
  simp only [Cell.Below, Cell.of, scales, magnitude, Nat.shiftLeft_eq, Nat.pow_eq, Nat.pow_zero,
    Nat.one_mul]
  by_cases whole : 0 ≤ exponent
  · -- A cell counts in quarters, so its exponent is two less and negative below four.
    obtain ⟨shift, rfl⟩ := Int.eq_ofNat_of_zero_le whole
    rw [if_pos whole, Int.toNat_natCast]
    have below := lt_pow_digitCount (significand * 2 ^ shift)
    generalize digitCount (significand * 2 ^ shift) = width at below
    have up : ((width : Int) - 1 + 1).toNat = width := by omega
    have down : (-((width : Int) - 1 + 1)).toNat = 0 := by omega
    have left : ((shift : Int) - 2).toNat = shift - 2 := by omega
    have right : (-((shift : Int) - 2)).toNat = 2 - shift := by omega
    have quarters : 4 * 2 ^ (shift - 2) = 2 ^ shift * 2 ^ (2 - shift) := by
      rw [← Nat.pow_add, show 4 = 2 ^ 2 by rfl, ← Nat.pow_add]
      congr 1
      omega
    rw [up, down, left, right]
    calc 4 * significand * (10 ^ 0 * 2 ^ (shift - 2))
        = significand * (4 * 2 ^ (shift - 2)) := by ring
      _ = significand * 2 ^ shift * 2 ^ (2 - shift) := by rw [quarters]; ring
      _ < 10 ^ width * 2 ^ (2 - shift) := Nat.mul_lt_mul_of_pos_right below (by positivity)
  · -- The magnitude is that of `significand * 5 ^ places`, with the point moved by `places`.
    obtain ⟨places, same⟩ : ∃ places : Nat, exponent = -(places : Int) :=
      ⟨(-exponent).toNat, by omega⟩
    rw [if_neg whole, same, Int.neg_neg, Int.toNat_natCast]
    have below := lt_pow_digitCount (significand * 5 ^ places)
    generalize digitCount (significand * 5 ^ places) = width at below
    have up : ((width : Int) - 1 + -(places : Int) + 1).toNat = width - places := by omega
    have down : (-((width : Int) - 1 + -(places : Int) + 1)).toNat = places - width := by omega
    have left : (-(places : Int) - 2).toNat = 0 := by omega
    have right : (-(-(places : Int) - 2)).toNat = places + 2 := by omega
    have tens : 10 ^ width * 10 ^ (places - width) =
        5 ^ places * (2 ^ places * 10 ^ (width - places)) := by
      rw [← Nat.pow_add, ← Nat.mul_assoc, ← Nat.mul_pow, ← Nat.pow_add]
      congr 1
      omega
    have scaled : significand * 10 ^ (places - width) < 2 ^ places * 10 ^ (width - places) := by
      refine Nat.lt_of_mul_lt_mul_left (a := 5 ^ places) ?_
      calc 5 ^ places * (significand * 10 ^ (places - width))
          = significand * 5 ^ places * 10 ^ (places - width) := by ring
        _ < 10 ^ width * 10 ^ (places - width) :=
            Nat.mul_lt_mul_of_pos_right below (by positivity)
        _ = _ := tens
    rw [up, down, left, right, Nat.pow_add]
    calc 4 * significand * (10 ^ (places - width) * 2 ^ 0)
        = 4 * (significand * 10 ^ (places - width)) := by ring
      _ < 4 * (2 ^ places * 10 ^ (width - places)) := by omega
      _ = _ := by ring

/-- The magnitude of a number with a bounded significand stays near its exponent. -/
theorem magnitude_bounds {width : Nat} (exponent : Int) (wide : 0 < width)
    (small : significand < 2 ^ width) :
    min 0 exponent ≤ magnitude significand exponent ∧
      magnitude significand exponent < width + max 0 exponent := by
  rw [magnitude]
  split
  · rename_i whole
    obtain ⟨shift, rfl⟩ := Int.eq_ofNat_of_zero_le whole
    rw [Int.toNat_natCast, Nat.shiftLeft_eq]
    have some := digitCount_pos (significand * 2 ^ shift)
    have few : digitCount (significand * 2 ^ shift) ≤ width + shift := by
      refine digitCount_le (by omega) ?_
      calc significand * 2 ^ shift < 2 ^ width * 2 ^ shift :=
            Nat.mul_lt_mul_of_pos_right small (by positivity)
        _ = 2 ^ (width + shift) := (Nat.pow_add ..).symm
        _ ≤ 10 ^ (width + shift) := Nat.pow_le_pow_left (by decide) _
    omega
  · rename_i fraction
    obtain ⟨places, same⟩ : ∃ places : Nat, exponent = -(places : Int) :=
      ⟨(-exponent).toNat, by omega⟩
    rw [same, Int.neg_neg, Int.toNat_natCast, Nat.pow_eq]
    have some := digitCount_pos (significand * 5 ^ places)
    have few : digitCount (significand * 5 ^ places) ≤ width + places := by
      refine digitCount_le (by omega) ?_
      calc significand * 5 ^ places < 2 ^ width * 5 ^ places :=
            Nat.mul_lt_mul_of_pos_right small (by positivity)
        _ ≤ 10 ^ width * 10 ^ places :=
            Nat.mul_le_mul (Nat.pow_le_pow_left (by decide) _) (Nat.pow_le_pow_left (by decide) _)
        _ = 10 ^ (width + places) := (Nat.pow_add ..).symm
    omega

/-- The shortest decimal of a number with a bounded significand. -/
theorem shortest_bounds {width : Nat} (format : BinaryFormat) (exponent : Int)
    (wide : 0 < width) (small : significand < 2 ^ width) :
    (shortest format significand exponent).digits ≤ 10 ^ digitLimit format ∧
      min 0 exponent + 1 - digitLimit format ≤ (shortest format significand exponent).exponent ∧
      (shortest format significand exponent).exponent ≤ width + max 0 exponent := by
  have size := magnitude_bounds exponent wide small
  have found := searchGrids_bounds (digitLimit format)
    (below_magnitude format significand exponent)
  rw [Nat.zero_add] at found
  rw [shortest]
  omega

end LorawanGateway.Decimal
