import LorawanGateway.Number.Layout
import LorawanGateway.Proofs.Number.ShortestBounds
import LorawanGateway.Proofs.Text.PlainText

/-!
How long the text of a fractional number gets, and how short.
-/

namespace LorawanGateway.DecimalLayout

open LorawanGateway.Text

variable {layout : DecimalLayout} {decimal : Decimal} {digits written : String} {leading : Int}
variable {limit most width : Nat} {format : BinaryFormat} {binary : Binary}

/-- A limit with room for the texts of a layout, for decimals of at most `most` digits and leading
places of at most `width`. -/
structure RoomFor (layout : DecimalLayout) (most width limit : Nat) : Prop where
  small : most + 1 - layout.positionalFrom ≤ limit
  large : layout.positionalBelow + 2 ≤ limit
  scientific : most + 3 + width ≤ limit

theorem within_zeros (count : Nat) : Within count (zeros count) :=
  within_replicate count (by decide)

theorem within_take (plain : Within most digits) (count : Nat) :
    Within (min count digits.length) (String.ofList (digits.toList.take count)) :=
  within_ofList (fun c member => plain.plain c (List.mem_of_mem_take member))
    (by rw [List.length_take, String.length_toList])

theorem within_drop (plain : Within most digits) (count : Nat) :
    Within (digits.length - count) (String.ofList (digits.toList.drop count)) :=
  within_ofList (fun c member => plain.plain c (List.mem_of_mem_drop member))
    (by rw [List.length_drop, String.length_toList])

/-- The positional text of a number whose leading digit is within the positions of a layout. -/
theorem within_positional (plain : Within most digits) (low : layout.positionalFrom ≤ leading)
    (high : leading < layout.positionalBelow) (room : layout.RoomFor most width limit) :
    Within limit (positional digits leading) := by
  obtain ⟨small, large, between⟩ := room
  have short := plain.short
  have whole : Within digits.length digits := ⟨plain.plain, Nat.le_refl _⟩
  have point : Within 1 "." := by decide
  rw [positional]
  split
  · refine (((show Within 2 "0." by decide).append (within_zeros _)).append whole).mono ?_
    omega
  · dsimp only
    split
    · refine ((whole.append (within_zeros _)).append (show Within 2 ".0" by decide)).mono ?_
      omega
    · refine (((within_take plain _).append point).append (within_drop plain _)).mono ?_
      omega

theorem within_scientific (plain : Within most digits) (wide : 0 < width)
    (near : leading.natAbs < 10 ^ width) (room : layout.RoomFor most width limit) :
    Within limit (scientific digits leading) := by
  have short := plain.short
  have enough := room.scientific
  have first := within_take plain 1
  have others := within_drop plain 1
  have fraction : Within (1 + (digits.length - 1))
      (if (String.ofList (digits.toList.drop 1)).isEmpty then ""
        else "." ++ String.ofList (digits.toList.drop 1)) := by
    split
    · exact (show Within 0 "" by decide).mono (Nat.zero_le _)
    · exact (show Within 1 "." by decide).append others
  have sign : Within 2 (if leading < 0 then "e-" else "e+") := by
    split <;> decide
  rw [scientific]
  refine (((first.append fraction).append sign).append (within_toString wide near)).mono ?_
  omega

theorem within_render (few : decimal.digits < 10 ^ most) (some : 0 < most)
    (near : (decimal.exponent + (toString decimal.digits).length - 1).natAbs < 10 ^ width)
    (wide : 0 < width) (room : layout.RoomFor most width limit) :
    Within limit (layout.render decimal) := by
  have plain : Within most (toString decimal.digits) := within_toString some few
  simp only [render]
  split
  · rename_i inside
    exact within_positional plain inside.1 inside.2 room
  · exact within_scientific plain wide near room

theorem three_le_length_positional (some : 0 < digits.length) :
    3 ≤ (positional digits leading).length := by
  have zero : ("0." : String).length = 2 := by decide
  have point : ("." : String).length = 1 := by decide
  have places : (".0" : String).length = 2 := by decide
  rw [positional]
  split
  · simp only [String.length_append, zero]
    omega
  · dsimp only
    split
    · simp only [String.length_append, places]
      omega
    · simp only [String.length_append, String.length_ofList, List.length_take, List.length_drop,
        String.length_toList, point]
      omega

theorem three_le_length_scientific (some : 0 < digits.length) :
    3 ≤ (scientific digits leading).length := by
  have sign : (if leading < 0 then "e-" else "e+").length = 2 := by
    split <;> decide
  simp only [scientific, String.length_append, String.length_ofList, List.length_take,
    String.length_toList, sign]
  omega

theorem length_toString_pos (n : Nat) : 0 < (toString n).length := by
  rw [Nat.toString_eq_ofList_toDigits, String.length_ofList]
  exact Nat.length_toDigits_pos

theorem three_le_length_render (layout : DecimalLayout) (decimal : Decimal) :
    3 ≤ (layout.render decimal).length := by
  have some := length_toString_pos decimal.digits
  simp only [render]
  split
  · exact three_le_length_positional some
  · exact three_le_length_scientific some

theorem bounds_of_ofBits {bits significand : Nat} {exponent : Int} {negative : Bool}
    (taken : Binary.ofBits format bits = .finite negative significand exponent) :
    significand < 2 ^ (format.fractionBits + 1) ∧ format.lowestExponent ≤ exponent ∧
      exponent ≤ format.lowestExponent + (2 ^ format.exponentBits : Nat) := by
  have fraction : bits % 2 ^ format.fractionBits < 2 ^ format.fractionBits :=
    Nat.mod_lt _ (by positivity)
  have field : (bits >>> format.fractionBits) % 2 ^ format.exponentBits <
      2 ^ format.exponentBits := Nat.mod_lt _ (by positivity)
  have double : 2 ^ (format.fractionBits + 1) = 2 * 2 ^ format.fractionBits := Nat.pow_succ'
  simp only [Binary.ofBits, Nat.one_shiftLeft] at taken
  split at taken
  · split at taken <;> cases taken
  · split at taken <;> cases taken <;> omega

/-- How long the texts of the numbers of a format get in a layout. Their decimals have one digit
more than the limit at most, and the exponents `width` digits. -/
theorem within_renderBinary? {stored : Nat} (width limit : Nat) (wide : 0 < width)
    (low : Decimal.digitLimit format - min 0 format.lowestExponent < (10 ^ width : Nat))
    (high : (format.fractionBits + 1 : Nat) + max 0 (format.lowestExponent +
      (2 ^ format.exponentBits : Nat)) + Decimal.digitLimit format < (10 ^ width : Nat))
    (room : layout.RoomFor (Decimal.digitLimit format + 1) width limit)
    (rendered : layout.renderBinary? format (.ofBits format stored) = some written) :
    Within (limit + 1) written := by
  cases taken : Binary.ofBits format stored with
  | notANumber => rw [taken] at rendered; cases rendered
  | infinite negative => rw [taken] at rendered; cases rendered
  | finite negative significand exponent =>
      obtain ⟨small, bottom, top⟩ := bounds_of_ofBits taken
      obtain ⟨digits, least, greatest⟩ :=
        Decimal.shortest_bounds format exponent (Nat.succ_pos _) small
      generalize shortest : Decimal.shortest format significand exponent = decimal
        at digits least greatest
      have few : decimal.digits < 10 ^ (Decimal.digitLimit format + 1) :=
        digits.trans_lt (Nat.pow_lt_pow_right (by decide) (Nat.lt_succ_self _))
      have count : (toString decimal.digits).length ≤ Decimal.digitLimit format + 1 :=
        (within_toString (Nat.succ_pos _) few).short
      have positive : 0 < (toString decimal.digits).length := length_toString_pos _
      have magnitude : Within limit (if significand = 0 then "0.0"
          else layout.render (Decimal.shortest format significand exponent)) := by
        split
        · have enough := room.scientific
          exact (show Within 3 "0.0" by decide).mono (by omega)
        · rw [shortest]
          exact within_render few (Nat.succ_pos _) (by omega) wide room
      rw [taken, renderBinary?, Option.some.injEq] at rendered
      rw [← rendered]
      split
      · exact ((show Within 1 "-" by decide).append magnitude).mono (Nat.add_comm 1 limit).le
      · exact magnitude.mono (Nat.le_succ limit)

theorem three_le_length_renderBinary?
    (rendered : layout.renderBinary? format binary = some written) : 3 ≤ written.length := by
  cases binary with
  | notANumber => cases rendered
  | infinite negative => cases rendered
  | finite negative significand exponent =>
      have magnitude : 3 ≤ (if significand = 0 then "0.0"
          else layout.render (Decimal.shortest format significand exponent)).length := by
        split
        · decide
        · exact three_le_length_render ..
      rw [renderBinary?, Option.some.injEq] at rendered
      rw [← rendered]
      split
      · rw [String.length_append]
        omega
      · exact magnitude

theorem within_renderDouble {x : Float}
    (rendered : double.renderBinary? .double (.ofDouble x) = some written) : Within 26 written :=
  within_renderBinary? 4 25 (by decide) (by decide) (by decide)
    ⟨by decide, by decide, by decide⟩ rendered

theorem within_renderSingle {x : Float32}
    (rendered : single.renderBinary? .single (.ofSingle x) = some written) : Within 18 written :=
  within_renderBinary? 3 17 (by decide) (by decide) (by decide)
    ⟨by decide, by decide, by decide⟩ rendered

end LorawanGateway.DecimalLayout
