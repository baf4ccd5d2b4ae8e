import Mathlib.Algebra.Order.Floor.Div
import LorawanGateway.Proofs.Text.Base64Inverse
import LorawanGateway.Proofs.Text.PlainText
import LorawanGateway.Proofs.Text.Trimming

/-!
What base-64 text looks like. The bits of the octets are cut into sixes, with zeros behind the last
ones, each six are a character of the alphabet, and padding fills the last group of four. Octets
have one text of this form, and it is the one that is written for them and read as them.
-/

namespace LorawanGateway.Base64

variable {octets : Octets} {chars others : List Char} {width x y : Nat}

/-- The characters in the order of their values. -/
def alphabet : List Char :=
  "ABCDEFGHIJKLMNOPQRSTUVWXYZabcdefghijklmnopqrstuvwxyz0123456789+/".toList

/-- The low bits of a number, the most significant one first. -/
def bits : (width value : Nat) → List Bool
  | 0, _ => []
  | width + 1, value => value.testBit width :: bits width value

/-- Characters that spell octets, taken apart: the values of the digits, the zero bits behind those
of the octets, and the padding. -/
structure Parts (octets : Octets) (chars : List Char) (values : List Nat)
    (unused padding : Nat) : Prop where
  small : ∀ value ∈ values, value < 64
  written : chars = values.map (alphabet.getD · '=') ++ List.replicate padding '='
  carried : values.flatMap (bits 6) =
    octets.flatMap (fun octet => bits 8 octet.toNat) ++ List.replicate unused false
  fewZeros : unused < 6
  grouped : chars.length % 4 = 0
  fewFillers : padding < 4

def Spells (chars : List Char) (octets : Octets) : Prop :=
  ∃ values unused padding, Parts octets chars values unused padding

section Bits

theorem length_bits (width value : Nat) : (bits width value).length = width := by
  induction width with
  | zero => rfl
  | succ width induction => rw [bits, List.length_cons, induction]

theorem bits_congr (same : ∀ place < width, x.testBit place = y.testBit place) :
    bits width x = bits width y := by
  induction width with
  | zero => rfl
  | succ width induction =>
      rw [bits, bits, same width (Nat.lt_succ_self width),
        induction fun place below => same place (Nat.lt_succ_of_lt below)]

theorem bits_add (high low value : Nat) :
    bits (high + low) value = bits high (value / 2 ^ low) ++ bits low (value % 2 ^ low) := by
  induction high with
  | zero =>
      rw [Nat.zero_add, bits, List.nil_append]
      refine bits_congr fun place below => ?_
      rw [Nat.testBit_mod_two_pow, decide_eq_true below, Bool.true_and]
  | succ high induction =>
      rw [Nat.succ_add, bits, bits, List.cons_append, induction, Nat.testBit_div_two_pow]

theorem testBit_eq_of_bits_eq (same : bits width x = bits width y) :
    ∀ place < width, x.testBit place = y.testBit place := by
  induction width with
  | zero => exact fun _ => nofun
  | succ width induction =>
      obtain ⟨first, others⟩ := List.cons.inj same
      intro place below
      rcases Nat.lt_succ_iff_lt_or_eq.mp below with lower | rfl
      · exact induction others place lower
      · exact first

theorem bits_injective (smallX : x < 2 ^ width) (smallY : y < 2 ^ width)
    (same : bits width x = bits width y) : x = y := by
  refine Nat.eq_of_testBit_eq fun place => ?_
  rcases Nat.lt_or_ge place width with below | beyond
  · exact testBit_eq_of_bits_eq same place below
  · have wide := Nat.pow_le_pow_right (by decide : 2 > 0) beyond
    rw [Nat.testBit_lt_two_pow (smallX.trans_le wide),
      Nat.testBit_lt_two_pow (smallY.trans_le wide)]

theorem length_flatMap_bits (width : Nat) (values : List Nat) :
    (values.flatMap (bits width)).length = width * values.length := by
  rw [List.length_flatMap]
  induction values with
  | nil => rfl
  | cons value values induction =>
      rw [List.map_cons, List.sum_cons, induction, length_bits, List.length_cons]
      rw [Nat.mul_succ, Nat.add_comm]

/-- Numbers are told by their bits, one after the other. -/
theorem flatMap_bits_injective {first second : List Nat} (smallFirst : ∀ x ∈ first, x < 2 ^ width)
    (smallSecond : ∀ y ∈ second, y < 2 ^ width) (long : first.length = second.length)
    (same : first.flatMap (bits width) = second.flatMap (bits width)) : first = second := by
  induction first generalizing second with
  | nil => exact (List.eq_nil_of_length_eq_zero long.symm).symm
  | cons x first induction =>
      cases second with
      | nil => cases long
      | cons y second =>
          have wide : (bits width x).length = (bits width y).length := by
            rw [length_bits, length_bits]
          obtain ⟨front, rest⟩ := List.append_inj same wide
          have head : x = y := bits_injective (smallFirst x List.mem_cons_self)
            (smallSecond y List.mem_cons_self) front
          have tail : first = second := induction
            (fun x member => smallFirst x (List.mem_cons_of_mem _ member))
            (fun y member => smallSecond y (List.mem_cons_of_mem _ member))
            (Nat.succ.inj long) rest
          rw [head, tail]

end Bits

theorem digit_eq (small : x < 64) : digit x = alphabet.getD x '=' := by
  revert x
  decide +kernel

/-- Octets have one text of this form only. -/
theorem Spells.unique (spelled : Spells chars octets) (again : Spells others octets) :
    chars = others := by
  obtain ⟨values, unused, padding, parts⟩ := spelled
  obtain ⟨values', unused', padding', parts'⟩ := again
  have count := congrArg List.length parts.carried
  have count' := congrArg List.length parts'.carried
  rw [length_flatMap_bits, List.length_append, List.length_replicate] at count count'
  have few := parts.fewZeros
  have few' := parts'.fewZeros
  -- The zeros fill up the last six bits, so the octets determine how many there are.
  have digits : values.length = values'.length := by omega
  have zeros : unused = unused' := by omega
  have same : values = values' := by
    have carried := parts.carried
    rw [zeros, ← parts'.carried] at carried
    exact flatMap_bits_injective parts.small parts'.small digits carried
  have size := parts.grouped
  have size' := parts'.grouped
  have bound := parts.fewFillers
  have bound' := parts'.fewFillers
  rw [parts.written, List.length_append, List.length_map, List.length_replicate] at size
  rw [parts'.written, List.length_append, List.length_map, List.length_replicate] at size'
  have fillers : padding = padding' := by omega
  rw [parts.written, parts'.written, same, fillers]

section Written

theorem bits_digit (high low : Nat) {first second : Nat} (small : second < 2 ^ low) :
    bits (high + low) (first * 2 ^ low + second) = bits high first ++ bits low second := by
  rw [bits_add, Nat.mul_comm, Nat.mul_add_div (Nat.two_pow_pos low), Nat.mul_add_mod,
    Nat.div_eq_of_lt small, Nat.mod_eq_of_lt small, Nat.add_zero]

/-- The second digit of a group has two bits of the first octet and four of the second one. -/
theorem bits_secondDigit {first second : Nat} (small : second < 16) :
    bits 6 (first * 16 + second) = bits 2 first ++ bits 4 second :=
  bits_digit 2 4 small

theorem bits_thirdDigit {second third : Nat} (small : third < 4) :
    bits 6 (second * 4 + third) = bits 4 second ++ bits 2 third :=
  bits_digit 4 2 small

/-- The octets of a group are cut behind their sixth, fourth and second bit. -/
theorem bits_firstOctet (value : Nat) :
    bits 8 value = bits 6 (value / 4) ++ bits 2 (value % 4) :=
  bits_add 6 2 value

theorem bits_secondOctet (value : Nat) :
    bits 8 value = bits 4 (value / 16) ++ bits 4 (value % 16) :=
  bits_add 4 4 value

theorem bits_thirdOctet (value : Nat) :
    bits 8 value = bits 2 (value / 64) ++ bits 6 (value % 64) :=
  bits_add 2 6 value

theorem parts_nil : Parts [] [] [] 0 0 where
  small := fun _ => nofun
  written := rfl
  carried := rfl
  fewZeros := by decide
  grouped := rfl
  fewFillers := by decide

theorem parts_one (a : UInt8) :
    Parts [a] (encodeChars [a]) [a.toNat / 4, a.toNat % 4 * 16] 4 2 where
  small := by
    have below := a.toNat_lt
    simp only [List.forall_mem_cons, List.not_mem_nil, false_imp_iff, implies_true, and_true]
    omega
  written := by
    have below := a.toNat_lt
    rw [encodeChars, digit_eq (by omega), digit_eq (by omega)]
    rfl
  carried := by
    have last : bits 6 (a.toNat % 4 * 16) = bits 2 (a.toNat % 4) ++ bits 4 0 := by
      rw [← bits_secondDigit (by decide), Nat.add_zero]
    rw [List.flatMap_cons, List.flatMap_singleton, List.flatMap_singleton, last,
      bits_firstOctet, List.append_assoc]
    rfl
  fewZeros := by decide
  grouped := by rw [length_encodeChars, Nat.mul_mod_right]
  fewFillers := by decide

theorem parts_two (a b : UInt8) : Parts [a, b] (encodeChars [a, b])
    [a.toNat / 4, a.toNat % 4 * 16 + b.toNat / 16, b.toNat % 16 * 4] 2 1 where
  small := by
    have belowA := a.toNat_lt
    have belowB := b.toNat_lt
    simp only [List.forall_mem_cons, List.not_mem_nil, false_imp_iff, implies_true, and_true]
    omega
  written := by
    have belowA := a.toNat_lt
    have belowB := b.toNat_lt
    rw [encodeChars, digit_eq (by omega), digit_eq (by omega), digit_eq (by omega)]
    rfl
  carried := by
    have belowB := b.toNat_lt
    have second : bits 6 (a.toNat % 4 * 16 + b.toNat / 16) =
        bits 2 (a.toNat % 4) ++ bits 4 (b.toNat / 16) := bits_secondDigit (by omega)
    have last : bits 6 (b.toNat % 16 * 4) = bits 4 (b.toNat % 16) ++ bits 2 0 := by
      rw [← bits_thirdDigit (by decide), Nat.add_zero]
    simp only [List.flatMap_cons, List.flatMap_nil, List.append_nil, List.append_assoc, second,
      last, bits_firstOctet a.toNat, bits_secondOctet b.toNat]
    rfl
  fewZeros := by decide
  grouped := by rw [length_encodeChars, Nat.mul_mod_right]
  fewFillers := by decide

theorem Parts.group {rest : Octets} {values : List Nat} {unused padding : Nat}
    (parts : Parts rest chars values unused padding) (a b c : UInt8) :
    Parts (a :: b :: c :: rest)
      (digit (a.toNat / 4) :: digit (a.toNat % 4 * 16 + b.toNat / 16) ::
        digit (b.toNat % 16 * 4 + c.toNat / 64) :: digit (c.toNat % 64) :: chars)
      (a.toNat / 4 :: (a.toNat % 4 * 16 + b.toNat / 16) :: (b.toNat % 16 * 4 + c.toNat / 64) ::
        c.toNat % 64 :: values) unused padding where
  small := by
    have belowA := a.toNat_lt
    have belowB := b.toNat_lt
    have belowC := c.toNat_lt
    simp only [List.forall_mem_cons]
    refine ⟨?_, ?_, ?_, ?_, parts.small⟩ <;> omega
  written := by
    have belowA := a.toNat_lt
    have belowB := b.toNat_lt
    have belowC := c.toNat_lt
    rw [digit_eq (by omega), digit_eq (by omega), digit_eq (by omega), digit_eq (by omega),
      parts.written]
    rfl
  carried := by
    have belowB := b.toNat_lt
    have belowC := c.toNat_lt
    have second : bits 6 (a.toNat % 4 * 16 + b.toNat / 16) =
        bits 2 (a.toNat % 4) ++ bits 4 (b.toNat / 16) := bits_secondDigit (by omega)
    have third : bits 6 (b.toNat % 16 * 4 + c.toNat / 64) =
        bits 4 (b.toNat % 16) ++ bits 2 (c.toNat / 64) := bits_thirdDigit (by omega)
    simp only [List.flatMap_cons, List.append_assoc, second, third, bits_firstOctet a.toNat,
      bits_secondOctet b.toNat, bits_thirdOctet c.toNat, parts.carried]
  fewZeros := parts.fewZeros
  grouped := by
    have whole := parts.grouped
    simp only [List.length_cons]
    omega
  fewFillers := parts.fewFillers

theorem spells_encodeChars (octets : Octets) : Spells (encodeChars octets) octets := by
  fun_induction encodeChars octets with
  | case1 => exact ⟨_, _, _, parts_nil⟩
  | case2 a => exact ⟨_, _, _, parts_one a⟩
  | case3 a b => exact ⟨_, _, _, parts_two a b⟩
  | case4 a b c rest induction =>
      obtain ⟨values, unused, padding, parts⟩ := induction
      exact ⟨_, _, _, parts.group a b c⟩

end Written

theorem spells_iff : Spells chars octets ↔ encodeChars octets = chars := by
  constructor
  · exact (spells_encodeChars octets).unique
  · rintro rfl
    exact spells_encodeChars octets

theorem isBlank_digit (small : x < 64) : Text.isBlank (digit x) = false := by
  revert x
  decide +kernel

theorem not_blank_of_spells (spelled : Spells chars octets) :
    ∀ c ∈ chars, Text.isBlank c = false := by
  obtain ⟨values, unused, padding, parts⟩ := spelled
  intro c member
  rw [parts.written, List.mem_append] at member
  rcases member with digits | fillers
  · obtain ⟨value, present, rfl⟩ := List.mem_map.mp digits
    have small := parts.small value present
    rw [← digit_eq small]
    exact isBlank_digit small
  · rw [List.eq_of_mem_replicate fillers]
    decide

theorem trim_encode (octets : Octets) : Text.trim (encode octets) = encode octets := by
  refine Text.trim_of_solid ?_
  rw [encode, String.toList_ofList]
  exact not_blank_of_spells (spells_encodeChars octets)

/-- Octets are read back from the text written for them, four characters for three octets. They are
read from no other text, blanks around it aside, and it is the text that spells them. -/
theorem payload_spelled_one_way (octets : Octets) :
    decodePayload? (encode octets) = some octets ∧
    (encode octets).length = 4 * (octets.length ⌈/⌉ 3) ∧
    ∀ text, (decodePayload? text = some octets ↔ encode octets = Text.trim text) ∧
      (decodePayload? text = some octets ↔ Spells (Text.trim text).toList octets) := by
  have read {text : String} :
      decodePayload? text = some octets ↔ encode octets = Text.trim text :=
    decodePayload?_eq_some_iff
  refine ⟨read.mpr (trim_encode octets).symm, ?_, fun text => ⟨read, ?_⟩⟩
  · rw [length_encode, Nat.ceilDiv_eq_add_pred_div, Nat.add_sub_assoc (by decide)]
  · rw [read, spells_iff, encode, ← String.toList_inj, String.toList_ofList]

/-- A text with a bit in the unused place, and one without its padding, spell nothing. -/
example : decodePayload? " QQ==\n" = some [0x41] ∧ decodePayload? "QR==" = none ∧
    decodePayload? "QQ" = none := by
  decide +kernel

end LorawanGateway.Base64
