import Mathlib.Data.Nat.Digits.Defs
import LorawanGateway.Proofs.Text.Ascii
import LorawanGateway.Text.Base64

/-!
Texts of plain characters, each of which is one octet and stands for itself in JSON, and how long
they get: numbers and base-64 text.
-/

namespace LorawanGateway.Text

variable {first second text : String} {chars : List Char} {limit longer other n : Nat} {c : Char}

/-- Whether a character is one octet that JSON does not escape. -/
def IsPlain (c : Char) : Prop :=
  0x20 ≤ c.toNat ∧ c.toNat < 0x80 ∧ c.toNat ≠ 0x22 ∧ c.toNat ≠ 0x5C

instance : DecidablePred IsPlain := fun _ => inferInstanceAs (Decidable (_ ∧ _))

/-- A text of plain characters, at most `limit` of them. -/
structure Within (limit : Nat) (text : String) : Prop where
  plain : ∀ c ∈ text.toList, IsPlain c
  short : text.length ≤ limit

instance : Decidable (Within limit text) :=
  decidable_of_iff (text.toList.all (IsPlain ·) = true ∧ text.length ≤ limit)
    ⟨fun ⟨plain, short⟩ => ⟨fun c member => of_decide_eq_true (List.all_eq_true.mp plain c member),
      short⟩, fun ⟨plain, short⟩ => ⟨List.all_eq_true.mpr fun c member =>
        decide_eq_true (plain c member), short⟩⟩

theorem Within.mono (within : Within limit text) (more : limit ≤ longer) : Within longer text :=
  ⟨within.plain, within.short.trans more⟩

theorem Within.append (within : Within limit first) (rest : Within other second) :
    Within (limit + other) (first ++ second) where
  plain c member := by
    rw [String.toList_append, List.mem_append] at member
    exact member.elim (within.plain c) (rest.plain c)
  short := by
    rw [String.length_append]
    exact Nat.add_le_add within.short rest.short

theorem within_ofList (plain : ∀ c ∈ chars, IsPlain c) (short : chars.length ≤ limit) :
    Within limit (String.ofList chars) := by
  constructor
  · rwa [String.toList_ofList]
  · rwa [String.length_ofList]

theorem Within.ofText_eq (within : Within limit text) :
    Octets.ofText text = text.toList.map fun c => UInt8.ofNat c.toNat :=
  Octets.ofText_of_isAscii fun c member => (within.plain c member).2.1

/-- A plain text has an octet for each character. -/
theorem Within.length_ofText (within : Within limit text) :
    (Octets.ofText text).length = text.length := by
  rw [within.ofText_eq, List.length_map, String.length_toList]

theorem isPlain_of_isDigit (digit : c.isDigit = true) : IsPlain c := by
  obtain ⟨low, high⟩ := (Bool.and_eq_true ..).mp digit
  have from_ : 48 ≤ c.toNat := of_decide_eq_true low
  have upTo : c.toNat ≤ 57 := of_decide_eq_true high
  rw [IsPlain]
  omega

theorem within_toString {width : Nat} (wide : 0 < width) (below : n < 10 ^ width) :
    Within width (toString n) := by
  rw [Nat.toString_eq_ofList_toDigits]
  refine within_ofList (fun c member => isPlain_of_isDigit ?_) ?_
  · exact Nat.isDigit_of_mem_toDigits (by decide) (by decide) member
  · exact (Nat.length_toDigits_le_iff (by decide) wide).mpr below

theorem within_replicate (count : Nat) (plain : IsPlain c) :
    Within count (String.ofList (List.replicate count c)) := by
  refine within_ofList (fun other member => ?_) (List.length_replicate ..).le
  rwa [List.eq_of_mem_replicate member]

theorem within_integer {width : Nat} {value : Int} (wide : 0 < width)
    (below : value.natAbs < 10 ^ width) : Within (width + 1) (toString value) := by
  rw [Int.toString_eq_repr, Int.repr_eq_if]
  split
  · have small : value.toNat < 10 ^ width := by omega
    exact (within_toString wide small).mono (Nat.le_add_right ..)
  · have small : (-value).toNat < 10 ^ width := by omega
    have sign : Within 1 "-" := by decide
    exact (sign.append (within_toString wide small)).mono (Nat.add_comm 1 width).le

theorem within_natural {width : Nat} (wide : 0 < width) (below : n < 10 ^ width) :
    Within width (toString (n : Int)) :=
  within_toString wide below

end LorawanGateway.Text

namespace LorawanGateway.Base64

theorem isPlain_digit (value : Nat) : Text.IsPlain (digit value) := by
  by_cases small : value < 64
  · revert value
    decide
  · have last : digit value = '/' := by
      rw [digit, if_neg (by omega), if_neg (by omega), if_neg (by omega), if_neg (by omega)]
    rw [last]
    decide

theorem isPlain_padding : Text.IsPlain '=' := by decide

theorem length_encodeChars (octets : Octets) :
    (encodeChars octets).length = 4 * ((octets.length + 2) / 3) := by
  fun_induction encodeChars octets with
  | case1 => rfl
  | case2 => simp
  | case3 => simp
  | case4 a b c rest induction =>
      simp only [List.length_cons, induction]
      omega

theorem isPlain_of_mem_encodeChars (octets : Octets) :
    ∀ c ∈ encodeChars octets, Text.IsPlain c := by
  fun_induction encodeChars octets with
  | case1 => simp
  | case2 => simp [isPlain_digit, isPlain_padding]
  | case3 => simp [isPlain_digit, isPlain_padding]
  | case4 a b c rest induction => simpa [isPlain_digit] using induction

theorem length_encode (octets : Octets) :
    (encode octets).length = 4 * ((octets.length + 2) / 3) := by
  rw [encode, String.length_ofList, length_encodeChars]

theorem within_encode (octets : Octets) :
    Text.Within (4 * ((octets.length + 2) / 3)) (encode octets) :=
  Text.within_ofList (isPlain_of_mem_encodeChars octets) (length_encodeChars octets).le

end LorawanGateway.Base64
