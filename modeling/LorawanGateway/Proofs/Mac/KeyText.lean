import LorawanGateway.Mac.Key
import LorawanGateway.Proofs.Mac.Keystream
import LorawanGateway.Proofs.Text.Ascii
import LorawanGateway.Proofs.Text.Trimming

/-!
Keys stored as hexadecimal text. A key is read back from any spelling of it: digits of either case,
with blanks before and after them.
-/

namespace LorawanGateway

variable {text : String} {before digits after : List Char} {octets : Octets} {code value : Nat}

namespace Hex

/-- Two digits for each octet, the upper half first, in either case. -/
inductive Spells : List Char → Octets → Prop where
  | nil : Spells [] []
  | cons {high low : Char} {digits : List Char} {octet : UInt8} {octets : Octets}
      (upper : digitValue? high.toNat = some (octet.toNat / 16))
      (lower : digitValue? low.toNat = some (octet.toNat % 16)) (rest : Spells digits octets) :
      Spells (high :: low :: digits) (octet :: octets)

theorem spells_cons_iff {high low : Char} {octet : UInt8} :
    Spells (high :: low :: digits) (octet :: octets) ↔
      digitValue? high.toNat = some (octet.toNat / 16) ∧
        digitValue? low.toNat = some (octet.toNat % 16) ∧ Spells digits octets :=
  ⟨fun | .cons upper lower rest => ⟨upper, lower, rest⟩,
    fun ⟨upper, lower, rest⟩ => .cons upper lower rest⟩

instance : (digits : List Char) → (octets : Octets) → Decidable (Spells digits octets)
  | [], [] => isTrue .nil
  | _ :: _ :: digits, _ :: octets =>
    have := instDecidableSpells digits octets
    decidable_of_iff' _ spells_cons_iff
  | [], _ :: _ | [_], [] | [_], _ :: _ | _ :: _ :: _, [] => isFalse nofun

theorem range_of_digitValue? (digit : digitValue? code = some value) :
    0x30 ≤ code ∧ code ≤ 0x66 := by
  rw [digitValue?] at digit
  split at digit
  · rename_i decimal
    simp only [Bool.and_eq_true, decide_eq_true_eq] at decimal
    omega
  · split at digit
    · rename_i lower
      simp only [Bool.and_eq_true, decide_eq_true_eq] at lower
      omega
    · split at digit
      · rename_i upper
        simp only [Bool.and_eq_true, decide_eq_true_eq] at upper
        omega
      · cases digit

theorem Spells.range (spelled : Spells digits octets) :
    ∀ c ∈ digits, 0x30 ≤ c.toNat ∧ c.toNat ≤ 0x66 := by
  induction spelled with
  | nil => exact nofun
  | cons upper lower rest induction =>
      intro c member
      rcases List.mem_cons.mp member with rfl | member
      · exact range_of_digitValue? upper
      · rcases List.mem_cons.mp member with rfl | member
        · exact range_of_digitValue? lower
        · exact induction c member

theorem Spells.isAscii (spelled : Spells digits octets) : Octets.IsAscii digits := by
  intro c member
  have within := spelled.range c member
  omega

theorem Spells.length_eq (spelled : Spells digits octets) :
    digits.length = 2 * octets.length := by
  induction spelled with
  | nil => rfl
  | cons upper lower rest induction =>
      simp only [List.length_cons, induction]
      omega

theorem digitValue?_octet (digit : digitValue? code = some value) :
    digitValue? (UInt8.ofNat code).toNat = some value := by
  have within := range_of_digitValue? digit
  rwa [UInt8.toNat_ofNat_of_lt' (Nat.lt_of_le_of_lt within.2 (by decide))]

theorem decodeFrom_of_spells (spelled : Spells digits octets) (position : Nat) :
    decodeFrom position (digits.map fun c => UInt8.ofNat c.toNat) = .ok octets := by
  induction spelled generalizing position with
  | nil => rfl
  | @cons high low digits octet octets upper lower rest induction =>
      have whole : 16 * (octet.toNat / 16) + octet.toNat % 16 = octet.toNat :=
        Nat.div_add_mod ..
      simp only [List.map_cons, decodeFrom, digitValue?_octet upper, digitValue?_octet lower,
        induction, whole, UInt8.ofNat_toNat]
      rfl

theorem decode_of_spells (spelled : Spells text.toList octets) : decode text = .ok octets := by
  have even : ¬ (text.toList.map fun c => UInt8.ofNat c.toNat).length % 2 = 1 := by
    rw [List.length_map, spelled.length_eq]
    omega
  rw [decode, Octets.ofText_of_isAscii spelled.isAscii, if_neg even, decodeFrom_of_spells spelled]

end Hex

theorem Hex.Spells.not_blank (spelled : Hex.Spells digits octets) :
    ∀ c ∈ digits, Text.isBlank c = false := by
  intro c member
  have within := spelled.range c member
  simp only [Text.isBlank, Bool.or_eq_false_iff, Bool.and_eq_false_iff, decide_eq_false_iff_not,
    beq_eq_false_iff_ne]
  omega

namespace Key

/-- A text that spells a key, with nothing but blanks around the digits. -/
def SpelledBy (key : Key) (text : String) : Prop :=
  ∃ before digits after, text.toList = before ++ (digits ++ after) ∧
    (∀ c ∈ before ++ after, Text.isBlank c = true) ∧ Hex.Spells digits key.toList

theorem ofHex_eq_ok {key : Key} (spelled : key.SpelledBy text) : ofHex text = .ok key := by
  obtain ⟨before, digits, after, split, blank, spelled⟩ := spelled
  have long := spelled.length_eq
  rw [Vector.length_toList] at long
  have trimmed : (Text.trim text).toList = digits := by
    rw [Text.trim, String.toList_ofList, split]
    exact Text.trimChars_append (List.ne_nil_of_length_pos (by omega))
      (fun c member => blank c (List.mem_append_left after member))
      (fun c member => blank c (List.mem_append_right before member)) spelled.not_blank
  rw [← trimmed] at spelled
  simp only [ofHex, Hex.decode_of_spells spelled, ofOctets_toList]

end Key

end LorawanGateway
