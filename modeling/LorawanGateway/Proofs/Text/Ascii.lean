import LorawanGateway.Octets

/-!
Texts as octets, character by character. An ASCII character is one octet, its code.
-/

namespace LorawanGateway.Octets

variable {text : String} {chars : List Char}

theorem toList_loop (bytes : ByteArray) (index : Nat) (before : List UInt8) :
    ByteArray.toList.loop bytes index before = before.reverse ++ bytes.data.toList.drop index := by
  rw [ByteArray.toList.loop]
  split
  · rename_i inside
    have present : index < bytes.data.toList.length := inside
    have octet : bytes.get! index = bytes.data.toList[index] := by
      rw [ByteArray.get!, getElem!_pos bytes.data index inside, Array.getElem_toList]
    rw [toList_loop, List.drop_eq_getElem_cons present, octet, List.reverse_cons,
      List.append_assoc, List.singleton_append]
  · rename_i outside
    have nothing : bytes.data.toList.length ≤ index := Nat.not_lt.mp outside
    rw [List.drop_eq_nil_of_le nothing, List.append_nil]
termination_by bytes.size - index

theorem ofText_eq_flatMap (text : String) :
    ofText text = text.toList.flatMap String.utf8EncodeChar := by
  rw [ofText, String.toUTF8, ← String.utf8Encode_toList, ByteArray.toList, toList_loop,
    List.utf8Encode, List.data_toByteArray, List.reverse_nil, List.nil_append, List.drop_zero]

theorem toText?_ofText (text : String) : toText? (ofText text) = some text := by
  have same : (ofText text).toByteArray = text.toByteArray := by
    rw [ofText_eq_flatMap, ← String.utf8Encode_toList]
    rfl
  rw [toText?, same, String.fromUTF8?, dif_pos text.isValidUTF8]
  rfl

theorem ofText_append (first second : String) :
    ofText (first ++ second) = ofText first ++ ofText second := by
  simp only [ofText_eq_flatMap, String.toList_append, List.flatMap_append]

def IsAscii (chars : List Char) : Prop := ∀ c ∈ chars, c.toNat < 128

theorem ofText_of_isAscii (ascii : IsAscii text.toList) :
    ofText text = text.toList.map fun c => UInt8.ofNat c.toNat := by
  rw [ofText_eq_flatMap]
  generalize text.toList = chars at ascii
  induction chars with
  | nil => rfl
  | cons c rest induction =>
      have first : c.toNat ≤ 127 := Nat.le_of_lt_succ (ascii c List.mem_cons_self)
      have others := induction fun other member => ascii other (List.mem_cons_of_mem c member)
      have single : String.utf8EncodeChar c = [UInt8.ofNat c.toNat] := if_pos first
      rw [List.flatMap_cons, single, others, List.map_cons, List.singleton_append]

/-- Octets that are the UTF-8 form of a text. -/
def IsText (octets : Octets) : Prop := ∃ text, ofText text = octets

theorem IsText.append {first second : Octets} (left : IsText first) (right : IsText second) :
    IsText (first ++ second) := by
  obtain ⟨before, rfl⟩ := left
  obtain ⟨after, rfl⟩ := right
  exact ⟨before ++ after, ofText_append before after⟩

theorem ofText_singleton (c : Char) : ofText (String.singleton c) = String.utf8EncodeChar c := by
  rw [ofText_eq_flatMap, String.toList_singleton, List.flatMap_singleton]

theorem ofText_of_low {octet : UInt8} (low : octet < 0x80) :
    ofText (String.singleton (Char.ofNat octet.toNat)) = [octet] := by
  obtain ⟨⟨word⟩⟩ := octet
  revert word
  decide +kernel

theorem isText_of_low {octets : Octets} (low : ∀ octet ∈ octets, octet < 0x80) : IsText octets := by
  induction octets with
  | nil => exact ⟨"", ofText_eq_flatMap ""⟩
  | cons octet others induction =>
      have first : IsText [octet] := ⟨_, ofText_of_low (low octet List.mem_cons_self)⟩
      exact first.append (induction fun other member => low other (List.mem_cons_of_mem _ member))

/-- Beyond ASCII all octets of a character have their highest bit set. -/
theorem not_low_of_mem_utf8EncodeChar {c : Char} (beyond : ¬ c.toNat < 0x80) {octet : UInt8}
    (member : octet ∈ String.utf8EncodeChar c) : ¬ octet < 0x80 := by
  have high {n : Nat} (least : 0x80 ≤ n) (word : n < 0x100) : ¬ UInt8.ofNat n < 0x80 := by
    rw [UInt8.lt_iff_toNat_lt, UInt8.toNat_ofNat_of_lt' word]
    exact Nat.not_lt.mpr least
  have wide : ¬ c.val.toNat ≤ 0x7F := fun narrow => beyond (Nat.lt_succ_of_le narrow)
  simp only [String.utf8EncodeChar, if_neg wide] at member
  split at member
  · simp only [List.mem_cons, List.not_mem_nil, or_false] at member
    rcases member with rfl | rfl <;> exact high (by omega) (by omega)
  split at member
  · simp only [List.mem_cons, List.not_mem_nil, or_false] at member
    rcases member with rfl | rfl | rfl <;> exact high (by omega) (by omega)
  · simp only [List.mem_cons, List.not_mem_nil, or_false] at member
    rcases member with rfl | rfl | rfl | rfl <;> exact high (by omega) (by omega)

end LorawanGateway.Octets
