import Mathlib.Data.String.Basic
import LorawanGateway.Proofs.Text.Ascii

/-!
The order of texts is that of their octets. A character of a higher code is written with a higher
octet at the first place where the two forms differ, so neither form begins with the other one, and
texts compare as their octets do: in order, and in what they begin with.
-/

namespace LorawanGateway.Octets

variable {first second before after : Octets} {low high code other : Nat} {c d : Char}

/-- Two runs differ at a place, and the first one has the lower octet at the first such place. -/
inductive Below : Octets → Octets → Prop where
  | here {octet higher : UInt8} {rest others : Octets} (less : octet < higher) :
      Below (octet :: rest) (higher :: others)
  | later {octet : UInt8} {rest others : Octets} (below : Below rest others) :
      Below (octet :: rest) (octet :: others)

namespace Below

theorem append (below : Below first second) (before after : Octets) :
    Below (first ++ before) (second ++ after) := by
  induction below with
  | here less => exact .here less
  | later _ induction => exact .later induction

theorem lt (below : Below first second) : first < second := by
  induction below with
  | here less => exact List.Lex.rel less
  | later _ induction => exact List.Lex.cons induction

theorem neither_begins (below : Below first second) :
    ¬ first <+: second ∧ ¬ second <+: first := by
  induction below with
  | here less =>
      have differ := UInt8.ne_of_lt less
      exact ⟨fun begins => differ (List.cons_prefix_cons.mp begins).1,
        fun begins => differ.symm (List.cons_prefix_cons.mp begins).1⟩
  | later _ induction =>
      exact ⟨fun begins => induction.1 (List.cons_prefix_cons.mp begins).2,
        fun begins => induction.2 (List.cons_prefix_cons.mp begins).2⟩

end Below

section Characters

/-- How many octets follow the first one of a character. -/
def followers (code : Nat) : Nat :=
  if code ≤ 0x7F then 0 else if code ≤ 0x7FF then 1 else if code ≤ 0xFFFF then 2 else 3

/-- The first octet of a character. -/
def leader (code : Nat) : Nat :=
  if code ≤ 0x7F then code
  else if code ≤ 0x7FF then code / 64 + 0xC0
  else if code ≤ 0xFFFF then code / 4096 + 0xE0
  else code / 262144 + 0xF0

/-- The last octets of a character, six bits in each. -/
def following : (count code : Nat) → Octets
  | 0, _ => []
  | count + 1, code => UInt8.ofNat (code / 64 ^ count % 64 + 0x80) :: following count code

theorem toNat_lt_utmost (c : Char) : c.toNat < 0x110000 := by
  have valid := c.valid
  rcases valid with small | ⟨-, large⟩
  · exact Nat.lt_trans small (by decide)
  · exact large

theorem utf8EncodeChar_eq (c : Char) : String.utf8EncodeChar c =
    UInt8.ofNat (leader c.toNat) :: following (followers c.toNat) c.toNat := by
  have utmost : c.val.toNat < 0x110000 := toNat_lt_utmost c
  change _ = UInt8.ofNat (leader c.val.toNat) :: following (followers c.val.toNat) c.val.toNat
  rw [String.utf8EncodeChar]
  generalize c.val.toNat = code at utmost
  unfold leader followers
  split
  · rfl
  split
  · have top : code / 64 % 32 = code / 64 := Nat.mod_eq_of_lt (by omega)
    simp only [following, top, pow_zero, Nat.div_one]
  split
  · have top : code / 4096 % 16 = code / 4096 := Nat.mod_eq_of_lt (by omega)
    simp only [following, top, pow_zero, pow_one, Nat.div_one]
  · have top : code / 262144 % 8 = code / 262144 := Nat.mod_eq_of_lt (by omega)
    have square : 64 ^ 2 = 4096 := rfl
    simp only [following, top, pow_zero, pow_one, square, Nat.div_one]

theorem leader_lt (utmost : code < 0x110000) : leader code < 256 := by
  unfold leader
  split_ifs <;> omega

/-- A higher code has a higher first octet, or as many octets and a higher rest. -/
theorem leader_lt_or (less : low < high) (utmost : high < 0x110000) :
    leader low < leader high ∨ leader low = leader high ∧ followers low = followers high ∧
      low % 64 ^ followers high < high % 64 ^ followers high := by
  unfold leader followers
  split_ifs <;> omega

theorem following_below {count : Nat} (less : low % 64 ^ count < high % 64 ^ count) :
    Below (following count low) (following count high) := by
  induction count with
  | zero => simp [Nat.mod_one] at less
  | succ count induction =>
      rw [Nat.mod_pow_succ, Nat.mod_pow_succ] at less
      have word (code : Nat) : code / 64 ^ count % 64 + 0x80 < 256 := by omega
      have remainder := Nat.mod_lt high (Nat.pow_pos (n := count) (by decide : 0 < 64))
      rcases Nat.lt_trichotomy (low / 64 ^ count % 64) (high / 64 ^ count % 64)
        with lower | same | higher
      · refine .here ?_
        rw [UInt8.ofNat_lt_iff_lt (word low) (word high)]
        exact Nat.add_lt_add_right lower 0x80
      · rw [same] at less
        rw [following, following, same]
        exact .later (induction (Nat.lt_of_add_lt_add_right less))
      · have above := Nat.mul_le_mul_left (64 ^ count) (Nat.succ_le_of_lt higher)
        rw [Nat.mul_succ] at above
        omega

theorem utf8EncodeChar_below (less : c < d) :
    Below (String.utf8EncodeChar c) (String.utf8EncodeChar d) := by
  have lower : c.toNat < d.toNat := less
  rw [utf8EncodeChar_eq, utf8EncodeChar_eq]
  rcases leader_lt_or lower (toNat_lt_utmost d) with front | ⟨front, long, rest⟩
  · refine .here ?_
    rwa [UInt8.ofNat_lt_iff_lt (leader_lt (toNat_lt_utmost c)) (leader_lt (toNat_lt_utmost d))]
  · rw [front, long]
    exact .later (following_below rest)

end Characters

section Texts

variable {text start : String} {chars others : List Char}

theorem flatMap_lt (less : chars < others) :
    chars.flatMap String.utf8EncodeChar < others.flatMap String.utf8EncodeChar := by
  change List.Lex (· < ·) chars others at less
  induction less with
  | @nil d rest =>
      rw [List.flatMap_cons, utf8EncodeChar_eq]
      exact List.Lex.nil
  | rel lower => exact ((utf8EncodeChar_below lower).append ..).lt
  | cons _ induction =>
      rw [List.flatMap_cons, List.flatMap_cons]
      exact List.append_left_lt induction

theorem prefix_of_flatMap
    (begins : chars.flatMap String.utf8EncodeChar <+: others.flatMap String.utf8EncodeChar) :
    chars <+: others := by
  induction chars generalizing others with
  | nil => exact List.nil_prefix
  | cons c rest induction =>
      rw [List.flatMap_cons] at begins
      cases others with
      | nil =>
          rw [utf8EncodeChar_eq] at begins
          exact absurd (List.prefix_nil.mp begins) (List.cons_ne_nil _ _)
      | cons d others =>
          rw [List.flatMap_cons] at begins
          rcases lt_trichotomy c d with lower | rfl | higher
          · exact absurd begins ((utf8EncodeChar_below lower).append ..).neither_begins.1
          · rw [List.prefix_append_right_inj] at begins
            exact List.cons_prefix_cons.mpr ⟨rfl, induction begins⟩
          · exact absurd begins ((utf8EncodeChar_below higher).append ..).neither_begins.2

/-- Texts are in the order of their octets. -/
theorem ofText_lt_iff {text other : String} : ofText text < ofText other ↔ text < other := by
  have ordered {text other : String} (less : text < other) : ofText text < ofText other := by
    rw [ofText_eq_flatMap, ofText_eq_flatMap]
    exact flatMap_lt less
  refine ⟨fun less => ?_, ordered⟩
  rcases lt_trichotomy text other with lower | rfl | higher
  · exact lower
  · exact absurd less (List.lt_irrefl _)
  · exact absurd less (List.lt_asymm (ordered higher))

/-- A text begins with another one just when its octets do. -/
theorem ofText_prefix_iff : ofText start <+: ofText text ↔ start.toList <+: text.toList := by
  rw [ofText_eq_flatMap, ofText_eq_flatMap]
  refine ⟨prefix_of_flatMap, ?_⟩
  rintro ⟨rest, split⟩
  rw [← split, List.flatMap_append]
  exact List.prefix_append ..

end Texts

end LorawanGateway.Octets
