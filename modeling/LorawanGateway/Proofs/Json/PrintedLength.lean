import LorawanGateway.Json.Printer
import LorawanGateway.Proofs.Number.LayoutLength

/-!
How long JSON values get in print: plain texts, numbers of bounded size, and objects from their
members.
-/

namespace LorawanGateway.Json

open LorawanGateway.Text

variable {text name : String} {limit width n : Nat} {value : Int} {octet : UInt8} {α : Type}
variable {members : List (String × Json)}

theorem escapeOctet_of_isPlain {c : Char} (plain : IsPlain c) :
    escapeOctet (UInt8.ofNat c.toNat) = [UInt8.ofNat c.toNat] := by
  obtain ⟨low, high, noQuote, noBackslash⟩ := plain
  have code : (UInt8.ofNat c.toNat).toNat = c.toNat := by
    rw [UInt8.toNat_ofNat']
    omega
  generalize UInt8.ofNat c.toNat = octet at code
  have differs : ∀ other : UInt8, c.toNat ≠ other.toNat → octet ≠ other :=
    fun other apart same => apart (by rw [← code, same])
  have control : ∀ other : UInt8, other.toNat < 0x20 → octet ≠ other :=
    fun other below => differs other (by omega)
  have visible : ¬ octet < 0x20 := by
    rw [UInt8.lt_iff_toNat_lt, code]
    exact Nat.not_lt.mpr low
  rw [escapeOctet, if_neg (differs 0x22 noQuote), if_neg (differs 0x5C noBackslash),
    if_neg (control 0x08 (by decide)), if_neg (control 0x0C (by decide)),
    if_neg (control 0x0A (by decide)), if_neg (control 0x0D (by decide)),
    if_neg (control 0x09 (by decide)), if_neg visible]

theorem flatMap_escapeOctet {chars : List Char} (plain : ∀ c ∈ chars, IsPlain c) :
    (chars.map fun c => UInt8.ofNat c.toNat).flatMap escapeOctet =
      chars.map fun c => UInt8.ofNat c.toNat := by
  induction chars with
  | nil => rfl
  | cons c rest induction =>
      rw [List.map_cons, List.flatMap_cons, escapeOctet_of_isPlain (plain c List.mem_cons_self),
        induction fun other member => plain other (List.mem_cons_of_mem c member)]
      rfl

theorem length_printText (within : Within limit text) :
    (printText text).length = text.length + 2 := by
  rw [printText, within.ofText_eq, flatMap_escapeOctet within.plain]
  simp [String.length_toList]

theorem length_print_text_le (within : Within limit text) :
    (print (.text text)).length ≤ limit + 2 := by
  rw [print, length_printText within]
  exact Nat.add_le_add_right within.short 2

theorem length_print_encode (octets : Octets) :
    (print (.text (Base64.encode octets))).length = 4 * ((octets.length + 2) / 3) + 2 := by
  rw [print, length_printText (Base64.within_encode octets), Base64.length_encode]

theorem length_print_natural_le (wide : 0 < width) (below : n < 10 ^ width) :
    (print (natural n)).length ≤ width := by
  have within := within_natural wide below
  rw [natural, integer, print, printNumber, within.length_ofText]
  exact within.short

theorem length_print_integer_le (wide : 0 < width) (below : value.natAbs < 10 ^ width) :
    (print (integer value)).length ≤ width + 1 := by
  have within := within_integer wide below
  rw [integer, print, printNumber, within.length_ofText]
  exact within.short

theorem length_print_word8_le (word : UInt8) : (print (natural word.toNat)).length ≤ 3 :=
  length_print_natural_le (by decide) (word.toNat_lt.trans (by decide))

theorem length_print_word32_le (word : UInt32) : (print (natural word.toNat)).length ≤ 10 :=
  length_print_natural_le (by decide) (word.toNat_lt.trans (by decide))

theorem length_print_word64_le (word : UInt64) : (print (natural word.toNat)).length ≤ 20 :=
  length_print_natural_le (by decide) (word.toNat_lt.trans (by decide))

theorem length_print_signed32_le (word : Int32) : (print (integer word.toInt)).length ≤ 11 := by
  have low := word.le_toInt
  have high := word.toInt_lt
  exact length_print_integer_le (by decide : 0 < 10) (by omega)

theorem length_print_null : (print .null).length = 4 := by decide +kernel

theorem length_print_double_le (x : Float) : (print (double x)).length ≤ 26 := by
  rw [double]
  split
  · rw [print, printNumber]
    cases rendered : DecimalLayout.double.renderBinary? .double (.ofDouble x) with
    | none => decide +kernel
    | some written =>
        have within := DecimalLayout.within_renderDouble rendered
        rw [Option.getD_some, within.length_ofText]
        exact within.short
  · rw [length_print_null]
    decide

theorem length_print_single (x : Float32) :
    3 ≤ (print (single x)).length ∧ (print (single x)).length ≤ 18 := by
  rw [single]
  split
  · rw [print, printNumber]
    cases rendered : DecimalLayout.single.renderBinary? .single (.ofSingle x) with
    | none => decide +kernel
    | some written =>
        have within := DecimalLayout.within_renderSingle rendered
        rw [Option.getD_some, within.length_ofText]
        exact ⟨DecimalLayout.three_le_length_renderBinary? rendered, within.short⟩
  · rw [length_print_null]
    decide

/-- What members add to an object: each its name, a colon, its value, and a comma or a brace. -/
def membersLength : List (String × Json) → Nat
  | [] => 0
  | (name, value) :: rest =>
    (printText name).length + (print value).length + 2 + membersLength rest

theorem membersLength_append (first second : List (String × Json)) :
    membersLength (first ++ second) = membersLength first + membersLength second := by
  induction first with
  | nil => rw [List.nil_append, membersLength, Nat.zero_add]
  | cons member rest induction =>
      rw [List.cons_append, membersLength, membersLength, induction, ← Nat.add_assoc]

theorem length_print_object (some : members ≠ []) :
    (print (.object members)).length = membersLength members + 1 := by
  have inside : (printMembers members).length + 1 = membersLength members := by
    induction members with
    | nil => exact absurd rfl some
    | cons member rest induction =>
        cases rest with
        | nil =>
            simp only [printMembers, membersLength, List.length_append, List.length_cons]
            omega
        | cons next rest =>
            have others := induction (List.cons_ne_nil next rest)
            rw [membersLength, ← others]
            simp only [printMembers, List.length_append, List.length_cons]
            omega
  rw [print, List.length_cons, List.length_append, List.length_singleton, inside]

theorem membersLength_member?_le (name : String) {encode : α → Json} {value : Option α}
    (each : ∀ x, value = some x → (print (encode x)).length ≤ limit) :
    membersLength (member? name encode value) ≤ (printText name).length + limit + 2 := by
  cases value with
  | none => exact Nat.zero_le _
  | some x =>
      have short := each x rfl
      simp only [member?, membersLength]
      omega

end LorawanGateway.Json
