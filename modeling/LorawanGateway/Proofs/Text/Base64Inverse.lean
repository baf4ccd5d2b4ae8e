import Mathlib.Data.Option.Basic
import LorawanGateway.Text.Base64

/-!
Base-64 text in both directions. Octets are read back from their text, and no other text is read:
what is read is written again as the same characters, padding included.
-/

namespace LorawanGateway.Base64

variable {c : Char} {value : Nat} {octets : Octets}

theorem digitValue?_digit (small : value < 64) : digitValue? (digit value) = some value := by
  revert value
  decide +kernel

theorem digit_ne_padding (small : value < 64) : digit value ≠ '=' := by
  revert value
  decide +kernel

theorem digitValue?_eq_none (large : 128 ≤ c.toNat) : digitValue? c = none := by
  have plus : c ≠ '+' := by
    rintro rfl
    exact absurd large (by decide)
  have slash : c ≠ '/' := by
    rintro rfl
    exact absurd large (by decide)
  have upper : ¬ c.toNat ≤ 90 := by omega
  have lower : ¬ c.toNat ≤ 122 := by omega
  have numeral : ¬ c.toNat ≤ 57 := by omega
  simp [digitValue?, plus, slash, upper, lower, numeral]

/-- Each character has at most one value, the one that it is written for. -/
theorem digit_of_digitValue? (read : digitValue? c = some value) :
    value < 64 ∧ digit value = c := by
  have ascii : c.toNat < 128 := by
    refine Nat.not_le.mp fun large => ?_
    cases (digitValue?_eq_none large).symm.trans read
  have each : ∀ code < 128, (digitValue? (Char.ofNat code)).all
      fun value => value < 64 && digit value == Char.ofNat code := by decide +kernel
  have sound := each c.toNat ascii
  rw [Char.ofNat_toNat, read] at sound
  simpa using sound

theorem octet_of_eq {n : Nat} {octet : UInt8} (same : n = octet.toNat) : UInt8.ofNat n = octet := by
  rw [same, UInt8.ofNat_toNat]

theorem decodeChars?_encodeChars (octets : Octets) :
    decodeChars? (encodeChars octets) = some octets := by
  fun_induction encodeChars octets with
  | case1 => rfl
  | case2 a =>
      have below := a.toNat_lt
      have first : UInt8.ofNat (a.toNat / 4 * 4 + a.toNat % 4 * 16 / 16) = a :=
        octet_of_eq (by omega)
      -- Bits behind the last octet have to be zero, and are.
      have unused : a.toNat % 4 * 16 % 16 = 0 := by omega
      rw [decodeChars?, digitValue?_digit (by omega), digitValue?_digit (by omega)]
      simp only [Option.bind_eq_bind, Option.bind_some, guard, if_pos unused, Option.pure_def,
        first]
  | case3 a b =>
      have belowA := a.toNat_lt
      have belowB := b.toNat_lt
      have first : UInt8.ofNat (a.toNat / 4 * 4 + (a.toNat % 4 * 16 + b.toNat / 16) / 16) = a :=
        octet_of_eq (by omega)
      have second : UInt8.ofNat ((a.toNat % 4 * 16 + b.toNat / 16) % 16 * 16 +
          b.toNat % 16 * 4 / 4) = b := octet_of_eq (by omega)
      have unused : b.toNat % 16 * 4 % 4 = 0 := by omega
      rw [decodeChars?, digitValue?_digit (by omega), digitValue?_digit (by omega),
        digitValue?_digit (by omega)]
      · simp only [Option.bind_eq_bind, Option.bind_some, guard, if_pos unused, Option.pure_def,
          first, second]
      · exact digit_ne_padding (by omega)
  | case4 a b c rest induction =>
      have belowA := a.toNat_lt
      have belowB := b.toNat_lt
      have belowC := c.toNat_lt
      have first : UInt8.ofNat (a.toNat / 4 * 4 + (a.toNat % 4 * 16 + b.toNat / 16) / 16) = a :=
        octet_of_eq (by omega)
      have second : UInt8.ofNat ((a.toNat % 4 * 16 + b.toNat / 16) % 16 * 16 +
          (b.toNat % 16 * 4 + c.toNat / 64) / 4) = b := octet_of_eq (by omega)
      have third : UInt8.ofNat ((b.toNat % 16 * 4 + c.toNat / 64) % 4 * 64 + c.toNat % 64) = c :=
        octet_of_eq (by omega)
      rw [decodeChars?, digitValue?_digit (by omega), digitValue?_digit (by omega),
        digitValue?_digit (by omega), digitValue?_digit (by omega), induction]
      · simp only [Option.bind_eq_bind, Option.bind_some, Option.pure_def, first, second, third]
      · exact fun _ last _ => digit_ne_padding (by omega) last
      · exact fun last _ => digit_ne_padding (by omega) last

theorem toNat_octet {n : Nat} (small : n < 256) : (UInt8.ofNat n).toNat = n :=
  UInt8.toNat_ofNat_of_lt' small

/-- Only what is written for some octets is read. -/
theorem encodeChars_of_decodeChars? {chars : List Char} (read : decodeChars? chars = some octets) :
    encodeChars octets = chars := by
  fun_induction decodeChars? chars generalizing octets with
  | case1 =>
      cases read
      rfl
  | case2 p q =>
      simp only [Option.bind_eq_bind, Option.bind_eq_some_iff, Option.guard_eq_some'] at read
      obtain ⟨v, readP, w, readQ, -, unused, made⟩ := read
      cases made
      obtain ⟨smallV, rfl⟩ := digit_of_digitValue? readP
      obtain ⟨smallW, rfl⟩ := digit_of_digitValue? readQ
      have first : (UInt8.ofNat (v * 4 + w / 16)).toNat = v * 4 + w / 16 :=
        toNat_octet (by omega)
      have one : (v * 4 + w / 16) / 4 = v := by omega
      -- Without the check of the unused bits, `w` would come back without them.
      have two : (v * 4 + w / 16) % 4 * 16 = w := by omega
      rw [encodeChars, first, one, two]
  | case3 p q r =>
      simp only [Option.bind_eq_bind, Option.bind_eq_some_iff, Option.guard_eq_some'] at read
      obtain ⟨v, readP, w, readQ, x, readR, -, unused, made⟩ := read
      cases made
      obtain ⟨smallV, rfl⟩ := digit_of_digitValue? readP
      obtain ⟨smallW, rfl⟩ := digit_of_digitValue? readQ
      obtain ⟨smallX, rfl⟩ := digit_of_digitValue? readR
      have first : (UInt8.ofNat (v * 4 + w / 16)).toNat = v * 4 + w / 16 :=
        toNat_octet (by omega)
      have second : (UInt8.ofNat (w % 16 * 16 + x / 4)).toNat = w % 16 * 16 + x / 4 :=
        toNat_octet (by omega)
      have one : (v * 4 + w / 16) / 4 = v := by omega
      have two : (v * 4 + w / 16) % 4 * 16 + (w % 16 * 16 + x / 4) / 16 = w := by omega
      have three : (w % 16 * 16 + x / 4) % 16 * 4 = x := by omega
      rw [encodeChars, first, second, one, two, three]
  | case4 p q r s rest _ _ induction =>
      simp only [Option.bind_eq_bind, Option.bind_eq_some_iff] at read
      obtain ⟨v, readP, w, readQ, x, readR, y, readS, others, readRest, made⟩ := read
      cases made
      obtain ⟨smallV, rfl⟩ := digit_of_digitValue? readP
      obtain ⟨smallW, rfl⟩ := digit_of_digitValue? readQ
      obtain ⟨smallX, rfl⟩ := digit_of_digitValue? readR
      obtain ⟨smallY, rfl⟩ := digit_of_digitValue? readS
      have first : (UInt8.ofNat (v * 4 + w / 16)).toNat = v * 4 + w / 16 :=
        toNat_octet (by omega)
      have second : (UInt8.ofNat (w % 16 * 16 + x / 4)).toNat = w % 16 * 16 + x / 4 :=
        toNat_octet (by omega)
      have third : (UInt8.ofNat (x % 4 * 64 + y)).toNat = x % 4 * 64 + y :=
        toNat_octet (by omega)
      have one : (v * 4 + w / 16) / 4 = v := by omega
      have two : (v * 4 + w / 16) % 4 * 16 + (w % 16 * 16 + x / 4) / 16 = w := by omega
      have three : (w % 16 * 16 + x / 4) % 16 * 4 + (x % 4 * 64 + y) / 64 = x := by omega
      have four : (x % 4 * 64 + y) % 64 = y := by omega
      rw [encodeChars, first, second, third, one, two, three, four, induction readRest]
  | case5 => cases read

/-- A text is read as some octets just when they are written as this text. -/
theorem decode?_eq_some_iff {text : String} :
    decode? text = some octets ↔ encode octets = text := by
  constructor
  · intro read
    rw [encode, encodeChars_of_decodeChars? read, String.ofList_toList]
  · rintro rfl
    rw [decode?, encode, String.toList_ofList, decodeChars?_encodeChars]

theorem decodePayload?_eq_some_iff {text : String} :
    decodePayload? text = some octets ↔ encode octets = Text.trim text :=
  decode?_eq_some_iff

end LorawanGateway.Base64
