import LorawanGateway.Json.Printer
import LorawanGateway.Json.Reader
import LorawanGateway.Proofs.Text.PlainText

/-!
Printed texts and numbers as tokens. A printed text is one token, whatever its characters are, and
its units stand for the octets that were printed. A printed integer is one token wherever its digits
end, and it stands for itself as long as it fits 64 bits; so do the two fractional zeros.
-/

namespace LorawanGateway

/-- The numbers that their texts stand for: integers of 64 bits, signed or not, and the fractional
zeros. What other fractional numbers become is left aside. -/
def Number.IsExact : Number → Prop
  | .integer value => -0x8000000000000000 ≤ value ∧ value < 0x10000000000000000
  | .double value => value = 0.0 ∨ value = -0.0
  | .single _ => False

namespace Json

namespace TextUnit

variable {octet : UInt8} {rest : Octets}

/-- Printed octets that are read as one unit, which stands for one octet. -/
structure Spells (printed : Octets) (octet : UInt8) (unit : TextUnit) : Prop where
  scanned : ∀ rest, scan? (printed ++ rest) =
    (scan? rest).map fun (units, after) => (unit :: units, after)
  meant : ∀ units, octets? (unit :: units) = (octets? units).map (octet :: ·)

theorem spells_plain (noQuote : octet ≠ 0x22) (noBackslash : octet ≠ 0x5C)
    (visible : ¬ octet < 0x20) : Spells [octet] octet (.plain octet) where
  scanned rest := by
    rw [List.singleton_append, scan?]
    · rw [if_neg visible]
      cases scan? rest <;> rfl
    · exact noQuote
    · exact fun _ _ _ _ _ same => absurd same noBackslash
    · exact fun _ _ same => absurd same noBackslash
  meant _ := rfl

theorem spells_short {letter : UInt8} (short : shortEscape? letter = some octet) :
    Spells [0x5C, letter] octet (.plain octet) where
  scanned rest := by
    rw [List.cons_append, List.singleton_append, scan?]
    · rw [short]
      cases scan? rest <;> rfl
    · rintro _ _ _ _ _ rfl
      cases short
  meant _ := rfl

theorem code?_of_control (control : octet < 0x20) :
    code? 0x30 0x30 (hexDigit (octet / 16)) (hexDigit (octet % 16)) = some octet.toNat := by
  obtain ⟨⟨word⟩⟩ := octet
  revert word
  decide +kernel

theorem utf8_of_control (control : octet < 0x20) : utf8 octet.toNat = [octet] :=
  Octets.ofText_of_low (UInt8.lt_trans control (by decide))

theorem spells_control (control : octet < 0x20) :
    Spells [0x5C, 0x75, 0x30, 0x30, hexDigit (octet / 16), hexDigit (octet % 16)] octet
      (.escaped octet.toNat) where
  scanned rest := by
    simp only [List.cons_append, List.nil_append]
    rw [scan?, code?_of_control control]
    cases scan? rest <;> rfl
  meant units := by
    have low : octet.toNat < 0xD800 := Nat.lt_trans (UInt8.lt_iff_toNat_lt.mp control) (by decide)
    have alone : octets? (.escaped octet.toNat :: units) =
        (octets? units).map (utf8 octet.toNat ++ ·) := by
      rw [octets?.eq_def]
      exact if_pos (Or.inl low)
    rw [alone, utf8_of_control control]
    rfl

/-- An octet is printed as a unit of one of three kinds. -/
theorem exists_spells (octet : UInt8) : ∃ unit, Spells (escapeOctet octet) octet unit := by
  unfold escapeOctet
  -- Seven octets have a letter of their own.
  iterate 7
    split
    · subst octet
      exact ⟨_, spells_short rfl⟩
  split
  · exact ⟨_, spells_control ‹_›⟩
  · exact ⟨_, spells_plain ‹_› ‹_› ‹_›⟩

/-- Escaped octets up to a quote are read as units that stand for them. -/
theorem exists_scan?_escaped (octets : Octets) :
    ∃ units, octets? units = some octets ∧
      ∀ rest, scan? (octets.flatMap escapeOctet ++ 0x22 :: rest) = some (units, rest) := by
  induction octets with
  | nil => exact ⟨[], rfl, fun _ => rfl⟩
  | cons octet others induction =>
      obtain ⟨units, meant, scanned⟩ := induction
      obtain ⟨unit, spells⟩ := exists_spells octet
      refine ⟨unit :: units, ?_, fun rest => ?_⟩
      · rw [spells.meant, meant, Option.map_some]
      · rw [List.flatMap_cons, List.append_assoc, spells.scanned, scanned, Option.map_some]

end TextUnit

/-- A printed text is a token for that text. -/
theorem exists_scan?_printText (text : String) :
    ∃ units, TextUnit.text? units = some text ∧
      ∀ rest, Token.scan? 0x22 ((Octets.ofText text).flatMap escapeOctet ++ 0x22 :: rest) =
        some (.text units, rest) := by
  obtain ⟨units, meant, scanned⟩ := TextUnit.exists_scan?_escaped (Octets.ofText text)
  refine ⟨units, ?_, fun rest => ?_⟩
  · rw [TextUnit.text?, meant, Option.bind_some, Octets.toText?_ofText]
  · exact congrArg (Option.map _) (scanned rest)

/-- What may stand behind a value: nothing, a comma, or the end of an array or object. -/
inductive FollowsValue : Octets → Prop where
  | nothing : FollowsValue []
  | comma (rest : Octets) : FollowsValue (0x2C :: rest)
  | closeArray (rest : Octets) : FollowsValue (0x5D :: rest)
  | closeObject (rest : Octets) : FollowsValue (0x7D :: rest)

namespace Numeral

variable {chars : List Char} {rest : Octets} {n : Nat} {negative : Bool}

/-- The digits of a number as printed, and as read. -/
def printedDigits (chars : List Char) : Octets := chars.map fun c => UInt8.ofNat c.toNat

def readDigits (chars : List Char) : List Nat := chars.map fun c => c.toNat - 48

theorem code_of_isDigit {c : Char} (isDigit : c.isDigit = true) :
    48 ≤ c.toNat ∧ c.toNat ≤ 57 := by
  obtain ⟨low, high⟩ := (Bool.and_eq_true ..).mp isDigit
  exact ⟨of_decide_eq_true low, of_decide_eq_true high⟩

theorem digit?_of_isDigit {c : Char} (isDigit : c.isDigit = true) :
    digit? (UInt8.ofNat c.toNat) = some (c.toNat - 48) := by
  obtain ⟨low, high⟩ := code_of_isDigit isDigit
  have code : (UInt8.ofNat c.toNat).toNat = c.toNat := by
    rw [UInt8.toNat_ofNat']
    omega
  have inside : 48 ≤ UInt8.ofNat c.toNat ∧ UInt8.ofNat c.toNat ≤ 57 := by
    rw [UInt8.le_iff_toNat_le, UInt8.le_iff_toNat_le, code]
    exact ⟨low, high⟩
  rw [digit?, if_pos (by simpa using inside), code]

theorem spanDigits_of_followsValue (follows : FollowsValue rest) :
    spanDigits rest = ([], rest) := by
  cases follows <;> rfl

theorem spanDigits_printedDigits (digits : ∀ c ∈ chars, c.isDigit = true)
    (stops : spanDigits rest = ([], rest)) :
    spanDigits (printedDigits chars ++ rest) = (readDigits chars, rest) := by
  induction chars with
  | nil => exact stops
  | cons c others induction =>
      have first := digit?_of_isDigit (digits c List.mem_cons_self)
      have later := induction fun other member => digits other (List.mem_cons_of_mem c member)
      simp only [printedDigits, readDigits, List.map_cons, List.cons_append] at later ⊢
      rw [spanDigits, first]
      simp only [later]

theorem le_ofDigitChars (chars : List Char) (value : Nat) :
    value ≤ Nat.ofDigitChars 10 chars value := by
  rw [Nat.ofDigitChars_eq_ofDigitChars_zero]
  exact (Nat.le_mul_of_pos_left value (by positivity)).trans (Nat.le_add_right ..)

/-- Digits that fit 64 bits are all taken. -/
theorem leadingWhole_readDigits (chars : List Char)
    (fits : Nat.ofDigitChars 10 chars 0 < wordRange) :
    leadingWhole (readDigits chars) = (Nat.ofDigitChars 10 chars 0, 0) := by
  suffices taken : ∀ value, Nat.ofDigitChars 10 chars value < wordRange →
      (readDigits chars).foldl (fun taken digit =>
        if taken.2 = 0 ∧ taken.1 * 10 + digit < wordRange then (taken.1 * 10 + digit, 0)
        else (taken.1, taken.2 + 1)) (value, 0) = (Nat.ofDigitChars 10 chars value, 0) from
    taken 0 fits
  clear fits
  induction chars with
  | nil => exact fun _ _ => rfl
  | cons c others induction =>
      intro value fits
      rw [Nat.ofDigitChars_cons] at fits ⊢
      have first := (le_ofDigitChars others _).trans_lt fits
      rw [Nat.mul_comm] at first fits ⊢
      simp only [readDigits, List.map_cons, List.foldl_cons]
      rw [if_pos ⟨trivial, first⟩]
      exact induction _ fits

theorem head?_toDigits_ne (positive : 0 < n) : (Nat.toDigits 10 n).head? ≠ some '0' := by
  induction n using Nat.base_induction 10 (by decide) with
  | single n small =>
      rw [Nat.toDigits_of_lt_base small]
      simpa using positive.ne'
  | digit n last small more induction =>
      have first := induction more
      rw [← Nat.toDigits_append_toDigits (by decide) more small]
      cases digits : Nat.toDigits 10 n with
      | nil => exact absurd digits Nat.toDigits_ne_nil
      | cons c others =>
          rw [digits] at first
          exact first

/-- Only a zero is printed with a zero in front. -/
theorem scanWhole?_toDigits (stops : spanDigits rest = ([], rest)) :
    scanWhole? (printedDigits (Nat.toDigits 10 n) ++ rest) =
      some (readDigits (Nat.toDigits 10 n), rest) := by
  have isDigit : ∀ c ∈ Nat.toDigits 10 n, c.isDigit = true := fun c member =>
    Nat.isDigit_of_mem_toDigits (by decide) (by decide) member
  rw [scanWhole?, spanDigits_printedDigits isDigit stops]
  rcases Nat.eq_zero_or_pos n with rfl | positive
  · rfl
  · have head := head?_toDigits_ne positive
    cases digits : Nat.toDigits 10 n with
    | nil => exact absurd digits Nat.toDigits_ne_nil
    | cons c others =>
        rw [digits] at head isDigit
        have low := (code_of_isDigit (isDigit c List.mem_cons_self)).1
        have leading : c.toNat - 48 ≠ 0 := by
          intro zero
          refine head (congrArg some (Char.toNat_inj.mp ?_))
          exact Nat.le_antisymm (Nat.sub_eq_zero_iff_le.mp zero) low
        simp only [readDigits, List.map_cons]
        split
        · rename_i same
          cases same
        · rename_i same
          exact absurd (List.cons.inj (Prod.mk.inj same).1).1 leading
        · rfl

theorem scanUnsigned?_toDigits (follows : FollowsValue rest) :
    scanUnsigned? negative (printedDigits (Nat.toDigits 10 n) ++ rest) =
      some (⟨negative, readDigits (Nat.toDigits 10 n), [], none⟩, rest) := by
  have noFraction : scanFraction? rest = some ([], rest) := by cases follows <;> rfl
  have noExponent : scanExponent? rest = some (none, rest) := by cases follows <;> rfl
  simp only [scanUnsigned?, scanWhole?_toDigits (spanDigits_of_followsValue follows), noFraction,
    noExponent, Option.bind_eq_bind, Option.bind_some, Option.pure_def]

theorem scaleByTen?_zero : scaleByTen? (0 : Nat).toUInt64.toFloat (-1) = some 0.0 := by
  rw [scaleByTen?]
  decide +kernel

theorem fractional?_zero :
    fractional? ⟨negative, [0], [0], none⟩ = some (signed negative 0.0) :=
  congrArg (Option.map (signed negative)) scaleByTen?_zero

theorem number?_of_fraction {numeral : Numeral} (pointed : numeral.fraction ≠ []) :
    numeral.number? = numeral.fractional?.map .double := by
  rw [number?]
  cases leadingWhole numeral.whole
  exact if_neg fun ⟨without, _⟩ => pointed without

/-- A fractional zero is read with its sign. -/
theorem number?_zero (negative : Bool) :
    number? ⟨negative, [0], [0], none⟩ = some (.double (signed negative 0.0)) := by
  rw [number?_of_fraction (List.cons_ne_nil _ _), fractional?_zero, Option.map_some]

theorem exists_digit (n : Nat) :
    ∃ first tail, printedDigits (Nat.toDigits 10 n) = first :: tail ∧ (digit? first).isSome := by
  cases digits : Nat.toDigits 10 n with
  | nil => exact absurd digits Nat.toDigits_ne_nil
  | cons c others =>
      have isDigit := Nat.isDigit_of_mem_toDigits (b := 10) (by decide) (by decide)
        (digits ▸ List.mem_cons_self)
      exact ⟨_, _, rfl, by rw [digit?_of_isDigit isDigit]; rfl⟩

theorem scan?_natural (follows : FollowsValue rest) :
    scan? (printedDigits (Nat.toDigits 10 n) ++ rest) =
      some (⟨false, readDigits (Nat.toDigits 10 n), [], none⟩, rest) := by
  obtain ⟨first, tail, spelled, numeric⟩ := exists_digit n
  rw [← scanUnsigned?_toDigits follows, spelled, List.cons_append, scan?]
  rintro _ ⟨⟩
  cases numeric

theorem number?_toDigits (negative : Bool) (fits : n < wordRange) :
    number? ⟨negative, readDigits (Nat.toDigits 10 n), [], none⟩ =
      if !negative then some (.integer n)
      else if n = 0 ∨ 0x8000000000000000 < n then some (.double (-n.toUInt64.toFloat))
      else some (.integer (-n)) := by
  have whole := leadingWhole_readDigits (Nat.toDigits 10 n)
    (by rwa [Nat.ofDigitChars_ten_toDigits])
  rw [Nat.ofDigitChars_ten_toDigits] at whole
  simp only [number?, whole, and_self, if_true]

end Numeral

namespace Token

variable {first : UInt8}

theorem scan?_of_numeric (numeric : first = 0x2D ∨ (Numeral.digit? first).isSome) (rest : Octets) :
    isBlank first = false ∧ scan? first rest =
      (Numeral.scan? (first :: rest)).map fun (numeral, after) => (.number numeral, after) := by
  have other : isBlank first = false ∧ first ≠ 0x5B ∧ first ≠ 0x5D ∧ first ≠ 0x7B ∧
      first ≠ 0x7D ∧ first ≠ 0x2C ∧ first ≠ 0x3A ∧ first ≠ 0x22 ∧ first ≠ 0x6E ∧
      first ≠ 0x74 ∧ first ≠ 0x66 := by
    obtain ⟨⟨word⟩⟩ := first
    revert word
    decide +kernel
  simp only [scan?, other, if_false, and_self]

end Token

theorem printNumber_natural (n : Nat) :
    printNumber (.integer n) = Numeral.printedDigits (Nat.toDigits 10 n) := by
  have digits : (toString (n : Int)).toList = Nat.toDigits 10 n := Nat.toList_repr
  rw [printNumber, Octets.ofText_of_isAscii, digits]
  · rfl
  · rw [digits]
    intro c member
    have isDigit := Nat.isDigit_of_mem_toDigits (by decide) (by decide) member
    exact (Numeral.code_of_isDigit isDigit).2.trans_lt (by decide)

theorem printNumber_negSucc (n : Nat) :
    printNumber (.integer (.negSucc n)) =
      0x2D :: Numeral.printedDigits (Nat.toDigits 10 (n + 1)) := by
  have sign : toString (Int.negSucc n) = "-" ++ toString ((n + 1 : Nat) : Int) := rfl
  have minus : Octets.ofText "-" = [0x2D] := by decide +kernel
  rw [← printNumber_natural, printNumber, sign, Octets.ofText_append, minus]
  rfl

/-- A spelling that starts like a number and is read as a numeral is a token for that numeral. -/
theorem exists_scan?_of_numeric {octets tail : Octets} {first : UInt8} {numeral : Numeral}
    {number : Number} (spelled : octets = first :: tail)
    (numeric : first = 0x2D ∨ (Numeral.digit? first).isSome)
    (scanned : ∀ rest, FollowsValue rest → Numeral.scan? (octets ++ rest) = some (numeral, rest))
    (meant : numeral.number? = some number) :
    ∃ first tail numeral, octets = first :: tail ∧ Token.isBlank first = false ∧
      numeral.number? = some number ∧ ∀ rest, FollowsValue rest →
        Token.scan? first (tail ++ rest) = some (.number numeral, rest) := by
  subst spelled
  refine ⟨first, tail, numeral, rfl, (Token.scan?_of_numeric numeric tail).1, meant,
    fun rest follows => ?_⟩
  rw [(Token.scan?_of_numeric numeric _).2]
  exact congrArg (Option.map _) (scanned rest follows)

/-- A printed number is a token for that number, wherever a value may end. -/
theorem exists_scan?_printNumber {number : Number} (exact : number.IsExact) :
    ∃ first tail numeral, printNumber number = first :: tail ∧ Token.isBlank first = false ∧
      numeral.number? = some number ∧ ∀ rest, FollowsValue rest →
        Token.scan? first (tail ++ rest) = some (.number numeral, rest) := by
  cases number with
  | integer value =>
      obtain ⟨low, high⟩ := exact
      cases value with
      | ofNat n =>
          obtain ⟨first, tail, spelled, numeric⟩ := Numeral.exists_digit n
          refine exists_scan?_of_numeric ((printNumber_natural n).trans spelled) (.inr numeric)
            (fun rest follows => ?_) (Numeral.number?_toDigits false ?_)
          · rw [Int.ofNat_eq_natCast, printNumber_natural]
            exact Numeral.scan?_natural follows
          · exact Int.ofNat_lt.mp high
      | negSucc n =>
          have fits : n + 1 < Numeral.wordRange := by
            unfold Numeral.wordRange
            omega
          have inside : ¬ (n + 1 = 0 ∨ 0x8000000000000000 < n + 1) := by omega
          have meant := Numeral.number?_toDigits true fits
          rw [if_neg (by decide), if_neg inside] at meant
          refine exists_scan?_of_numeric (printNumber_negSucc n) (.inl rfl)
            (fun rest follows => ?_) meant
          rw [printNumber_negSucc]
          exact Numeral.scanUnsigned?_toDigits follows
  | double value =>
      rcases exact with rfl | rfl
      · have printed : printNumber (.double 0.0) = [0x30, 0x2E, 0x30] := by decide +kernel
        refine exists_scan?_of_numeric printed (.inr rfl) (fun rest follows => ?_)
          (Numeral.number?_zero false)
        rw [printed]
        cases follows <;> rfl
      · have printed : printNumber (.double (-0.0)) = [0x2D, 0x30, 0x2E, 0x30] := by
          decide +kernel
        refine exists_scan?_of_numeric printed (.inl rfl) (fun rest follows => ?_)
          (Numeral.number?_zero true)
        rw [printed]
        cases follows <;> rfl
  | single value => exact exact.elim

end Json

end LorawanGateway
