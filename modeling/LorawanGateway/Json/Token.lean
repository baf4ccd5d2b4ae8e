import LorawanGateway.Json.Numeral
import LorawanGateway.Text.Hex

/-!
The tokens of a JSON text. A text token keeps its escapes until the text is needed, because an
ignored text may hold what no Unicode text can.
-/

namespace LorawanGateway.Json

/-- A unit of a quoted text: an octet, or a 16-bit code given by four hexadecimal digits. -/
inductive TextUnit where
  | plain (value : UInt8)
  | escaped (code : Nat)
  deriving DecidableEq, Repr

inductive Token where
  | openArray
  | closeArray
  | openObject
  | closeObject
  | comma
  | colon
  | null
  | bool (value : Bool)
  | number (value : Numeral)
  | text (units : List TextUnit)
  deriving DecidableEq, Repr

namespace TextUnit

def shortEscape? (letter : UInt8) : Option UInt8 :=
  if letter = 0x22 then some 0x22
  else if letter = 0x5C then some 0x5C
  else if letter = 0x2F then some 0x2F
  else if letter = 0x62 then some 0x08
  else if letter = 0x66 then some 0x0C
  else if letter = 0x6E then some 0x0A
  else if letter = 0x72 then some 0x0D
  else if letter = 0x74 then some 0x09
  else none

def code? (a b c d : UInt8) : Option Nat := do
  let a ← Hex.digitValue? a.toNat
  let b ← Hex.digitValue? b.toNat
  let c ← Hex.digitValue? c.toNat
  let d ← Hex.digitValue? d.toNat
  return ((a * 16 + b) * 16 + c) * 16 + d

/-- The units up to the closing quote, and what follows it. -/
def scan? : Octets → Option (List TextUnit × Octets)
  | [] => none
  | 0x22 :: rest => some ([], rest)
  | 0x5C :: 0x75 :: a :: b :: c :: d :: rest => do
    let code ← code? a b c d
    let (units, after) ← scan? rest
    return (.escaped code :: units, after)
  | 0x5C :: letter :: rest => do
    let octet ← shortEscape? letter
    let (units, after) ← scan? rest
    return (.plain octet :: units, after)
  | octet :: rest =>
    if octet < 0x20 then none else do
      let (units, after) ← scan? rest
      return (.plain octet :: units, after)

def utf8 (code : Nat) : Octets := Octets.ofText (String.singleton (Char.ofNat code))

/-- The octets that units stand for: two codes that pair up give one character, half a pair gives
none. -/
def octets? : List TextUnit → Option Octets
  | [] => some []
  | .plain octet :: rest => (octet :: ·) <$> octets? rest
  | .escaped code :: rest =>
    if code < 0xD800 ∨ 0xDFFF < code then (utf8 code ++ ·) <$> octets? rest
    else if 0xDC00 ≤ code then none
    else
      match rest with
      | .escaped low :: rest =>
        if 0xDC00 ≤ low ∧ low ≤ 0xDFFF then
          (utf8 (0x10000 + (code - 0xD800) * 0x400 + (low - 0xDC00)) ++ ·) <$> octets? rest
        else none
      | _ => none

def text? (units : List TextUnit) : Option String :=
  (octets? units).bind Octets.toText?

theorem length_of_scan? {octets after : Octets} {units : List TextUnit}
    (scanned : scan? octets = some (units, after)) : after.length < octets.length := by
  fun_induction scan? octets generalizing units after with
  | case1 => simp at scanned
  | case2 rest => simp at scanned; simp [scanned.2]
  | case3 a b c d rest ih =>
    simp only [Option.bind_eq_bind, Option.bind_eq_some_iff, Option.pure_def, Option.some.injEq,
      Prod.mk.injEq] at scanned
    obtain ⟨_, _, ⟨_, _⟩, found, _, rfl⟩ := scanned
    have shorter := ih found
    simp only [List.length_cons]
    omega
  | case4 letter rest _ ih =>
    simp only [Option.bind_eq_bind, Option.bind_eq_some_iff, Option.pure_def, Option.some.injEq,
      Prod.mk.injEq] at scanned
    obtain ⟨_, _, ⟨_, _⟩, found, _, rfl⟩ := scanned
    have shorter := ih found
    simp only [List.length_cons]
    omega
  | case5 => simp at scanned
  | case6 octet rest _ _ _ _ ih =>
    simp only [Option.bind_eq_bind, Option.bind_eq_some_iff, Option.pure_def, Option.some.injEq,
      Prod.mk.injEq] at scanned
    obtain ⟨⟨_, _⟩, found, _, rfl⟩ := scanned
    have shorter := ih found
    simp only [List.length_cons]
    omega

end TextUnit

namespace Numeral

theorem length_spanDigits (octets : Octets) :
    (spanDigits octets).1.length + (spanDigits octets).2.length = octets.length := by
  induction octets with
  | nil => rfl
  | cons octet rest ih =>
    rw [spanDigits]
    split
    · simp
    · simp only [List.length_cons]
      omega

theorem length_of_scanWhole? {octets after : Octets} {digits : List Nat}
    (scanned : scanWhole? octets = some (digits, after)) : after.length < octets.length := by
  have total := length_spanDigits octets
  simp only [scanWhole?] at scanned
  split at scanned <;> simp_all
  have positive : digits ≠ [] := by assumption
  have := List.length_pos_iff.mpr positive
  omega

theorem length_of_scanFraction? {octets after : Octets} {digits : List Nat}
    (scanned : scanFraction? octets = some (digits, after)) : after.length ≤ octets.length := by
  unfold scanFraction? at scanned
  split at scanned
  · rename_i rest
    have total := length_spanDigits rest
    split at scanned <;> simp_all
    omega
  · simp at scanned
    simp [scanned.2]

theorem length_of_scanExponentSign (octets : Octets) :
    (scanExponentSign octets).2.length ≤ octets.length := by
  unfold scanExponentSign
  split <;> simp

theorem length_of_scanExponent? {octets after : Octets} {exponent : Option (Bool × List Nat)}
    (scanned : scanExponent? octets = some (exponent, after)) :
    after.length ≤ octets.length := by
  unfold scanExponent? at scanned
  split at scanned
  · rename_i octet rest
    split at scanned
    · have signed := length_of_scanExponentSign rest
      have total := length_spanDigits (scanExponentSign rest).2
      simp only at scanned
      split at scanned
      · simp at scanned
      · rename_i spanned
        simp only [Option.some.injEq, Prod.mk.injEq] at scanned
        rw [spanned] at total
        simp only at total
        simp only [List.length_cons, ← scanned.2]
        omega
    · simp at scanned
      simp [← scanned.2]
  · simp at scanned
    simp [← scanned.2]

theorem length_of_scanUnsigned? {octets after : Octets} {negative : Bool} {numeral : Numeral}
    (scanned : scanUnsigned? negative octets = some (numeral, after)) :
    after.length < octets.length := by
  simp only [scanUnsigned?, Option.bind_eq_bind, Option.bind_eq_some_iff, Option.pure_def,
    Option.some.injEq, Prod.mk.injEq] at scanned
  obtain ⟨⟨_, _⟩, whole, ⟨_, _⟩, fraction, ⟨_, _⟩, exponent, _, rfl⟩ := scanned
  have first := length_of_scanWhole? whole
  have second := length_of_scanFraction? fraction
  have third := length_of_scanExponent? exponent
  simp only at *
  omega

theorem length_of_scan? {octets after : Octets} {numeral : Numeral}
    (scanned : scan? octets = some (numeral, after)) : after.length < octets.length := by
  unfold scan? at scanned
  split at scanned
  · have := length_of_scanUnsigned? scanned
    simp only [List.length_cons]
    omega
  · exact length_of_scanUnsigned? scanned

end Numeral

namespace Token

def isBlank (octet : UInt8) : Bool :=
  octet == 0x20 || octet == 0x0A || octet == 0x0D || octet == 0x09

/-- The token that starts with `first`, and what follows it. -/
def scan? (first : UInt8) (rest : Octets) : Option (Token × Octets) :=
  if first = 0x5B then some (.openArray, rest)
  else if first = 0x5D then some (.closeArray, rest)
  else if first = 0x7B then some (.openObject, rest)
  else if first = 0x7D then some (.closeObject, rest)
  else if first = 0x2C then some (.comma, rest)
  else if first = 0x3A then some (.colon, rest)
  else if first = 0x22 then
    (TextUnit.scan? rest).map fun (units, after) => (.text units, after)
  else if first = 0x6E then
    match rest with
    | 0x75 :: 0x6C :: 0x6C :: after => some (.null, after)
    | _ => none
  else if first = 0x74 then
    match rest with
    | 0x72 :: 0x75 :: 0x65 :: after => some (.bool true, after)
    | _ => none
  else if first = 0x66 then
    match rest with
    | 0x61 :: 0x6C :: 0x73 :: 0x65 :: after => some (.bool false, after)
    | _ => none
  else (Numeral.scan? (first :: rest)).map fun (numeral, after) => (.number numeral, after)

theorem length_of_scan? {first : UInt8} {rest after : Octets} {token : Token}
    (scanned : scan? first rest = some (token, after)) : after.length ≤ rest.length := by
  unfold scan? at scanned
  split at scanned; · simp_all
  split at scanned; · simp_all
  split at scanned; · simp_all
  split at scanned; · simp_all
  split at scanned; · simp_all
  split at scanned; · simp_all
  split at scanned
  · simp only [Option.map_eq_some_iff, Prod.mk.injEq] at scanned
    obtain ⟨⟨_, _⟩, found, _, rfl⟩ := scanned
    have shorter := TextUnit.length_of_scan? found
    simp only
    omega
  split at scanned
  · split at scanned <;> simp_all <;> simp [← scanned.2] <;> omega
  split at scanned
  · split at scanned <;> simp_all <;> simp [← scanned.2] <;> omega
  split at scanned
  · split at scanned <;> simp_all <;> simp [← scanned.2] <;> omega
  · simp only [Option.map_eq_some_iff, Prod.mk.injEq] at scanned
    obtain ⟨⟨_, _⟩, found, _, rfl⟩ := scanned
    have shorter := Numeral.length_of_scan? found
    simp only [List.length_cons] at shorter ⊢
    omega

def list? : Octets → Option (List Token)
  | [] => some []
  | first :: rest =>
    if isBlank first then list? rest
    else
      match found : scan? first rest with
      | none => none
      | some (token, after) =>
        have : after.length ≤ rest.length := length_of_scan? found
        (token :: ·) <$> list? after
termination_by octets => octets.length

end Token

end LorawanGateway.Json
