/-!
Octets and the fixed-width integers they carry. Numbers are read and written least significant
octet first on the air and most significant octet first in datagram headers.
-/

namespace LorawanGateway

/-- A run of octets, as carried by a frame or a datagram. -/
abbrev Octets := List UInt8

namespace Octets

/-- The `width` low octets of `value`, least significant first. -/
def ofNatLE : (width value : Nat) → Octets
  | 0, _ => []
  | width + 1, value => UInt8.ofNat (value % 256) :: ofNatLE width (value / 256)

/-- The number whose octets are given, least significant first. -/
def toNatLE : Octets → Nat
  | [] => 0
  | octet :: rest => octet.toNat + 256 * toNatLE rest

/-- The `width` low octets of `value`, most significant first. -/
def ofNatBE (width value : Nat) : Octets :=
  (ofNatLE width value).reverse

/-- The number whose octets are given, most significant first. -/
def toNatBE (octets : Octets) : Nat :=
  toNatLE octets.reverse

/-- `count` octets from `start` on, fewer where the run ends. -/
def slice (octets : Octets) (start count : Nat) : Octets :=
  (octets.drop start).take count

/-- The 16-bit word at `start`, least significant octet first. -/
def word16At (octets : Octets) (start : Nat) : UInt16 :=
  UInt16.ofNat (octets.slice start 2).toNatLE

/-- The 32-bit word at `start`, least significant octet first. -/
def word32At (octets : Octets) (start : Nat) : UInt32 :=
  UInt32.ofNat (octets.slice start 4).toNatLE

/-- The 64-bit word at `start`, least significant octet first. -/
def word64At (octets : Octets) (start : Nat) : UInt64 :=
  UInt64.ofNat (octets.slice start 8).toNatLE

def ofText (text : String) : Octets :=
  text.toUTF8.toList

/-- The text whose UTF-8 form is given, if the octets are one. -/
def toText? (octets : Octets) : Option String :=
  String.fromUTF8? octets.toByteArray

@[simp] theorem length_ofNatLE (width value : Nat) : (ofNatLE width value).length = width := by
  induction width generalizing value with
  | zero => rfl
  | succ width ih => simp [ofNatLE, ih]

@[simp] theorem length_ofNatBE (width value : Nat) : (ofNatBE width value).length = width := by
  simp [ofNatBE]

theorem toNatLE_ofNatLE (width value : Nat) :
    toNatLE (ofNatLE width value) = value % Nat.pow 256 width := by
  induction width generalizing value with
  | zero => simp [ofNatLE, toNatLE, Nat.mod_one]
  | succ width ih =>
    have low : (UInt8.ofNat (value % 256)).toNat = value % 256 := by
      simp
    rw [ofNatLE, toNatLE, ih, low, Nat.pow_eq, Nat.pow_eq, Nat.pow_succ', Nat.mod_mul]

theorem toNatBE_ofNatBE (width value : Nat) :
    toNatBE (ofNatBE width value) = value % Nat.pow 256 width := by
  simp [toNatBE, ofNatBE, toNatLE_ofNatLE]

end Octets

end LorawanGateway
