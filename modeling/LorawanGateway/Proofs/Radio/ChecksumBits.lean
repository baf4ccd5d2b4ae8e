import LorawanGateway.Radio.Checksum

/-!
The checksum of beacons bit by bit. The register takes in the message most significant bit first,
and each bit that meets its opposite at the top brings in the polynomial. A step of the register is
linear in exclusive or, so eight bits may as well be put in at once, as a whole octet.
-/

namespace LorawanGateway.Checksum

/-- The bits of an octet, the most significant one first. -/
def octetBits (octet : UInt8) : List Bool := (List.range 8).map octet.toBitVec.getMsbD

def bits (octets : Octets) : List Bool := octets.flatMap octetBits

/-- The register after one more bit of the message. -/
def feed (register : BitVec 16) (bit : Bool) : BitVec 16 :=
  if register.msb = bit then register <<< 1 else (register <<< 1) ^^^ 0x1021

/-- The check of some octets, computed bit by bit from a register of zeros. -/
def bitwise (octets : Octets) : UInt16 := ⟨(bits octets).foldl feed 0#16⟩

/-- What comes in when the top of the register meets a bit. -/
def feedback (differs : Bool) : BitVec 16 := if differs then 0x1021 else 0

variable {message other : List Bool}

theorem feed_eq (register : BitVec 16) (bit : Bool) :
    feed register bit = (register <<< 1) ^^^ feedback (register.msb ^^ bit) := by
  rw [feed]
  cases register.msb <;> cases bit <;> simp [feedback]

theorem feedback_xor (first second : Bool) :
    feedback (first ^^ second) = feedback first ^^^ feedback second := by
  cases first <;> cases second <;> decide

theorem feed_xor (first second : BitVec 16) (bit other : Bool) :
    feed (first ^^^ second) (bit ^^ other) = feed first bit ^^^ feed second other := by
  have tops : ((first ^^^ second).msb ^^ (bit ^^ other)) =
      ((first.msb ^^ bit) ^^ (second.msb ^^ other)) := by
    rw [BitVec.msb_xor, Bool.xor_assoc, Bool.xor_assoc, Bool.xor_left_comm bit]
  rw [feed_eq, feed_eq, feed_eq, tops, feedback_xor, BitVec.shiftLeft_xor_distrib]
  ac_rfl

/-- Two messages taken in together leave the registers that each of them leaves alone. -/
theorem foldl_feed_xor (same : message.length = other.length) (first second : BitVec 16) :
    (List.zipWith (· ^^ ·) message other).foldl feed (first ^^^ second) =
      message.foldl feed first ^^^ other.foldl feed second := by
  induction message generalizing other first second with
  | nil =>
      cases other with
      | nil => rfl
      | cons bit rest => cases same
  | cons bit rest induction =>
      cases other with
      | nil => cases same
      | cons bit' rest' =>
          rw [List.zipWith_cons_cons, List.foldl_cons, feed_xor]
          exact induction (Nat.succ.inj same) ..

theorem shift_toBitVec (remainder : UInt16) :
    (shift remainder).toBitVec = feed remainder.toBitVec false := by
  have mask : remainder &&& 0x8000 = 0 ↔ remainder.toBitVec.msb = false := by
    rw [← UInt16.toBitVec_inj, UInt16.toBitVec_and, BitVec.msb_eq_getLsbD_last]
    change remainder.toBitVec &&& BitVec.twoPow 16 15 = 0#16 ↔ _
    rw [BitVec.and_twoPow]
    cases remainder.toBitVec.getLsbD 15 <;> decide
  rw [shift, feed]
  by_cases clear : remainder &&& 0x8000 = 0
  · rw [if_pos clear, if_pos (mask.mp clear)]
    rfl
  · rw [if_neg clear, if_neg (clear ∘ mask.mpr)]
    rfl

theorem repeat_shift_toBitVec (count : Nat) (remainder : UInt16) :
    (Nat.repeat shift count remainder).toBitVec =
      (List.replicate count false).foldl feed remainder.toBitVec := by
  induction count with
  | zero => rfl
  | succ count induction =>
      rw [Nat.repeat, shift_toBitVec, induction, List.replicate_succ', List.foldl_append,
        List.foldl_cons, List.foldl_nil]

/-- An octet set under the top of an empty register is taken in by eight shifts. -/
theorem foldl_feed_octet (octet : UInt8) :
    (List.replicate 8 false).foldl feed (octet.toUInt16 <<< 8).toBitVec =
      (octetBits octet).foldl feed 0#16 := by
  obtain ⟨⟨word⟩⟩ := octet
  revert word
  decide +kernel

theorem zipWith_xor_false (message : List Bool) :
    List.zipWith (· ^^ ·) (List.replicate message.length false) message = message := by
  induction message with
  | nil => rfl
  | cons bit rest induction =>
      rw [List.length_cons, List.replicate_succ, List.zipWith_cons_cons, induction,
        Bool.false_xor]

theorem step_toBitVec (remainder : UInt16) (octet : UInt8) :
    (step remainder octet).toBitVec = (octetBits octet).foldl feed remainder.toBitVec := by
  let zeros := List.replicate 8 false
  let register := remainder.toBitVec
  let low := (octet.toUInt16 <<< 8).toBitVec
  have apart : zeros.foldl feed (register ^^^ low) =
      zeros.foldl feed register ^^^ zeros.foldl feed low :=
    @foldl_feed_xor zeros zeros rfl register low
  have together : (octetBits octet).foldl feed register =
      zeros.foldl feed register ^^^ (octetBits octet).foldl feed 0#16 := by
    have taken := @foldl_feed_xor zeros (octetBits octet) rfl register 0#16
    rwa [show zeros = List.replicate (octetBits octet).length false from rfl,
      zipWith_xor_false, BitVec.xor_zero] at taken
  calc (step remainder octet).toBitVec
    _ = zeros.foldl feed (register ^^^ low) := repeat_shift_toBitVec 8 _
    _ = (octetBits octet).foldl feed register := by rw [apart, foldl_feed_octet, together]

theorem crc16_eq_bitwise (octets : Octets) : crc16 octets = bitwise octets := by
  suffices register : ∀ remainder : UInt16,
      (octets.foldl step remainder).toBitVec = (bits octets).foldl feed remainder.toBitVec from
    UInt16.toBitVec_inj.mp (register 0)
  induction octets with
  | nil => exact fun _ => rfl
  | cons octet rest induction =>
      intro remainder
      rw [bits, List.flatMap_cons, List.foldl_append, List.foldl_cons, induction, step_toBitVec,
        bits]

example : bitwise (Octets.ofText "123456789") = 0x31C3 := by decide +kernel

end LorawanGateway.Checksum
