import LorawanGateway.Transmit.Queue
import Mathlib.Algebra.Group.Nat.Defs

/-!
The wrapping counter beside an absolute clock. A difference of two counter values is read as a
natural number, the way from the one to the other round the counter. `Counter.next` is the first
time at which the counter shows a value; it never goes back as the clock moves on.
-/

namespace LorawanGateway

namespace Timing

@[simp] theorem toNat_margin : margin.toNat = 1000 := rfl

@[simp] theorem toNat_lead : lead.toNat = 40000 := rfl

@[simp] theorem toNat_maxAdvance : maxAdvance.toNat = 512000000 := rfl

/-- The longest notice in microseconds that is still too short for admission. -/
def shortNotice : Nat := startDelay.toNat + margin.toNat + lead.toNat

theorem shortNotice_eq : shortNotice = 42500 := rfl

end Timing

namespace Counter

variable {first second third value : UInt32} {time later moment : Nat}

theorem toNat_sub_cases (first second : UInt32) :
    second.toNat ≤ first.toNat ∧ (first - second).toNat + second.toNat = first.toNat ∨
      first.toNat < second.toNat ∧
        (first - second).toNat + second.toNat = first.toNat + 2 ^ 32 := by
  have firstBound := first.toNat_lt
  have secondBound := second.toNat_lt
  rw [UInt32.toNat_sub]
  omega

/-- From one value to another and back is one whole turn. -/
theorem toNat_sub_add_toNat_sub (different : first ≠ second) :
    (first - second).toNat + (second - first).toNat = 2 ^ 32 := by
  have differentNat : first.toNat ≠ second.toNat := fun same => different (UInt32.toNat_inj.mp same)
  have forward := toNat_sub_cases first second
  have backward := toNat_sub_cases second first
  omega

/-- The way over a third value, whole turns taken off. -/
theorem toNat_sub_over (first second third : UInt32) :
    (first - third).toNat = ((first - second).toNat + (second - third).toNat) % 2 ^ 32 := by
  have bound := (first - third).toNat_lt
  have whole := toNat_sub_cases first third
  have left := toNat_sub_cases first second
  have right := toNat_sub_cases second third
  omega

/-- Seen from a value that both lie ahead of, the way to the farther one passes the nearer one. -/
theorem toNat_sub_of_le (nearer : (second - third).toNat ≤ (first - third).toNat) :
    (first - second).toNat + (second - third).toNat = (first - third).toNat := by
  have bound := (first - second).toNat_lt
  have round := toNat_sub_over first second third
  have firstBound := (first - third).toNat_lt
  omega

/-- The value of the counter at a time in microseconds. -/
def ofTime (time : Nat) : UInt32 := UInt32.ofNat time

/-- The first time from `time` on at which the counter shows a value. -/
def next (value : UInt32) (time : Nat) : Nat := time + (value - ofTime time).toNat

theorem toNat_ofTime (time : Nat) : (ofTime time).toNat = time % 2 ^ 32 := UInt32.toNat_ofNat'

theorem le_next (value : UInt32) (time : Nat) : time ≤ next value time := Nat.le_add_right _ _

theorem next_lt (value : UInt32) (time : Nat) : next value time < time + 2 ^ 32 :=
  Nat.add_lt_add_left (value - ofTime time).toNat_lt time

theorem next_mod (value : UInt32) (time : Nat) : next value time % 2 ^ 32 = value.toNat := by
  have bound := value.toNat_lt
  have ways := toNat_sub_cases value (ofTime time)
  rw [toNat_ofTime] at ways
  unfold next
  omega

theorem next_le (shows : moment % 2 ^ 32 = value.toNat) (reached : time ≤ moment) :
    next value time ≤ moment := by
  have same := next_mod value time
  have near := next_lt value time
  omega

theorem next_le_next (value : UInt32) (passed : time ≤ later) :
    next value time ≤ next value later :=
  next_le (next_mod value later) (Nat.le_trans passed (le_next value later))

theorem next_eq (passed : time ≤ later) (pending : later ≤ next value time) :
    next value later = next value time :=
  Nat.le_antisymm (next_le (next_mod value time) pending) (next_le_next value passed)

theorem next_eq_add (ordered : next first time ≤ next second time) :
    next second time = next first time + (second - first).toNat := by
  have way := toNat_sub_of_le (Nat.le_of_add_le_add_left ordered)
  unfold next
  omega

end Counter

end LorawanGateway
