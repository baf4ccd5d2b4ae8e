import LorawanGateway.Number.Binary

/-!
Spans of time in whole nanoseconds, up to the largest 64-bit number of seconds.
-/

namespace LorawanGateway

structure Span where
  nanoseconds : Nat
  deriving DecidableEq, Repr

namespace Span

def perSecond : Nat := 1000000000

/-- One past the longest span. -/
def limit : Nat := 0x10000000000000000 * perSecond

def zero : Span := ⟨0⟩

def of (seconds nanoseconds : Nat) : Span := ⟨seconds * perSecond + nanoseconds⟩

def ofMilliseconds (count : Nat) : Span := ⟨count * 1000000⟩

def seconds (span : Span) : Nat := span.nanoseconds / perSecond

/-- The nanoseconds beyond the whole seconds. -/
def subsecond (span : Span) : Nat := span.nanoseconds % perSecond

def milliseconds (span : Span) : Nat := span.nanoseconds / 1000000

/-- The sum, unless it is too long. -/
def add? (a b : Span) : Option Span :=
  if a.nanoseconds + b.nanoseconds < limit then some ⟨a.nanoseconds + b.nanoseconds⟩ else none

def toSeconds (span : Span) : Float :=
  span.seconds.toUInt64.toFloat + span.subsecond.toUInt64.toFloat / 1e9

/-- The span of a fractional number of seconds, rounded to the nearest nanosecond, a half to the
even one; `none` for what is negative, too long or no number. -/
def ofSeconds? (seconds : Float) : Option Span :=
  match Binary.ofDouble seconds with
  | .finite negative significand exponent =>
    if negative ∧ significand ≠ 0 then none
    else
      let nanoseconds := Binary.scaleToNat .halfEven significand exponent perSecond
      if nanoseconds < limit then some ⟨nanoseconds⟩ else none
  | _ => none

end Span

end LorawanGateway
