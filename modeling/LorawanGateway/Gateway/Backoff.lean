/-!
Growing pauses between attempts to reach a server.
-/

namespace LorawanGateway

/-- The pause before the next attempt, in seconds. -/
structure Backoff where
  next : Nat := 1
  deriving DecidableEq, Repr

namespace Backoff

def longest : Nat := 32

/-- The pause to make now; the next one is twice as long, up to the longest. -/
def step (backoff : Backoff) : Nat × Backoff := (backoff.next, ⟨min (backoff.next * 2) longest⟩)

def reset (_ : Backoff) : Backoff := {}

end Backoff

end LorawanGateway
