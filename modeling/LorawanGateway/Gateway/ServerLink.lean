import LorawanGateway.Time.Instant

/-!
The link of a service to its server on the way down: which requests were acknowledged, whether the
link counts as up, and which status entry is due. That the counts of requests leave 32 bits is left
aside.
-/

namespace LorawanGateway

/-- The requests sent and acknowledged since the link was made, the requests in a row without an
answer, whether the server answered, and the status reported last. -/
structure ServerLink where
  sent : Nat := 0
  acknowledged : Nat := 0
  unanswered : Nat := 0
  online : Bool := false
  reported : Option Bool := none
  slot : Nat := 0
  deriving DecidableEq, Repr

namespace ServerLink

def statusSlots : Nat := 15

def isInSync (link : ServerLink) : Bool := link.acknowledged == link.sent

def reset (link : ServerLink) : ServerLink :=
  { link with sent := 0, acknowledged := 0, online := false }

def send (link : ServerLink) : ServerLink :=
  { link with sent := link.sent + 1, unanswered := link.unanswered + 1 }

def acknowledge (link : ServerLink) : ServerLink :=
  { link with acknowledged := link.acknowledged + 1, unanswered := 0, online := true }

/-- Whether a status entry is due: the link went up or down, or enough requests went by. -/
def isStatusDue (link : ServerLink) : Bool :=
  link.reported != some link.online || link.sent % statusSlots == 0

/-- The link once its status is reported, under the next slot. -/
def report (link : ServerLink) : ServerLink :=
  { link with reported := some link.online, slot := link.slot % statusSlots + 1 }

/-- The status entry: the second and whether the link is up. -/
def statusText (link : ServerLink) (host : Instant) : String :=
  toString host.seconds ++ ":" ++ if link.online then "online" else "offline"

end ServerLink

end LorawanGateway
