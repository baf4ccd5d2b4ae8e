/-!
Why a transmission is refused: the causes a server is told in an acknowledgement.
-/

namespace LorawanGateway

/-- A cause for refusing a transmission. -/
inductive TxError where
  | tooLate
  | tooEarly
  | full
  | empty
  | packetCollision
  | beaconCollision
  | frequency
  | power
  | gpsUnlocked
  | invalid
  deriving DecidableEq, Repr

namespace TxError

def all : List TxError :=
  [.tooLate, .tooEarly, .full, .empty, .packetCollision, .beaconCollision, .frequency, .power,
    .gpsUnlocked, .invalid]

/-- The number of a cause; zero stands for success. -/
def code : TxError → Nat
  | .tooLate => 1
  | .tooEarly => 2
  | .full => 3
  | .empty => 4
  | .packetCollision => 5
  | .beaconCollision => 6
  | .frequency => 7
  | .power => 8
  | .gpsUnlocked => 9
  | .invalid => 10

def name : TxError → String
  | .tooLate => "TOO_LATE"
  | .tooEarly => "TOO_EARLY"
  | .full => "FULL"
  | .empty => "EMPTY"
  | .packetCollision => "COLLISION_PACKET"
  | .beaconCollision => "COLLISION_BEACON"
  | .frequency => "TX_FREQ"
  | .power => "TX_POWER"
  | .gpsUnlocked => "GPS_UNLOCKED"
  | .invalid => "INVALID"

def ofName? (text : String) : Option TxError := all.find? fun error => error.name == text

end TxError

end LorawanGateway
