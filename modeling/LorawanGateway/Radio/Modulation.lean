import LorawanGateway.Radio.Error

/-!
Radio settings and their spellings on the wire.
-/

namespace LorawanGateway

/-- The value whose spelling is `text`, out of a list of all values. -/
def findName (kind : WireKind) (all : List α) (name : α → String) (text : String) :
    Except RadioError α :=
  match all.find? fun value => name value == text with
  | some value => .ok value
  | none => .error (.unknownName kind text)

/-- How many bits a chirp carries. -/
inductive SpreadingFactor where
  | sf5 | sf6 | sf7 | sf8 | sf9 | sf10 | sf11 | sf12
  deriving DecidableEq, Repr

namespace SpreadingFactor

/-- All spreading factors in order. -/
def all : List SpreadingFactor := [.sf5, .sf6, .sf7, .sf8, .sf9, .sf10, .sf11, .sf12]

/-- The number of bits. -/
def value : SpreadingFactor → Nat
  | .sf5 => 5
  | .sf6 => 6
  | .sf7 => 7
  | .sf8 => 8
  | .sf9 => 9
  | .sf10 => 10
  | .sf11 => 11
  | .sf12 => 12

def name : SpreadingFactor → String
  | .sf5 => "SF5"
  | .sf6 => "SF6"
  | .sf7 => "SF7"
  | .sf8 => "SF8"
  | .sf9 => "SF9"
  | .sf10 => "SF10"
  | .sf11 => "SF11"
  | .sf12 => "SF12"

def ofName (text : String) : Except RadioError SpreadingFactor :=
  findName .spreadingFactor all name text

/-- The spreading factor with a number of bits. -/
def ofValue (bits : Nat) : Except RadioError SpreadingFactor :=
  match all.find? fun factor => factor.value == bits with
  | some factor => .ok factor
  | none => .error (.invalidParameter .spreadingFactor)

end SpreadingFactor

/-- The width of a LoRa channel. -/
inductive Bandwidth where
  | bw125 | bw250 | bw500
  deriving DecidableEq, Repr

namespace Bandwidth

/-- All bandwidths in order. -/
def all : List Bandwidth := [.bw125, .bw250, .bw500]

/-- The width in hertz. -/
def hertz : Bandwidth → Nat
  | .bw125 => 125000
  | .bw250 => 250000
  | .bw500 => 500000

def name : Bandwidth → String
  | .bw125 => "BW125"
  | .bw250 => "BW250"
  | .bw500 => "BW500"

def ofName (text : String) : Except RadioError Bandwidth := findName .bandwidth all name text

/-- The bandwidth of a width in hertz. -/
def ofHertz (width : Nat) : Except RadioError Bandwidth :=
  match all.find? fun bandwidth => bandwidth.hertz == width with
  | some bandwidth => .ok bandwidth
  | none => .error (.invalidParameter .bandwidth)

end Bandwidth

/-- The forward error correction of a LoRa packet. -/
inductive CodingRate where
  | cr45 | cr46 | cr47 | cr48 | off
  deriving DecidableEq, Repr

namespace CodingRate

/-- All coding rates in order. -/
def all : List CodingRate := [.cr45, .cr46, .cr47, .cr48, .off]

/-- The redundant bits for four bits of data. -/
def redundancy : CodingRate → Nat
  | .cr45 => 1
  | .cr46 => 2
  | .cr47 => 3
  | .cr48 => 4
  | .off => 0

def name : CodingRate → String
  | .cr45 => "4/5"
  | .cr46 => "4/6"
  | .cr47 => "4/7"
  | .cr48 => "4/8"
  | .off => "OFF"

def ofName (text : String) : Except RadioError CodingRate := findName .codingRate all name text

/-- The coding rate with a spelling, reduced fractions included. -/
def ofNameOrFraction (text : String) : Except RadioError CodingRate :=
  if text = "2/3" then .ok .cr46
  else if text = "1/2" then .ok .cr48
  else ofName text

end CodingRate

/-- The two modulations of the concentrator. -/
inductive Modulation where
  | lora | fsk
  deriving DecidableEq, Repr

namespace Modulation

def all : List Modulation := [.lora, .fsk]

def name : Modulation → String
  | .lora => "LORA"
  | .fsk => "FSK"

def ofName (text : String) : Except RadioError Modulation := findName .modulation all name text

end Modulation

/-- The outcome of the checksum of a received packet. -/
inductive CrcStatus where
  | ok | bad | absent
  deriving DecidableEq, Repr

namespace CrcStatus

def all : List CrcStatus := [.ok, .bad, .absent]

def stat : CrcStatus → Int
  | .ok => 1
  | .bad => -1
  | .absent => 0

def name : CrcStatus → String
  | .ok => "1"
  | .bad => "-1"
  | .absent => "0"

def ofName (text : String) : Except RadioError CrcStatus := findName .crcStatus all name text

end CrcStatus

/-- When a packet is sent: at once, at a counter value, or at a GPS time. -/
inductive TxMode where
  | immediate | timestamped | onGps
  deriving DecidableEq, Repr

namespace TxMode

def all : List TxMode := [.immediate, .timestamped, .onGps]

def name : TxMode → String
  | .immediate => "imme"
  | .timestamped => "tmst"
  | .onGps => "tmms"

def ofName (text : String) : Except RadioError TxMode := findName .txMode all name text

end TxMode

/-- The data rate of a packet: spreading factor and bandwidth, or bits per second. -/
inductive DataRate where
  | lora (factor : SpreadingFactor) (bandwidth : Bandwidth)
  | fsk (bitsPerSecond : UInt32)
  deriving DecidableEq, Repr

namespace DataRate

def modulation : DataRate → Modulation
  | .lora .. => .lora
  | .fsk _ => .fsk

def name : DataRate → String
  | .lora factor bandwidth => factor.name ++ bandwidth.name
  | .fsk bitsPerSecond => toString bitsPerSecond.toNat

/-- Splits characters before the first `BW`. -/
def splitAtBandwidth? : List Char → Option (List Char × List Char)
  | [] => none
  | 'B' :: 'W' :: rest => some ([], 'B' :: 'W' :: rest)
  | c :: rest => (splitAtBandwidth? rest).map fun (before, after) => (c :: before, after)

/-- The LoRa data rate with a spelling: spreading factor, then bandwidth. -/
def ofLoraName (text : String) : Except RadioError DataRate :=
  let unknown := Except.error (.unknownName .dataRate text)
  match splitAtBandwidth? text.toList with
  | none => unknown
  | some (factor, bandwidth) =>
    match SpreadingFactor.ofName (String.ofList factor),
        Bandwidth.ofName (String.ofList bandwidth) with
    | .ok factor, .ok bandwidth => .ok (.lora factor bandwidth)
    | _, _ => unknown

end DataRate

end LorawanGateway
