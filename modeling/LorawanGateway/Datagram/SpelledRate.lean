import LorawanGateway.Json.Printer
import LorawanGateway.Json.Record

/-!
Data rates as datagrams spell them, in both directions.
-/

namespace LorawanGateway

/-- A data rate as it is spelled in a datagram: by name for LoRa, in bits per second for FSK. -/
inductive SpelledRate where
  | name (text : String)
  | bitsPerSecond (value : UInt32)
  deriving DecidableEq, Repr

namespace SpelledRate

def toJson : SpelledRate → Json
  | .name text => .text text
  | .bitsPerSecond value => .natural value.toNat

def ofJson? (value : Json) : Option SpelledRate :=
  (SpelledRate.name <$> Json.text? value) <|> (SpelledRate.bitsPerSecond <$> Json.word32? value)

end SpelledRate

end LorawanGateway
