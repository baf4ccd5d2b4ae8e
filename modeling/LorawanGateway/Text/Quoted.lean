import LorawanGateway.Text.Printable

/-!
Quoted forms for diagnostics: what cannot be printed is written as an escape, so that a message
shows exactly which characters were received.
-/

namespace LorawanGateway.Text

/-- The lower-case hexadecimal digits of a number without leading zeros. -/
def codeDigits (code : Nat) : String :=
  String.ofList (Nat.toDigits 16 code)

/-- A character inside a quoted form that ends with `quote`. -/
def escapeChar (quote c : Char) : String :=
  if c == quote || c == '\\' then String.ofList ['\\', c]
  else if c == '\n' then "\\n"
  else if c == '\r' then "\\r"
  else if c == '\t' then "\\t"
  else if c.toNat == 0 then "\\0"
  else if isPrintable c then String.singleton c
  else "\\u\x7b" ++ codeDigits c.toNat ++ "\x7d"

def quoteChar (c : Char) : String :=
  "'" ++ escapeChar '\'' c ++ "'"

def quote (text : String) : String :=
  "\"" ++ String.join (text.toList.map (escapeChar '"')) ++ "\""

end LorawanGateway.Text
