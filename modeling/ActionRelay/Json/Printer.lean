import ActionRelay.Json.Basic
/-!
# JSON — printing

The text of a value, without white space between its tokens and in ASCII
characters only, so that it stands on one line in every encoding. Reading it
gives the value again (`ofText?_print`).
-/

namespace ActionRelay

namespace Json

/-- A hexadecimal digit in lower case. -/
def hexDigit (n : Nat) : Char :=
  if n < 10 then Char.ofNat ('0'.toNat + n) else Char.ofNat ('a'.toNat + (n - 10))

/-- The escape of a unit by four hexadecimal digits. -/
def escapeUnit (unit : Nat) : String :=
  String.ofList ['\\', 'u', hexDigit (unit / 0x1000 % 16), hexDigit (unit / 0x100 % 16),
    hexDigit (unit / 0x10 % 16), hexDigit (unit % 16)]

/-- A character as it stands between quotes. -/
def escapeChar (c : Char) : String :=
  if c = '"' then "\\\""
  else if c = '\\' then "\\\\"
  else if 0x20 ≤ c.toNat ∧ c.toNat < 0x7F then c.toString
  else if c.toNat < 0x10000 then escapeUnit c.toNat
  else escapeUnit (0xD800 + (c.toNat - 0x10000) / 0x400)
    ++ escapeUnit (0xDC00 + (c.toNat - 0x10000) % 0x400)

/-- A string between quotes; one without a text is the escape of half a
surrogate pair. -/
def quoted : Option String → String
  | none => "\"" ++ escapeUnit 0xD800 ++ "\""
  | some text => "\"" ++ String.join (text.toList.map escapeChar) ++ "\""

/-- A row of digits. -/
def digitText (digits : List Nat) : String :=
  String.ofList (digits.map fun digit => Char.ofNat ('0'.toNat + digit))

/-- The text of a number that is no plain row of digits. -/
def decimalText (d : Decimal) : String :=
  (if d.negative then "-" else "") ++ digitText d.wholeDigits ++
    (if d.places = 0 then "" else "." ++ digitText d.fractionDigits) ++
    (if d.exponent < 0 then "e-" else "e") ++ Nat.repr d.exponent.natAbs

mutual

/-- The text of a value. -/
def print : Json → String
  | .null => "null"
  | .bool value => if value then "true" else "false"
  | .natural value => Nat.repr value
  | .decimal value => decimalText value
  | .string text => quoted text
  | .array items => "[" ++ String.intercalate "," (printItems items) ++ "]"
  | .object fields => "\x7b" ++ String.intercalate "," (printFields fields) ++ "\x7d"

/-- The texts of the items of an array. -/
def printItems : List Json → List String
  | [] => []
  | item :: items => item.print :: printItems items

/-- The texts of the fields of an object. -/
def printFields : List (Option String × Json) → List String
  | [] => []
  | (key, value) :: fields => (quoted key ++ ":" ++ value.print) :: printFields fields

end

end Json

end ActionRelay
