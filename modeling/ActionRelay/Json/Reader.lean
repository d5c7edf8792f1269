import ActionRelay.Json.Basic
/-!
# JSON — reading

A text is cut into tokens, and the tokens are put together by a machine with
a stack of open brackets, so that values may be nested as deeply as the text
has characters. Reading is strict: no comments, no trailing commas, no
control characters in strings, and nothing but white space around the value.
-/

namespace ActionRelay

namespace Json

/-- A scalar, or one of the signs that build values out of others. -/
inductive Token where
  | scalar (value : Json)
  | openArray
  | closeArray
  | openObject
  | closeObject
  | comma
  | colon

/-! ## Strings -/

/-- The value of a hexadecimal digit. -/
def hexValue? (c : Char) : Option Nat :=
  if '0' ≤ c ∧ c ≤ '9' then some (c.toNat - '0'.toNat)
  else if 'a' ≤ c ∧ c ≤ 'f' then some (c.toNat - 'a'.toNat + 10)
  else if 'A' ≤ c ∧ c ≤ 'F' then some (c.toNat - 'A'.toNat + 10)
  else none

/-- The number spelled by four hexadecimal digits. -/
def hexQuad? (a b c d : Char) : Option Nat := do
  let a ← hexValue? a
  let b ← hexValue? b
  let c ← hexValue? c
  let d ← hexValue? d
  return ((a * 16 + b) * 16 + c) * 16 + d

/-- The character that a short escape stands for. -/
def shortEscape? : Char → Option Char
  | '"' => some '"'
  | '\\' => some '\\'
  | '/' => some '/'
  | 'b' => some '\x08'
  | 'f' => some '\x0c'
  | 'n' => some '\n'
  | 'r' => some '\r'
  | 't' => some '\t'
  | _ => none

/-- The units of a string whose opening quote has been read, and the text
behind its closing quote. A unit is a code point or half of a surrogate
pair; `before` holds the units read so far, the last one first. -/
def readUnits (before : List Nat) : List Char → Option (List Nat × List Char)
  | '"' :: rest => some (before.reverse, rest)
  | '\\' :: 'u' :: a :: b :: c :: d :: rest =>
    match hexQuad? a b c d with
    | some unit => readUnits (unit :: before) rest
    | none => none
  | '\\' :: c :: rest =>
    match shortEscape? c with
    | some e => readUnits (e.toNat :: before) rest
    | none => none
  | c :: rest => if c.toNat < 0x20 then none else readUnits (c.toNat :: before) rest
  | [] => none

/-- The first half of a surrogate pair. -/
def isHighHalf (unit : Nat) : Bool := 0xD800 ≤ unit && unit < 0xDC00

/-- The second half of a surrogate pair. -/
def isLowHalf (unit : Nat) : Bool := 0xDC00 ≤ unit && unit < 0xE000

/-- The characters that units spell, where a first half directly before a
second half is one character; `none` if a half stands alone. -/
def joinUnits (before : List Char) : List Nat → Option (List Char)
  | [] => some before.reverse
  | high :: low :: rest =>
    if isHighHalf high && isLowHalf low then
      joinUnits
        (Char.ofNat (0x10000 + (high - 0xD800) * 0x400 + (low - 0xDC00)) :: before) rest
    else if isHighHalf high || isLowHalf high then none
    else joinUnits (Char.ofNat high :: before) (low :: rest)
  | [unit] =>
    if isHighHalf unit || isLowHalf unit then none else some (Char.ofNat unit :: before).reverse

/-! ## Numbers -/

/-- The number spelled by decimal digits. -/
def digitsValue (digits : List Char) : Nat :=
  digits.foldl (fun n c => n * 10 + (c.toNat - '0'.toNat)) 0

/-- The digits in front, and the text behind them. -/
def spanDigits (cs : List Char) : List Char × List Char :=
  (cs.takeWhile Char.isDigit, cs.dropWhile Char.isDigit)

/-- The digits of a whole part, which has no superfluous zero in front, and
the text behind them. -/
def readWhole? (cs : List Char) : Option (List Char × List Char) :=
  match spanDigits cs with
  | ([], _) => none
  | ('0' :: _ :: _, _) => none
  | found => some found

/-- The digits of a fraction, if one stands in front. -/
def readFraction? : List Char → Option (Option (List Char) × List Char)
  | '.' :: rest =>
    match spanDigits rest with
    | ([], _) => none
    | (digits, behind) => some (some digits, behind)
  | cs => some (none, cs)

/-- The digits of an exponent whose sign has been read. -/
def readExponentDigits? (negative : Bool) (cs : List Char) :
    Option (Option Int × List Char) :=
  match spanDigits cs with
  | ([], _) => none
  | (digits, behind) =>
    let value : Int := digitsValue digits
    some (some (if negative then -value else value), behind)

/-- An exponent, if one stands in front. -/
def readExponent? : List Char → Option (Option Int × List Char)
  | 'e' :: '+' :: rest | 'E' :: '+' :: rest => readExponentDigits? false rest
  | 'e' :: '-' :: rest | 'E' :: '-' :: rest => readExponentDigits? true rest
  | 'e' :: rest | 'E' :: rest => readExponentDigits? false rest
  | cs => some (none, cs)

/-- The number whose sign has been read. -/
def readNumber? (negative : Bool) (cs : List Char) : Option (Json × List Char) := do
  let (whole, cs) ← readWhole? cs
  let (fraction, cs) ← readFraction? cs
  let (exponent, cs) ← readExponent? cs
  match negative, fraction, exponent with
  | false, none, none => return (.natural (digitsValue whole), cs)
  | _, _, _ =>
    let places := fraction.getD []
    let value : Decimal :=
      ⟨negative, digitsValue (whole ++ places), places.length, exponent.getD 0⟩
    return (.decimal value, cs)

/-! ## Tokens -/

/-- The first token of a text that starts with no white space, and the text
behind it. -/
def firstToken? : List Char → Option (Token × List Char)
  | '[' :: rest => some (.openArray, rest)
  | ']' :: rest => some (.closeArray, rest)
  | '\x7b' :: rest => some (.openObject, rest)
  | '\x7d' :: rest => some (.closeObject, rest)
  | ',' :: rest => some (.comma, rest)
  | ':' :: rest => some (.colon, rest)
  | '"' :: rest =>
    (readUnits [] rest).map fun (units, behind) =>
      (.scalar (.string ((joinUnits [] units).map String.ofList)), behind)
  | 'n' :: 'u' :: 'l' :: 'l' :: rest => some (.scalar .null, rest)
  | 't' :: 'r' :: 'u' :: 'e' :: rest => some (.scalar (.bool true), rest)
  | 'f' :: 'a' :: 'l' :: 's' :: 'e' :: rest => some (.scalar (.bool false), rest)
  | '-' :: rest => (readNumber? true rest).map fun (n, behind) => (.scalar n, behind)
  | cs => (readNumber? false cs).map fun (n, behind) => (.scalar n, behind)

/-- White space between tokens. -/
def isSpace (c : Char) : Bool :=
  c == ' ' || c == '\t' || c == '\n' || c == '\r'

/-- The tokens of a text of at most `fuel` characters; `before` holds those
read so far, the last one first. Each step takes at least one character. -/
def tokensWithin (before : List Token) : (fuel : Nat) → List Char → Option (List Token)
  | _, [] => some before.reverse
  | 0, _ :: _ => none
  | fuel + 1, c :: rest =>
    if isSpace c then tokensWithin before fuel rest
    else
      match firstToken? (c :: rest) with
      | some (token, behind) => tokensWithin (token :: before) fuel behind
      | none => none

/-- The tokens of a text. -/
def tokens? (cs : List Char) : Option (List Token) :=
  tokensWithin [] cs.length cs

/-! ## Values -/

/-- A bracket that is still open, with what stands in it so far, the last
one first. -/
inductive Frame where
  | array (items : List Json)
  /-- An object that awaits the value of `key`. -/
  | object (fields : List (Option String × Json)) (key : Option String)

/-- Where the machine stands: before a value, or behind one. -/
inductive Stage where
  | before
  | behind (value : Json)

/-- The value that the tokens complete inside the open brackets. -/
def assemble : Stage → List Frame → List Token → Option Json
  | .before, stack, .scalar value :: rest => assemble (.behind value) stack rest
  | .before, stack, .openArray :: .closeArray :: rest => assemble (.behind (.array [])) stack rest
  | .before, stack, .openArray :: rest => assemble .before (.array [] :: stack) rest
  | .before, stack, .openObject :: .closeObject :: rest =>
    assemble (.behind (.object [])) stack rest
  | .before, stack, .openObject :: .scalar (.string key) :: .colon :: rest =>
    assemble .before (.object [] key :: stack) rest
  | .behind value, .array items :: stack, .comma :: rest =>
    assemble .before (.array (value :: items) :: stack) rest
  | .behind value, .array items :: stack, .closeArray :: rest =>
    assemble (.behind (.array (value :: items).reverse)) stack rest
  | .behind value, .object fields key :: stack,
    .comma :: .scalar (.string next) :: .colon :: rest =>
    assemble .before (.object ((key, value) :: fields) next :: stack) rest
  | .behind value, .object fields key :: stack, .closeObject :: rest =>
    assemble (.behind (.object ((key, value) :: fields).reverse)) stack rest
  | .behind value, [], [] => some value
  | _, _, _ => none

/-- The value that a text spells, if it is JSON. -/
def ofText? (text : String) : Option Json :=
  (tokens? text.toList).bind (assemble .before [])

end Json

end ActionRelay
