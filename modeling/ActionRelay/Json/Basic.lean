import ActionRelay.Decimal
/-!
# JSON — values

A JSON value as a text spells it: the fields of an object in their order,
repeated ones included, and numbers by the form they are written in. A
plain row of digits is a natural number; a number with a sign, a fraction or
an exponent is a `Decimal`, whatever its value is.

An escape in a string may name half of a surrogate pair. Such a string has
no text, and its place is marked by `none`.
-/

namespace ActionRelay

/-- A JSON value. -/
inductive Json where
  | null
  | bool (value : Bool)
  /-- A number written as a plain row of digits. -/
  | natural (value : Nat)
  /-- A number written in any other form. -/
  | decimal (value : Decimal)
  /-- A string; `none` if an escape in it names half of a surrogate pair. -/
  | string (text : Option String)
  | array (items : List Json)
  | object (fields : List (Option String × Json))

namespace Json

instance : Inhabited Json := ⟨.null⟩

/-- A string with a text. -/
def text (s : String) : Json := .string (some s)

/-- An object whose keys have a text. -/
def record (fields : List (String × Json)) : Json :=
  .object (fields.map fun (key, value) => (some key, value))

end Json

end ActionRelay
