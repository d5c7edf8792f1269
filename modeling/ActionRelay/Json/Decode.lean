import ActionRelay.Json.Basic
/-!
# JSON — records

How records are read from JSON values. A record is an object, of which only
the known fields are looked at and none of these may stand twice; a plain
record may also be an array of its fields in their order, where fields at
the end may be left out.

A text that holds a record has to be readable (`Json.readable`): what is
read may be nested up to a limit, its strings have texts and its numbers are
finite. Fields that are never looked at are under no such condition.
-/

namespace ActionRelay

namespace Json

/-- The text of a string. -/
def string? : Json → Option String
  | .string text => text
  | _ => none

/-- A string, or `null` for none. -/
def optionalString? : Json → Option (Option String)
  | .null => some none
  | .string (some text) => some (some text)
  | _ => none

/-- A natural number of at most 64 bits. -/
def word? : Json → Option Nat
  | .natural n => if n < Nat.pow 2 64 then some n else none
  | _ => none

/-- The items of an array, each read by `item`. -/
def listOf? {α : Type} (item : Json → Option α) : Json → Option (List α)
  | .array items => items.mapM item
  | _ => none

/-- The value of the field `key`, or `none` inside if there is no such
field; the whole is refused if the field stands twice. -/
def field? (fields : List (Option String × Json)) (key : String) : Option (Option Json) :=
  match fields.filter (·.1 == some key) with
  | [] => some none
  | [(_, value)] => some (some value)
  | _ => none

/-- The values of the fields `keys` of a plain record, in that order, with
`none` for those that are left out. -/
def fields? (keys : List String) : Json → Option (List (Option Json))
  | .object fields => keys.mapM (field? fields)
  | .array items =>
    if items.length ≤ keys.length then
      some (items.map some ++ List.replicate (keys.length - items.length) none)
    else none
  | _ => none

/-- A field that has to be there. -/
def required {α : Type} (read : Json → Option α) (value : Option Json) : Option α :=
  value.bind read

/-- A field that stands for `default` if it is left out. -/
def withDefault {α : Type} (default : α) (read : Json → Option α) : Option Json → Option α
  | none => some default
  | some value => read value

/-- The name of a choice without contents: a string, or an object of that one
key whose value is empty in the sense of `isEmpty`. -/
def choice? (isEmpty : Json → Bool) : Json → Option String
  | .string text => text
  | .object [(some name, value)] => if isEmpty value then some name else none
  | _ => none

/-- The value `null`. -/
def isNull : Json → Bool
  | .null => true
  | _ => false

/-- The value `null`, or an object without fields. -/
def isNullOrEmpty : Json → Bool
  | .null => true
  | .object [] => true
  | _ => false

/-! ## Readable values -/

/-- Which parts of a value are read. -/
inductive Shape where
  /-- Everything. -/
  | whole
  /-- All items of an array, each in the given shape. -/
  | items (item : Shape)
  /-- The given fields of a record, and the other ones only if `others`. -/
  | fields (known : List (String × Shape)) (others : Bool)

namespace Shape

/-- The shape of the item at a position of an array. -/
def atIndex (i : Nat) : Shape → Shape
  | .whole => .whole
  | .items item => item
  | .fields known _ => (known[i]?.map Prod.snd).getD .whole

/-- The shape of a field, if it is read at all. -/
def atKey? (key : String) : Shape → Option Shape
  | .whole => some .whole
  | .items _ => some .whole
  | .fields known others =>
    match known.lookup key with
    | some shape => some shape
    | none => if others then some .whole else none

end Shape

/-- Whether the parts of a value that are read have at most `levels` arrays
and objects inside each other, strings and keys with texts, and finite
numbers. -/
def readable : (levels : Nat) → Shape → Json → Bool
  | _, _, .null => true
  | _, _, .bool _ => true
  | _, _, .natural n => (Decimal.ofNat n).isFinite
  | _, _, .decimal d => d.isFinite
  | _, _, .string text => text.isSome
  | 0, _, .array _ => false
  | 0, _, .object _ => false
  | levels + 1, shape, .array items =>
    items.zipIdx.all fun (value, i) => readable levels (shape.atIndex i) value
  | levels + 1, shape, .object fields =>
    fields.all fun (key, value) =>
      match key with
      | none => false
      | some key =>
        match shape.atKey? key with
        | none => true
        | some shape => readable levels shape value

/-- The levels of arrays and objects that a text may have. -/
def maxLevels : Nat := 127

end Json

end ActionRelay
