import ActionRelay.Declaration.Basic
import ActionRelay.Json.Decode
import ActionRelay.TypeExpr.Printer
import ActionRelay.TypeExpr.Reader
/-!
# Declarations — as JSON

A declaration is an object whose field `decl` tells its kind. Writing puts
down every field; reading takes a default for the fields that may be left
out and looks only at the fields of the declaration's own kind. Types are
written as their text.
-/

namespace ActionRelay

open Json (required withDefault)

/-! ## Writing -/

namespace Span

/-- Both ends by name. -/
def toJson (span : Span) : Json :=
  .record [("start", .natural span.start), ("end", .natural span.stop)]

end Span

namespace Attribute

/-- The name and the span. -/
def toJson (a : Attribute) : Json :=
  .record [("name", .text a.name), ("span", a.span.toJson)]

end Attribute

namespace Slot

/-- A name that may be missing. -/
def nameToJson : Option String → Json
  | none => .null
  | some name => .text name

/-- All parts by name, the type as its text. -/
def toJson (slot : Slot) : Json :=
  .record [("label", nameToJson slot.label), ("bind", nameToJson slot.bind),
    ("type", .text slot.type.text), ("span", slot.span.toJson)]

end Slot

namespace Site

/-- The fields that every declaration has. -/
def jsonFields (site : Site) : List (String × Json) :=
  [("span", site.span.toJson), ("text", .text site.text),
    ("attributes", .array (site.attributes.map Attribute.toJson))]

end Site

namespace Aggregate

/-- The fields of an aggregate apart from its members. -/
def jsonFields (head : Aggregate) : List (String × Json) :=
  [("kind", .text head.kind.keyword), ("name", .text head.name),
    ("name_span", head.nameSpan.toJson), ("modifiers", .array (head.modifiers.map .text)),
    ("inherited_types", .array (head.inherited.map fun type => .text type.text))]

end Aggregate

namespace EnumCase

/-- The fields of a case. -/
def jsonFields (head : EnumCase) : List (String × Json) :=
  [("name", .text head.name), ("slots", .array (head.slots.map Slot.toJson))]

end EnumCase

namespace Declaration

mutual

/-- The declaration as JSON, with every field. -/
def toJson : Declaration → Json
  | .aggregate site head members =>
    .record (site.jsonFields ++ ("decl", .text "aggregate") :: head.jsonFields
      ++ [("members", .array (toJsons members))])
  | .enumCase site head =>
    .record (site.jsonFields ++ ("decl", .text "case") :: head.jsonFields)
  | .other site =>
    .record (site.jsonFields ++ [("decl", .text "other")])

/-- Several declarations as JSON. -/
def toJsons : List Declaration → List Json
  | [] => []
  | d :: ds => d.toJson :: toJsons ds

end

end Declaration

/-! ## Reading -/

namespace Span

/-- Both ends have to be there. -/
def ofJson? (json : Json) : Option Span :=
  match json.fields? ["start", "end"] with
  | some [start, stop] => do
    return { start := ← required Json.word? start, stop := ← required Json.word? stop }
  | _ => none

/-- The parts of a span that are read. -/
def shape : Json.Shape :=
  .fields [("start", .whole), ("end", .whole)] false

end Span

namespace Attribute

/-- The span may be left out. -/
def ofJson? (json : Json) : Option Attribute :=
  match json.fields? ["name", "span"] with
  | some [name, span] => do
    return { name := ← required Json.string? name, span := ← withDefault {} Span.ofJson? span }
  | _ => none

/-- The parts of an attribute that are read. -/
def shape : Json.Shape :=
  .fields [("name", .whole), ("span", Span.shape)] false

end Attribute

/-- A type is given by its text. -/
def TypeExpr.ofJson? (json : Json) : Option TypeExpr :=
  json.string?.map TypeExpr.ofText

namespace Slot

/-- Only the type has to be there. -/
def ofJson? (json : Json) : Option Slot :=
  match json.fields? ["label", "bind", "type", "span"] with
  | some [label, bind, type, span] => do
    return {
      label := ← withDefault none Json.optionalString? label
      bind := ← withDefault none Json.optionalString? bind
      type := ← required TypeExpr.ofJson? type
      span := ← withDefault {} Span.ofJson? span }
  | _ => none

end Slot

/-- A kind is given by its keyword. -/
def AggregateKind.ofJson? (json : Json) : Option AggregateKind :=
  (json.choice? Json.isNullOrEmpty).bind AggregateKind.ofKeyword?

namespace Declaration

/-- The kinds of declarations. -/
inductive Tag where
  | aggregate
  | enumCase
  | other

/-- A kind is given by its name, or by its position among the kinds. -/
def Tag.ofJson? : Json → Option Tag
  | .string (some "aggregate") => some .aggregate
  | .string (some "case") => some .enumCase
  | .string (some "other") => some .other
  | .natural 0 => some .aggregate
  | .natural 1 => some .enumCase
  | .natural 2 => some .other
  | _ => none

/-- The fields of an object. -/
abbrev JsonFields := List (Option String × Json)

/-- Reads a field of an object. -/
def readField {α : Type} (fields : JsonFields) (key : String) (read : Option Json → Option α) :
    Option α :=
  (Json.field? fields key).bind read

/-- The fields that every declaration has, all of which may be left out. -/
def siteOfJson? (fields : JsonFields) : Option Site := do
  return {
    span := ← readField fields "span" (withDefault {} Span.ofJson?)
    text := ← readField fields "text" (withDefault "" Json.string?)
    attributes :=
      ← readField fields "attributes" (withDefault [] (Json.listOf? Attribute.ofJson?)) }

/-- The fields of an aggregate apart from its members. -/
def headOfJson? (fields : JsonFields) : Option Aggregate := do
  return {
    kind := ← readField fields "kind" (required AggregateKind.ofJson?)
    name := ← readField fields "name" (required Json.string?)
    nameSpan := ← readField fields "name_span" (withDefault {} Span.ofJson?)
    modifiers := ← readField fields "modifiers" (withDefault [] (Json.listOf? Json.string?))
    inherited :=
      ← readField fields "inherited_types" (withDefault [] (Json.listOf? TypeExpr.ofJson?)) }

/-- The fields of a case. -/
def caseOfJson? (fields : JsonFields) : Option EnumCase := do
  return {
    name := ← readField fields "name" (required Json.string?)
    slots := ← readField fields "slots" (withDefault [] (Json.listOf? Slot.ofJson?)) }

/-- The value of the field `members`, which may be left out. -/
def memberJsons? (fields : JsonFields) : Option (List Json) :=
  match Json.field? fields "members" with
  | some none => some []
  | some (some (.array items)) => some items
  | _ => none

theorem sizeOf_lt_of_memberJsons? {fields : JsonFields} {items : List Json}
    (h : memberJsons? fields = some items) : sizeOf items < sizeOf (Json.object fields) := by
  unfold memberJsons? at h
  split at h
  · cases h
    cases fields <;>
      simp only [List.nil.sizeOf_spec, List.cons.sizeOf_spec, Json.object.sizeOf_spec] <;> omega
  · rename_i found hfield
    cases h
    unfold Json.field? at hfield
    split at hfield
    · cases hfield
    · rename_i key value hfilter
      cases hfield
      have hmem : (key, Json.array items) ∈ fields :=
        (List.mem_filter.mp (hfilter ▸ List.mem_singleton_self _)).1
      have := List.sizeOf_lt_of_mem hmem
      simp only [Prod.mk.sizeOf_spec, Json.array.sizeOf_spec, Json.object.sizeOf_spec] at *
      omega
    · cases hfield
  · cases h

mutual

/-- The declaration that a JSON value describes. -/
def ofJson? (json : Json) : Option Declaration :=
  match json with
  | .object fields => do
    let site ← siteOfJson? fields
    match ← readField fields "decl" (required Tag.ofJson?) with
    | .aggregate =>
      let head ← headOfJson? fields
      match h : memberJsons? fields with
      | none => none
      | some items =>
        have := sizeOf_lt_of_memberJsons? h
        return .aggregate site head (← ofJsons? items)
    | .enumCase => return .enumCase site (← caseOfJson? fields)
    | .other => return .other site
  | _ => none
termination_by sizeOf json
decreasing_by assumption

/-- The declarations that several JSON values describe. -/
def ofJsons? (jsons : List Json) : Option (List Declaration) :=
  match jsons with
  | [] => some []
  | json :: jsons => do
    return (← ofJson? json) :: (← ofJsons? jsons)
termination_by sizeOf jsons

end

/-- The parts of a declaration that are read: its own fields as they are
needed, and every other one whole, since its kind is known only at the
end. -/
def shape : Json.Shape :=
  .fields [("span", Span.shape), ("text", .whole), ("attributes", .items Attribute.shape)] true

end Declaration

end ActionRelay
