import ActionRelay.Json.Decode
import ActionRelay.Json.Reader
import ActionRelay.Settings
/-!
# Configuration

A configuration is a JSON text with the names and choices that differ from
the usual ones; every field may be left out.
-/

namespace ActionRelay

open Json (withDefault)

namespace Conventions

/-- The keys of the names, in the order of an array. -/
def keys : List String :=
  ["action_type", "state_type", "effect_type", "capability", "exclusion_attribute",
    "dispatch_name", "dispatch_method", "handler_field", "interface_suffix", "state_parameter",
    "no_op"]

/-- A name that is left out is the usual one. -/
def ofJson? (json : Json) : Option Conventions :=
  let usual : Conventions := {}
  let name (default : String) := withDefault default Json.string?
  match json.fields? keys with
  | some [actionType, stateType, effectType, capability, exclusion, dispatchName, dispatchMethod,
      handlerField, interfaceSuffix, stateParameter, noOp] => do
    return {
      actionType := ← name usual.actionType actionType
      stateType := ← name usual.stateType stateType
      effectType := ← name usual.effectType effectType
      capability := ← name usual.capability capability
      exclusion := ← name usual.exclusion exclusion
      dispatchName := ← name usual.dispatchName dispatchName
      dispatchMethod := ← name usual.dispatchMethod dispatchMethod
      handlerField := ← name usual.handlerField handlerField
      interfaceSuffix := ← name usual.interfaceSuffix interfaceSuffix
      stateParameter := ← name usual.stateParameter stateParameter
      noOp := ← name usual.noOp noOp }
  | _ => none

end Conventions

namespace Naming

/-- The word for a choice. -/
def word : Naming → String
  | typeDerived => "type-derived"
  | positional => "positional"

/-- The choice that a word stands for. -/
def ofWord? : String → Option Naming
  | "type-derived" => some typeDerived
  | "positional" => some positional
  | _ => none

/-- A choice is given by its word. -/
def ofJson? (json : Json) : Option Naming :=
  (json.choice? Json.isNull).bind ofWord?

end Naming

namespace UnnamedPolicy

/-- The word for a choice. -/
def word : UnnamedPolicy → String
  | abort => "abort"
  | dropCase => "drop-variant"

/-- The choice that a word stands for. -/
def ofWord? : String → Option UnnamedPolicy
  | "abort" => some abort
  | "drop-variant" => some dropCase
  | _ => none

/-- A choice is given by its word. -/
def ofJson? (json : Json) : Option UnnamedPolicy :=
  (json.choice? Json.isNull).bind ofWord?

end UnnamedPolicy

/-- The names and choices of a project. -/
structure Configuration where
  conventions : Conventions := {}
  naming : Naming := .typeDerived
  unnamed : UnnamedPolicy := .abort
deriving DecidableEq

namespace Configuration

/-- What is left out is as usual. -/
def ofJson? (json : Json) : Option Configuration :=
  match json.fields? ["conventions", "naming", "unsupported_parameter"] with
  | some [conventions, naming, unnamed] => do
    return {
      conventions := ← withDefault {} Conventions.ofJson? conventions
      naming := ← withDefault .typeDerived Naming.ofJson? naming
      unnamed := ← withDefault .abort UnnamedPolicy.ofJson? unnamed }
  | _ => none

/-- The parts of a configuration that are read. -/
def shape : Json.Shape :=
  .fields
    [("conventions", .fields (Conventions.keys.map (·, .whole)) false), ("naming", .whole),
      ("unsupported_parameter", .whole)]
    false

/-- The configuration that a text spells. -/
def ofText? (text : String) : Option Configuration := do
  let json ← Json.ofText? text
  if Json.readable Json.maxLevels shape json then ofJson? json else none

/-- The settings for a configuration; `naming` takes precedence over the
choice in it. -/
def settings (configuration : Configuration) (naming : Option Naming) : Settings :=
  { Settings.ofConventions configuration.conventions with
    naming := naming.getD configuration.naming
    unnamed := configuration.unnamed }

end Configuration

end ActionRelay
