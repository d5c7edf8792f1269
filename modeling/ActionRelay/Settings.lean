import ActionRelay.Declaration.Arena
import ActionRelay.ParameterNames
import ActionRelay.Rendering
/-!
# Settings

Everything a generation pass can be told: the names it uses, how payloads
are named, which structs count as reducers and how declarations are turned
into text.
-/

namespace ActionRelay

/-- What is done about a case with a payload that cannot be named. -/
inductive UnnamedPolicy where
  /-- The pass fails. -/
  | abort
  /-- The case is treated as excluded. -/
  | dropCase
deriving DecidableEq

/-- The settings of a pass. -/
structure Settings where
  conventions : Conventions
  naming : Naming
  unnamed : UnnamedPolicy
  /-- Whether an aggregate, listed by the entry, counts as a reducer. -/
  isReducer : Entry → Aggregate → Bool
  renderer : Renderer

/-- Aggregates that inherit the capability, or carry an attribute of that
name. -/
def conformsTo (capability : String) (entry : Entry) (head : Aggregate) : Bool :=
  head.inherited.any (·.text == capability) || (entry.site.attribute? capability).isSome

/-- The settings for given names, with the defaults for all else. -/
def Settings.ofConventions (conventions : Conventions) : Settings where
  conventions := conventions
  naming := .typeDerived
  unnamed := .abort
  isReducer := conformsTo conventions.capability
  renderer := sourceRenderer

end ActionRelay
