import ActionRelay.ArgumentLabel
/-!
# The handler interface

The generated interface has one method per forwarded case; whoever handles
the actions of a reducer implements it.
-/

namespace ActionRelay

/-- Who can see a declaration. -/
inductive Visibility where
  | privateScope
  | fileScope
  | moduleScope
deriving DecidableEq

namespace Visibility

/-- The modifier that gives the visibility. -/
def keyword : Visibility → String
  | privateScope => "private"
  | fileScope => "fileprivate"
  | moduleScope => "internal"

/-- The visibility that a modifier gives, if it gives one. -/
def ofModifier? : String → Option Visibility
  | "private" => some privateScope
  | "fileprivate" => some fileScope
  | "internal" => some moduleScope
  | _ => none

/-- The first visibility among the modifiers; without one, a declaration is
visible in its module. -/
def ofModifiers (modifiers : List String) : Visibility :=
  (modifiers.findSome? ofModifier?).getD moduleScope

end Visibility

/-- A parameter for a payload. -/
structure Parameter where
  label : ArgumentLabel
  name : String
  type : TypeExpr
deriving DecidableEq

/-- The last parameter of every method, the state by reference. -/
structure StateParameter where
  name : String
  type : TypeExpr
deriving DecidableEq

/-- A method of the interface. -/
structure Signature where
  name : String
  parameters : List Parameter
  state : StateParameter
  returns : TypeExpr
deriving DecidableEq

/-- The number of parameters, the state included. -/
def Signature.arity (signature : Signature) : Nat :=
  signature.parameters.length + 1

/-- A shorter name for a type. -/
structure Alias where
  name : String
  target : TypeExpr
deriving DecidableEq

/-- The handler interface of a reducer. -/
structure Interface where
  visibility : Visibility
  name : String
  aliases : List Alias
  methods : List Signature
deriving DecidableEq

/-- The first method of a name. -/
def Interface.method? (interface : Interface) (name : String) : Option Signature :=
  interface.methods.find? (·.name == name)

end ActionRelay
