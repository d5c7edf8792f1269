/-!
# Conventions

The names that generated declarations are made of, and those by which the
parts of a reducer are recognised.
-/

namespace ActionRelay

/-- The fixed names of a project. -/
structure Conventions where
  /-- The nested enum of actions. -/
  actionType : String := "Action"
  stateType : String := "State"
  effectType : String := "Effect"
  /-- What a reducer conforms to, and the generated wrapper too. -/
  capability : String := "Reducer"
  /-- The attribute that excludes a case from dispatch. -/
  exclusion : String := "SkipDispatch"
  /-- The generated wrapper. -/
  dispatchName : String := "Dispatch"
  /-- The method of the wrapper that receives actions. -/
  dispatchMethod : String := "reduce"
  /-- The field of the wrapper that holds the handler. -/
  handlerField : String := "actionDelegate"
  /-- What is appended to a reducer's name for its handler interface. -/
  interfaceSuffix : String := "ActionDelegate"
  /-- The parameter that carries the state. -/
  stateParameter : String := "state"
  /-- The expression of no effect. -/
  noOp : String := ".none"
deriving DecidableEq

end ActionRelay
