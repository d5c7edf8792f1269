/-!
# The dispatch wrapper

The generated wrapper holds a handler and forwards each action to the method
named like its case, with the payloads and the state as arguments.
-/

namespace ActionRelay

/-- What is passed as an argument. -/
inductive Call.Value where
  /-- A payload under the name it was bound to. -/
  | binding (name : String)
  /-- The state, by reference. -/
  | state (name : String)
deriving DecidableEq

/-- The name of what is passed. -/
def Call.Value.name : Call.Value → String
  | binding name => name
  | state name => name

/-- An argument with its label, if any. -/
structure Call.Argument where
  label : Option String
  value : Call.Value
deriving DecidableEq

/-- The call of a handler's method. -/
structure Call where
  receiver : String
  method : String
  arguments : List Call.Argument
deriving DecidableEq

/-- What is done with the actions of one case; no call means no effect. -/
structure Arm where
  tag : String
  bindings : List String
  call : Option Call
deriving DecidableEq

/-- The wrapper of a reducer. -/
structure Dispatch where
  name : String
  capability : String
  handlerField : String
  handlerType : String
  /-- One arm per case in the order of declaration, or `none` if no case is
  forwarded. -/
  body : Option (List Arm)
deriving DecidableEq

/-- The arms; there are none where no case is forwarded. -/
def Dispatch.arms (dispatch : Dispatch) : List Arm :=
  dispatch.body.getD []

end ActionRelay
