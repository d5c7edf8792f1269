import ActionRelay.ActionUnion
import ActionRelay.Pass
import ActionRelay.Settings
/-!
# Resolution

Before anything is generated, every case of the action union is resolved: it
is skipped, or forwarded with a name for each payload.
-/

namespace ActionRelay

/-- What becomes of a case. -/
inductive ResolvedCase where
  /-- Its actions have no effect and no method. -/
  | skipped (action : ActionCase)
  /-- Its actions are forwarded, the payloads under the given names. -/
  | forwarded (action : ActionCase) (names : List String)
deriving DecidableEq

/-- The names that no payload may have inside the wrapper. -/
def Conventions.reserved (conventions : Conventions) : List String :=
  [conventions.stateParameter, conventions.handlerField]

namespace ActionCase

/-- The names of the payloads. -/
def names (action : ActionCase) (settings : Settings) : Except Diagnostic (List String) :=
  parameterNames action.name action.slots settings.naming settings.conventions.reserved

/-- Resolves a case. -/
def resolve (settings : Settings) (action : ActionCase) : Pass ResolvedCase :=
  let resolving := Event.resolvingCase action.name action.slots.length action.excluded
  if action.excluded then ⟨[resolving], .ok (.skipped action)⟩
  else
    match action.names settings with
    | .ok names => ⟨[resolving], .ok (.forwarded action names)⟩
    | .error diagnostic =>
      match settings.unnamed with
      | .abort => ⟨[resolving], .error diagnostic⟩
      | .dropCase => ⟨[resolving, .caseDropped action.name diagnostic], .ok (.skipped action)⟩

end ActionCase

/-- Resolves cases in their order, up to the first that fails. -/
def resolveAll (settings : Settings) : List ActionCase → Pass (List ResolvedCase)
  | [] => pure []
  | action :: actions => do
    let first ← action.resolve settings
    let later ← resolveAll settings actions
    return first :: later

end ActionRelay
