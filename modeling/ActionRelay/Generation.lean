import ActionRelay.Exclusion
import ActionRelay.Reducer
import ActionRelay.Resolution
import ActionRelay.TypeExpr.Qualify
/-!
# Generation

The wrapper and the handler interface of a reducer, made from its resolved
cases. A pass makes both or, with the first fault, none.
-/

namespace ActionRelay

/-- The two declarations made for a reducer. -/
structure Generated where
  dispatch : Dispatch
  interface : Interface
deriving DecidableEq

/-- The name of a reducer's handler interface. -/
def Reducer.interfaceName (reducer : Reducer) (names : Conventions) : String :=
  reducer.name ++ names.interfaceSuffix

namespace ResolvedCase

/-- Whether the actions of the case are forwarded. -/
def isForwarded : ResolvedCase → Bool
  | skipped _ => false
  | forwarded _ _ => true

/-- The argument for a payload under its name. -/
def payloadArgument (slot : Slot) (name : String) : Call.Argument :=
  ⟨(slot.argumentLabel name).callLabel? name, .binding name⟩

/-- The arm of the wrapper for a case. -/
def arm (names : Conventions) : ResolvedCase → Arm
  | skipped action => ⟨action.name, [], none⟩
  | forwarded action bindings =>
    { tag := action.name
      bindings
      call := some
        { receiver := names.handlerField
          method := action.name
          arguments := List.zipWith payloadArgument action.slots bindings
            ++ [⟨some names.stateParameter, .state names.stateParameter⟩] } }

/-- The parameter for a payload under its name, its type as it is known
outside the union. -/
def parameter (union : ActionUnion) (slot : Slot) (name : String) : Parameter :=
  ⟨slot.argumentLabel name, name, slot.type.qualify union.nested union.name⟩

/-- The method of the interface for a case that is forwarded. -/
def signature? (names : Conventions) (union : ActionUnion) : ResolvedCase → Option Signature
  | skipped _ => none
  | forwarded action bindings => some
    { name := action.name
      parameters := List.zipWith (parameter union) action.slots bindings
      state := ⟨names.stateParameter, .plain [names.stateType]⟩
      returns := .named [⟨names.effectType, [.plain [names.actionType]]⟩] }

end ResolvedCase

namespace Reducer

/-- The wrapper made from the resolved cases. -/
def dispatch (reducer : Reducer) (names : Conventions) (resolved : List ResolvedCase) :
    Dispatch where
  name := names.dispatchName
  capability := names.capability
  handlerField := names.handlerField
  handlerType := reducer.interfaceName names
  body :=
    if resolved.any ResolvedCase.isForwarded then some (resolved.map (ResolvedCase.arm names))
    else none

/-- The interface made from the resolved cases. -/
def interface (reducer : Reducer) (names : Conventions) (union : ActionUnion)
    (resolved : List ResolvedCase) : Interface where
  visibility := .ofModifiers reducer.host.modifiers
  name := reducer.interfaceName names
  aliases :=
    [⟨names.stateType, .plain [reducer.name, names.stateType]⟩,
      ⟨names.actionType, .plain [reducer.name, union.name]⟩]
  methods := resolved.filterMap (ResolvedCase.signature? names union)

end Reducer

namespace Target

/-- The checks before any case is resolved: the reducer and its action
union. -/
def prepare (target : Target) (settings : Settings) : Pass (Reducer × ActionUnion) := do
  let reducer ← Pass.silent (target.reducer settings)
  let exclusion := settings.conventions.exclusion
  match target.arena.misplacedExclusion? target.id exclusion with
  | some diagnostic => Pass.silent (.error diagnostic)
  | none =>
    let union := ActionUnion.ofMembers target.arena reducer.action.name reducer.actionMembers
      exclusion
    Pass.report (union.nested.map Event.nestedType)
    return (reducer, union)

/-- Makes the wrapper and the interface. -/
def generation (target : Target) (settings : Settings) : Pass Generated :=
  Pass.reportingFailure do
    Pass.report [.generating target.id]
    let (reducer, union) ← target.prepare settings
    let resolved ← resolveAll settings union.cases
    let names := settings.conventions
    let generated : Generated :=
      { dispatch := reducer.dispatch names resolved
        interface := reducer.interface names union resolved }
    Pass.report [.generated reducer.name generated.dispatch.arms.length
      generated.interface.methods.length]
    return generated

/-- Makes the wrapper alone. -/
def dispatch (target : Target) (settings : Settings) : Pass Dispatch :=
  Pass.reportingFailure do
    Pass.report [.generatingDispatch target.id]
    let (reducer, union) ← target.prepare settings
    let resolved ← resolveAll settings union.cases
    return reducer.dispatch settings.conventions resolved

end Target

end ActionRelay
