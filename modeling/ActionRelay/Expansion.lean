import ActionRelay.Generation
/-!
# Expansion

What the host splices into its program: the text of the wrapper inside the
annotated declaration and the text of the interface next to it, or the
diagnostic that says why there is neither.
-/

namespace ActionRelay

/-- The texts to splice in, or the diagnostics. -/
structure Expansion where
  /-- Declarations to add inside the annotated one. -/
  members : List String := []
  /-- Declarations to add next to the annotated one. -/
  peers : List String := []
  diagnostics : List Diagnostic := []
deriving DecidableEq

namespace Expansion

/-- Whether there is nothing to complain about. -/
def succeeded (expansion : Expansion) : Bool :=
  expansion.diagnostics.isEmpty

/-- The expansion for the texts of the wrapper and the interface, or for the
diagnostic. -/
def ofOutcome : Except Diagnostic (String × String) → Expansion
  | .ok (member, peer) => { members := [member], peers := [peer] }
  | .error diagnostic => { diagnostics := [diagnostic] }

end Expansion

namespace Generated

/-- The texts of the wrapper and of the interface. -/
def render (generated : Generated) (settings : Settings) :
    Except RenderError (String × String) := do
  let member ← settings.renderer.dispatch settings.conventions generated.dispatch
  let peer ← settings.renderer.interface settings.conventions generated.interface
  return (member, peer)

end Generated

namespace Target

/-- Makes both declarations and renders them. A renderer that gives up is
reported at the annotation. -/
def rendering (target : Target) (settings : Settings) : Pass (String × String) := do
  let generated ← target.generation settings
  Pass.reportingFailure <| Pass.silent <|
    (generated.render settings).mapError fun error =>
      .ofFailure (.rendering error) target.anchor

/-- The expansion of the annotated declaration. -/
def expansion (target : Target) (settings : Settings) : Expansion :=
  .ofOutcome (target.rendering settings).outcome

end Target

end ActionRelay
