import ActionRelay.Command
import ActionRelay.Proofs.Agreement
import ActionRelay.Proofs.Survey
/-!
# Entry points — what they have in common

Both kinds of pass are the same up to the resolved cases
(`Target.generation_eq`, `Target.dispatch_eq`), so that the wrapper made
alone is the wrapper made with the interface. An expansion is all or
nothing: `Target.Expands` lists what it can be, and it is nothing else
(`Target.expansion_eq_iff`). What the check for a reducer complains about,
every command complains about (`Command.run_eq_error_of_validate`).
-/

namespace ActionRelay

/-! ## The two kinds of pass -/

namespace Target

variable {target : Target} {settings : Settings}

/-- What both kinds of pass do first: the checks, and then the cases one by
one. -/
def resolution (target : Target) (settings : Settings) :
    Pass (Reducer × ActionUnion × List ResolvedCase) := do
  let (reducer, union) ← target.prepare settings
  let resolved ← resolveAll settings union.cases
  return (reducer, union, resolved)

/-- What is made of the resolved cases. -/
def generatedFrom (settings : Settings) : Reducer × ActionUnion × List ResolvedCase → Generated
  | (reducer, union, resolved) =>
    { dispatch := reducer.dispatch settings.conventions resolved
      interface := reducer.interface settings.conventions union resolved }

theorem generation_eq (target : Target) (settings : Settings) :
    target.generation settings = Pass.reportingFailure do
      Pass.report [.generating target.id]
      let found ← target.resolution settings
      let generated := generatedFrom settings found
      Pass.report [.generated found.1.name generated.dispatch.arms.length
        generated.interface.methods.length]
      return generated := by
  simp only [generation, resolution, bind_assoc, pure_bind]
  rfl

theorem dispatch_eq (target : Target) (settings : Settings) :
    target.dispatch settings = Pass.reportingFailure do
      Pass.report [.generatingDispatch target.id]
      let found ← target.resolution settings
      return (generatedFrom settings found).dispatch := by
  simp only [dispatch, resolution, bind_assoc, pure_bind]
  rfl

theorem outcome_generation_of_resolution (target : Target) (settings : Settings) :
    (target.generation settings).outcome
      = (target.resolution settings).outcome.map (generatedFrom settings) := by
  rw [generation_eq]
  simp only [Pass.outcome_reportingFailure, Pass.outcome_bind, Pass.outcome_report,
    Pass.outcome_pure]
  rcases (target.resolution settings).outcome with d | found <;> rfl

theorem outcome_dispatch_of_resolution (target : Target) (settings : Settings) :
    (target.dispatch settings).outcome
      = (target.resolution settings).outcome.map fun found =>
          (generatedFrom settings found).dispatch := by
  rw [dispatch_eq]
  simp only [Pass.outcome_reportingFailure, Pass.outcome_bind, Pass.outcome_report,
    Pass.outcome_pure]
  rcases (target.resolution settings).outcome with d | found <;> rfl

/-- **The wrapper made alone** is the wrapper made with the interface, and
fails with the same diagnostic. -/
theorem outcome_dispatch (target : Target) (settings : Settings) :
    (target.dispatch settings).outcome
      = (target.generation settings).outcome.map Generated.dispatch := by
  rw [outcome_dispatch_of_resolution, outcome_generation_of_resolution]
  rcases (target.resolution settings).outcome with d | found <;> rfl

/-! ## All or nothing -/

/-- **What an expansion can be.** -/
inductive Expands (target : Target) (settings : Settings) : Expansion → Prop
  /-- Both declarations are made and rendered. -/
  | spliced {generated : Generated} {member peer : String} :
      (target.generation settings).outcome = .ok generated →
      settings.renderer.dispatch settings.conventions generated.dispatch = .ok member →
      settings.renderer.interface settings.conventions generated.interface = .ok peer →
      Expands target settings { members := [member], peers := [peer], diagnostics := [] }
  /-- The declarations are not made. -/
  | notGenerated {diagnostic : Diagnostic} :
      (target.generation settings).outcome = .error diagnostic →
      Expands target settings { members := [], peers := [], diagnostics := [diagnostic] }
  /-- The renderer gives up on the wrapper. -/
  | wrapperNotRendered {generated : Generated} {error : RenderError} :
      (target.generation settings).outcome = .ok generated →
      settings.renderer.dispatch settings.conventions generated.dispatch = .error error →
      Expands target settings
        { members := [], peers := [], diagnostics := [⟨.unknown error.message, target.anchor⟩] }
  /-- The renderer gives up on the interface, and the text of the wrapper is
  thrown away. -/
  | interfaceNotRendered {generated : Generated} {member : String} {error : RenderError} :
      (target.generation settings).outcome = .ok generated →
      settings.renderer.dispatch settings.conventions generated.dispatch = .ok member →
      settings.renderer.interface settings.conventions generated.interface = .error error →
      Expands target settings
        { members := [], peers := [], diagnostics := [⟨.unknown error.message, target.anchor⟩] }

/-- How the rendering of a pass ends. -/
theorem outcome_rendering (target : Target) (settings : Settings) :
    (target.rendering settings).outcome =
      match (target.generation settings).outcome with
      | .error diagnostic => .error diagnostic
      | .ok generated => (generated.render settings).mapError fun error =>
          ⟨.unknown error.message, target.anchor⟩ := by
  rw [rendering, Pass.outcome_bind]
  rcases (target.generation settings).outcome with d | generated
  · rfl
  · simp only [Pass.outcome_reportingFailure]
    rfl

/-- The expansion is one of these. -/
theorem expands_expansion (target : Target) (settings : Settings) :
    target.Expands settings (target.expansion settings) := by
  rw [expansion, outcome_rendering]
  rcases hgenerated : (target.generation settings).outcome with d | generated
  · exact .notGenerated hgenerated
  rcases hmember : settings.renderer.dispatch settings.conventions generated.dispatch
    with error | member
  · have hrender : generated.render settings = .error error := by
      rw [Generated.render, hmember]
      rfl
    simp only [hrender]
    exact .wrapperNotRendered hgenerated hmember
  rcases hpeer : settings.renderer.interface settings.conventions generated.interface
    with error | peer
  · have hrender : generated.render settings = .error error := by
      rw [Generated.render, hmember, hpeer]
      rfl
    simp only [hrender]
    exact .interfaceNotRendered hgenerated hmember hpeer
  · have hrender : generated.render settings = .ok (member, peer) := by
      rw [Generated.render, hmember, hpeer]
      rfl
    simp only [hrender]
    exact .spliced hgenerated hmember hpeer

/-- And it can be one thing only. -/
theorem Expands.unique {expansion expansion' : Expansion} (h : target.Expands settings expansion)
    (h' : target.Expands settings expansion') : expansion = expansion' := by
  cases h <;> cases h' <;> simp_all

theorem expansion_eq_iff {expansion : Expansion} :
    target.expansion settings = expansion ↔ target.Expands settings expansion :=
  ⟨fun h => h ▸ expands_expansion target settings, (expands_expansion target settings).unique⟩

end Target

/-! ## Commands -/

/-- **What the check complains about**, every command complains about. -/
theorem Command.run_eq_error_of_validate {input : Input} {settings : Settings}
    {diagnostics : List Diagnostic} (h : Command.validate.run input settings = .error diagnostics) :
    ∃ diagnostic, diagnostics = [diagnostic] ∧
      ∀ command : Command, command.run input settings = .error [diagnostic] := by
  rcases hreducer : input.target.reducer settings with diagnostic | reducer
  · have hgeneration : (input.target.generation settings).outcome = .error diagnostic := by
      rw [Target.outcome_generation, hreducer]
    have hexpansion := Target.expansion_eq_iff.2 (.notGenerated hgeneration)
    have hrun : ∀ command : Command, command.run input settings = .error [diagnostic] := by
      intro command
      cases command with
      | generate =>
        simp only [run, hexpansion]
        rfl
      | validate =>
        simp only [run, hreducer]
        rfl
      | nestedTypes =>
        simp only [run, hreducer]
        rfl
    refine ⟨diagnostic, ?_, hrun⟩
    exact Except.error.inj (h.symm.trans (hrun .validate))
  · simp only [run, hreducer] at h
    cases h

/-! ## All entry points -/

/-- **All entry points agree.** The wrapper alone is that of the whole pass;
an expansion is whole or a single diagnostic; and a diagnostic of the check
is the diagnostic of every other command. -/
theorem entryPoints_agree (settings : Settings) :
    (∀ target : Target, (target.dispatch settings).outcome
      = (target.generation settings).outcome.map Generated.dispatch) ∧
    (∀ (target : Target) (expansion : Expansion),
      target.expansion settings = expansion ↔ target.Expands settings expansion) ∧
    ∀ (input : Input) (diagnostics : List Diagnostic),
      Command.validate.run input settings = .error diagnostics →
        ∃ diagnostic, diagnostics = [diagnostic] ∧
          Command.generate.run input settings = .error [diagnostic] ∧
          Command.nestedTypes.run input settings = .error [diagnostic] := by
  refine ⟨fun target => target.outcome_dispatch settings, fun _ _ => Target.expansion_eq_iff, ?_⟩
  intro input diagnostics h
  obtain ⟨diagnostic, hdiagnostics, hrun⟩ := Command.run_eq_error_of_validate h
  exact ⟨diagnostic, hdiagnostics, hrun .generate, hrun .nestedTypes⟩

/-- The default settings, with a renderer that writes names of wrappers and
gives up on interfaces. -/
def jammedSettings : Settings :=
  { loaderSettings with
    renderer :=
      { dispatch := fun _ wrapper => .ok wrapper.name
        interface := fun _ _ => .error .formatting } }

/-- An enum, which is no reducer. -/
def bareEnum : Input where
  declaration := .aggregate {} { kind := .enumType, name := "Action" } []

theorem loader_entryPoints_agree :
    (loader.dispatch jammedSettings).outcome
      = (loader.generation jammedSettings).outcome.map Generated.dispatch ∧
    loader.expansion jammedSettings
      = { diagnostics := [⟨.unknown "an error occurred when formatting an argument", {}⟩] } ∧
    Command.generate.run bareEnum jammedSettings = .error [⟨.notStruct, {}⟩] ∧
    Command.nestedTypes.run bareEnum jammedSettings = .error [⟨.notStruct, {}⟩] := by
  obtain ⟨hdispatch, hexpansion, hvalidate⟩ := entryPoints_agree jammedSettings
  have hgenerated : ∃ generated, (loader.generation jammedSettings).outcome = .ok generated :=
    ⟨_, by cbv⟩
  obtain ⟨generated, hgenerated⟩ := hgenerated
  have hfails : Command.validate.run bareEnum jammedSettings = .error [⟨.notStruct, {}⟩] := by cbv
  obtain ⟨diagnostic, hdiagnostic, hgenerate, hnestedTypes⟩ := hvalidate bareEnum _ hfails
  obtain rfl := List.cons.inj hdiagnostic |>.1
  exact ⟨hdispatch loader, (hexpansion loader _).2 (.interfaceNotRendered hgenerated rfl rfl),
    hgenerate, hnestedTypes⟩

end ActionRelay
