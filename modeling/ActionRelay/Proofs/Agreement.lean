import ActionRelay.Proofs.Generation
import Mathlib
/-!
# Agreement — the wrapper against the interface

The wrapper and the interface of a pass are built apart, from the same
resolved cases. `Target.generation_agrees` says that they fit: there is one
arm per case of the enum of actions, an arm without a call stands for a case
that is skipped, and the other arms pair off with the methods of the
interface, name by name and argument by argument. Nothing is lost where the
wrapper has no arms at all, as then every case is skipped.
-/

namespace ActionRelay

/-! ## One case -/

/-- A payload is passed under the label that it declares, whatever its
parameter is called. -/
theorem Slot.callLabel?_argumentLabel (slot : Slot) (name : String) :
    (slot.argumentLabel name).callLabel? name = slot.label := by
  rw [argumentLabel]
  rcases hlabel : slot.label with - | label
  · rfl
  rcases slot.bind with - | bind
  · by_cases hname : label = name <;> simp [ArgumentLabel.callLabel?, hname]
  · rfl

/-- What the call of an arm has to do with a method, where `slots` are the
payloads of the arm's case. -/
structure Call.Matches (call : Call) (handlerField : String) (arm : Arm) (slots : List Slot)
    (method : Signature) : Prop where
  receiver_eq : call.receiver = handlerField
  method_eq : call.method = arm.tag
  tag_eq : arm.tag = method.name
  bindings_eq : arm.bindings = method.parameters.map Parameter.name
  length_eq : call.arguments.length = method.arity
  /-- The payloads come first, each from the binding in its place and under
  the label that is declared and that the method asks for; the state comes
  last. -/
  arguments_eq : ∃ payloads : List Call.Argument,
    call.arguments = payloads ++ [⟨some method.state.name, .state method.state.name⟩] ∧
      payloads.map Call.Argument.value = arm.bindings.map Call.Value.binding ∧
      payloads.map Call.Argument.label = slots.map Slot.label ∧
      payloads.map Call.Argument.label
        = method.parameters.map fun parameter => parameter.label.callLabel? parameter.name

variable {settings : Settings} {conventions : Conventions} {union : ActionUnion}
variable {cases : List CaseMember} {resolved : List ResolvedCase}

/-- **A forwarded case.** Its arm calls the method that the interface has
for it. -/
theorem ResolvedCase.matches_of_forwarded (conventions : Conventions) (union : ActionUnion)
    {action : ActionCase} {names : List String} (hlen : names.length = action.slots.length) :
    ∃ call method, ((forwarded action names).arm conventions).call = some call ∧
      (forwarded action names).signature? conventions union = some method ∧
      call.Matches conventions.handlerField ((forwarded action names).arm conventions)
        action.slots method := by
  refine ⟨_, _, rfl, rfl, rfl, rfl, rfl, ?_, ?_, List.zipWith payloadArgument action.slots names,
    rfl, ?_, ?_, ?_⟩
  · refine List.ext_getElem (by simp [arm, hlen]) fun i _ _ => ?_
    simp [arm, parameter]
  · simp [Signature.arity]
  · refine List.ext_getElem (by simp [arm, hlen]) fun i _ _ => ?_
    simp [arm, payloadArgument]
  · refine List.ext_getElem (by simp [hlen]) fun i _ _ => ?_
    simp [payloadArgument, Slot.callLabel?_argumentLabel]
  · refine List.ext_getElem (by simp) fun i _ _ => ?_
    simp [payloadArgument, parameter]

theorem CaseMember.Resolves.tag_arm {c : CaseMember} {r : ResolvedCase}
    (h : c.Resolves settings r) : (r.arm conventions).tag = c.head.name := by
  rcases r with action | ⟨action, names⟩
  · exact h.1
  · exact h.1

/-- An arm is silent exactly for a case that is skipped. -/
theorem CaseMember.Resolves.call_arm_eq_none {c : CaseMember} {r : ResolvedCase}
    (h : c.Resolves settings r) : (r.arm conventions).call = none ↔ c.Skipped settings := by
  rcases r with action | ⟨action, names⟩
  · exact iff_of_true rfl h.2
  · exact iff_of_false (by simp [ResolvedCase.arm]) h.2.2.1

theorem ResolvedCase.bindings_arm_of_call_eq_none {r : ResolvedCase}
    (h : (r.arm conventions).call = none) : (r.arm conventions).bindings = [] := by
  rcases r with action | ⟨action, names⟩
  · rfl
  · simp [arm] at h

theorem ResolvedCase.signature?_eq_none {r : ResolvedCase} :
    r.signature? conventions union = none ↔ (r.arm conventions).call = none := by
  rcases r with action | ⟨action, names⟩ <;> simp [signature?, arm]

theorem ResolvedCase.isForwarded_eq_false {r : ResolvedCase} :
    r.isForwarded = false ↔ (r.arm conventions).call = none := by
  rcases r with action | ⟨action, names⟩ <;> simp [isForwarded, arm]

/-! ## All cases -/

section Lists

variable (h : List.Forall₂ (CaseMember.Resolves settings) cases resolved)
include h

theorem map_tag_arm :
    (resolved.map (ResolvedCase.arm conventions)).map Arm.tag = cases.map (·.head.name) := by
  induction h with
  | nil => rfl
  | cons hc _ ih => simp only [List.map_cons, ih, hc.tag_arm]

theorem forall₂_call_arm_eq_none :
    List.Forall₂
      (fun arm c => (arm.call = none ↔ c.Skipped settings) ∧ (arm.call = none → arm.bindings = []))
      (resolved.map (ResolvedCase.arm conventions)) cases := by
  induction h with
  | nil => exact List.Forall₂.nil
  | cons hc _ ih =>
    exact List.Forall₂.cons
      ⟨hc.call_arm_eq_none, ResolvedCase.bindings_arm_of_call_eq_none⟩ ih

/-- The arms with a call and the methods pair off: a skipped case adds to
neither list, a forwarded one to both. -/
theorem forall₂_matches :
    List.Forall₂
      (fun pair method => ∃ call, pair.1.call = some call ∧
        call.Matches conventions.handlerField pair.1 pair.2.head.slots method)
      (((resolved.map (ResolvedCase.arm conventions)).zip cases).filter (·.1.call.isSome))
      (resolved.filterMap (ResolvedCase.signature? conventions union)) := by
  induction h with
  | nil => exact List.Forall₂.nil
  | @cons c r cases resolved hc _ ih =>
    rcases r with action | ⟨action, names⟩
    · exact ih
    · obtain ⟨-, hslots, -, hnames⟩ := hc
      have hlen : names.length = action.slots.length := by
        rw [hslots, length_parameterNames hnames]
      obtain ⟨call, method, hcall, hmethod, hmatches⟩ :=
        ResolvedCase.matches_of_forwarded conventions union hlen
      simp only [List.map_cons, List.zip_cons_cons, List.filter_cons, hcall, Option.isSome_some,
        if_true, List.filterMap_cons, hmethod]
      exact List.Forall₂.cons ⟨call, hcall, hslots ▸ hmatches⟩ ih

theorem forall_call_arm_eq_none :
    (∀ r ∈ resolved, (r.arm conventions).call = none) ↔ ∀ c ∈ cases, c.Skipped settings := by
  induction h with
  | nil => simp
  | cons hc _ ih => simp only [List.forall_mem_cons, hc.call_arm_eq_none, ih]

end Lists

/-! ## The pass -/

/-- **Agreement** of a wrapper and an interface about the cases of an enum
of actions. -/
structure Generated.Agrees (generated : Generated) (settings : Settings)
    (cases : List CaseMember) : Prop where
  /-- The wrapper does nothing at all where the interface has no method. -/
  body_eq_none_iff : generated.dispatch.body = none ↔ generated.interface.methods = []
  /-- And that is where every case is skipped. -/
  body_eq_none_iff_skipped :
    generated.dispatch.body = none ↔ ∀ c ∈ cases, c.Skipped settings
  /-- Otherwise there is one arm per case, in the order of declaration. -/
  tags_eq : ∀ arms, generated.dispatch.body = some arms →
    arms.map Arm.tag = cases.map (·.head.name)
  /-- An arm without a call binds nothing and stands for a skipped case. -/
  silent : ∀ arms, generated.dispatch.body = some arms →
    List.Forall₂
      (fun arm c => (arm.call = none ↔ c.Skipped settings) ∧ (arm.call = none → arm.bindings = []))
      arms cases
  /-- The arms with a call pair off with the methods. -/
  calls : ∀ arms, generated.dispatch.body = some arms →
    List.Forall₂
      (fun pair method => ∃ call, pair.1.call = some call ∧
        call.Matches generated.dispatch.handlerField pair.1 pair.2.head.slots method)
      ((arms.zip cases).filter (·.1.call.isSome)) generated.interface.methods

/-- The wrapper has no arms where no case is forwarded. -/
theorem Reducer.body_dispatch_eq_none {reducer : Reducer} :
    (reducer.dispatch conventions resolved).body = none ↔
      ∀ r ∈ resolved, (r.arm conventions).call = none := by
  rw [Reducer.dispatch]
  by_cases hany : resolved.any ResolvedCase.isForwarded = true
  · refine iff_of_false (by simp [hany]) fun hall => ?_
    obtain ⟨r, hr, hforwarded⟩ := List.any_eq_true.1 hany
    simpa [hforwarded] using ResolvedCase.isForwarded_eq_false.2 (hall r hr)
  · refine iff_of_true (by simp [hany]) fun r hr => ?_
    refine ResolvedCase.isForwarded_eq_false.1 ?_
    simpa using fun hforwarded => hany (List.any_eq_true.2 ⟨r, hr, hforwarded⟩)

/-- Where it has arms, they are those of the resolved cases. -/
theorem Reducer.arms_of_body_dispatch {reducer : Reducer} {arms : List Arm}
    (h : (reducer.dispatch conventions resolved).body = some arms) :
    arms = resolved.map (ResolvedCase.arm conventions) := by
  rw [Reducer.dispatch] at h
  by_cases hany : resolved.any ResolvedCase.isForwarded = true
  · simpa [hany] using h.symm
  · simp [hany] at h

/-- **The wrapper and the interface of a successful pass agree** on the
cases of the only enum of actions that the target holds. -/
theorem Target.generation_agrees {target : Target} {generated : Generated}
    (h : (target.generation settings).outcome = .ok generated) :
    ∃ action : Entry,
      (∀ entry, target.ListsAction settings.conventions.actionType entry ↔ entry = action) ∧
      generated.Agrees settings (target.arena.caseMembers action) := by
  obtain ⟨reducer, union, resolved, action, honly, hresolved, hdispatch, hinterface⟩ :=
    generation_eq_ok h
  have hmethods : generated.interface.methods = [] ↔
      ∀ r ∈ resolved, (r.arm settings.conventions).call = none := by
    rw [hinterface, Reducer.interface, List.filterMap_eq_nil_iff]
    simp only [ResolvedCase.signature?_eq_none]
  have harms : ∀ arms, generated.dispatch.body = some arms →
      arms = resolved.map (ResolvedCase.arm settings.conventions) := by
    intro arms hbody
    rw [hdispatch] at hbody
    exact Reducer.arms_of_body_dispatch hbody
  refine ⟨action, honly, ?_, ?_, ?_, ?_, ?_⟩
  · rw [hmethods, hdispatch, Reducer.body_dispatch_eq_none]
  · rw [hdispatch, Reducer.body_dispatch_eq_none, forall_call_arm_eq_none hresolved]
  · intro arms hbody
    rw [harms arms hbody, map_tag_arm hresolved]
  · intro arms hbody
    rw [harms arms hbody]
    exact forall₂_call_arm_eq_none hresolved
  · intro arms hbody
    rw [harms arms hbody, hdispatch, hinterface]
    exact forall₂_matches hresolved

/-- A reducer whose first case is forwarded, with a reserved label and two
payloads of one type; the second case is excluded, and the third has a
payload without a name. -/
def loaderDeclaration : Declaration :=
  .aggregate {} { kind := .structType, name := "Loader", inherited := [.plain ["Reducer"]] }
    [.aggregate {} { kind := .enumType, name := "Action" }
      [.enumCase {}
          { name := "load"
            slots := [{ label := some "state", type := .plain ["Int"] }, { type := .plain ["Int"] },
              { type := .plain ["Int"] }] },
        .enumCase { attributes := [{ name := "SkipDispatch" }] } { name := "reset" },
        .enumCase {} { name := "finish", slots := [{ type := .tuple [] }] }]]

/-- The default settings, with cases dropped where a payload has no
name. -/
def loaderSettings : Settings :=
  { Settings.ofConventions {} with unnamed := .dropCase }

/-- The reducer as the target of a pass. -/
def loader : Target where
  arena := .ofDeclaration loaderDeclaration

theorem loader_generation_agrees : ∃ generated,
    (loader.generation loaderSettings).outcome = .ok generated ∧
    generated.dispatch.arms.map Arm.bindings = [["state0", "int", "int2"], [], []] ∧
    ∃ action, (∀ entry, loader.ListsAction "Action" entry ↔ entry = action) ∧
      generated.Agrees loaderSettings (loader.arena.caseMembers action) := by
  have hbindings : (loader.generation loaderSettings).outcome.map
      (·.dispatch.arms.map Arm.bindings) = .ok [["state0", "int", "int2"], [], []] := by cbv
  rcases hok : (loader.generation loaderSettings).outcome with d | generated
  · rw [hok] at hbindings
    cases hbindings
  · rw [hok] at hbindings
    exact ⟨generated, rfl, Except.ok.inj hbindings, Target.generation_agrees hok⟩

end ActionRelay
