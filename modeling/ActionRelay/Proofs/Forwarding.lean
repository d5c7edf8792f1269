import ActionRelay.Proofs.Agreement
/-!
# Forwarding — what the wrapper does with an action

A wrapper is given a meaning here (`Dispatch.run`): the first arm with the
tag of an action binds the payloads, and the receiver and the arguments of
its call are looked up by name, so a payload bound under the name of the
state or of the handler would hide it. `Target.generation_forwards` says
that this never happens: an action of a forwarded case reaches the handler
itself, in the method named like the case, with all payloads in their
places and under their labels, and with the state; an action of any other
case has no effect.
-/

namespace ActionRelay

/-! ## The meaning of a wrapper -/

/-- What a name can stand for while an action is dispatched. -/
inductive Meaning (Payload State Handler : Type) where
  | payload (value : Payload)
  | state (value : State)
  | handler (value : Handler)

/-- What becomes of an action. -/
inductive Effect (Payload State Handler : Type) where
  /-- Nothing is done. -/
  | nothing
  /-- A method is called, with labelled arguments. -/
  | invoke (receiver : Meaning Payload State Handler) (method : String)
    (arguments : List (Option String × Meaning Payload State Handler))
  /-- There is no arm for the action, or a name that stands for nothing. -/
  | stuck

variable {Payload State Handler : Type}

/-- What the names in sight stand for. -/
abbrev Scope (Payload State Handler : Type) := String → Option (Meaning Payload State Handler)

namespace Scope

/-- The scope with one more name on top, which hides an older one. -/
def bind (scope : Scope Payload State Handler) (name : String)
    (meaning : Meaning Payload State Handler) : Scope Payload State Handler :=
  fun other => if other = name then some meaning else scope other

/-- The scope with names for payloads on top, bound one after the other. -/
def bindPayloads : List (String × Payload) → Scope Payload State Handler →
    Scope Payload State Handler
  | [], scope => scope
  | (name, value) :: later, scope => bindPayloads later (scope.bind name (.payload value))

end Scope

/-- The effect of a call in a scope. -/
def Call.run (call : Call) (scope : Scope Payload State Handler) : Effect Payload State Handler :=
  let arguments? := call.arguments.mapM fun argument =>
    (scope argument.value.name).map (argument.label, ·)
  match scope call.receiver, arguments? with
  | some receiver, some arguments => .invoke receiver call.method arguments
  | _, _ => .stuck

/-- The effect of an action, given by its tag and its payloads, where
`stateParameter` names the state. -/
def Dispatch.run (dispatch : Dispatch) (stateParameter : String) (state : State)
    (handler : Handler) (tag : String) (payloads : List Payload) :
    Effect Payload State Handler :=
  let scope : Scope Payload State Handler :=
    Scope.bind (Scope.bind (fun _ => none) stateParameter (.state state)) dispatch.handlerField
      (.handler handler)
  match dispatch.body with
  | none => .nothing
  | some arms =>
    match arms.find? (·.tag == tag) with
    | none => .stuck
    | some arm =>
      match arm.call with
      | none => .nothing
      | some call => call.run (Scope.bindPayloads (arm.bindings.zip payloads) scope)

/-! ## Looking names up -/

namespace Scope

variable {scope : Scope Payload State Handler} {bindings : List (String × Payload)} {name : String}

/-- A name that no payload is bound under keeps its meaning. -/
theorem bindPayloads_of_notMem (h : name ∉ bindings.map Prod.fst) :
    bindPayloads bindings scope name = scope name := by
  induction bindings generalizing scope with
  | nil => rfl
  | cons first later ih =>
    simp only [List.map_cons, List.mem_cons, not_or] at h
    rw [bindPayloads, ih h.2, bind, if_neg h.1]

/-- Where no name is bound twice, each stands for its payload. -/
theorem bindPayloads_of_mem {value : Payload} (hnodup : (bindings.map Prod.fst).Nodup)
    (h : (name, value) ∈ bindings) :
    bindPayloads bindings scope name = some (.payload value) := by
  induction bindings generalizing scope with
  | nil => cases h
  | cons first later ih =>
    rw [List.map_cons, List.nodup_cons] at hnodup
    rw [bindPayloads]
    rcases List.mem_cons.1 h with rfl | hlater
    · rw [bindPayloads_of_notMem hnodup.1, bind, if_pos rfl]
    · exact ih hnodup.2 hlater

end Scope

/-- Arguments that all have a meaning are passed with it, in their
order. -/
theorem Call.run_eq_invoke {call : Call} {scope : Scope Payload State Handler}
    {receiver : Meaning Payload State Handler}
    {arguments : List (Option String × Meaning Payload State Handler)}
    (hreceiver : scope call.receiver = some receiver)
    (harguments : List.Forall₂
      (fun argument passed => argument.label = passed.1 ∧
        scope argument.value.name = some passed.2) call.arguments arguments) :
    call.run scope = .invoke receiver call.method arguments := by
  have hall : call.arguments.mapM
      (fun argument => (scope argument.value.name).map (argument.label, ·)) = some arguments := by
    generalize call.arguments = given at harguments
    induction harguments with
    | nil => rfl
    | cons hfirst _ ih => simp [List.mapM_cons, ih, hfirst.1, hfirst.2]
  rw [run, hall, hreceiver]

/-! ## The arms of a pass -/

section Arms

variable {settings : Settings} {cases : List CaseMember} {resolved : List ResolvedCase}
variable {c : CaseMember}

/-- Where the names of cases are distinct, the first arm with the tag of a
case is its own. -/
theorem exists_find?_arm (conventions : Conventions)
    (h : List.Forall₂ (CaseMember.Resolves settings) cases resolved)
    (hnodup : (cases.map (·.head.name)).Nodup) (hc : c ∈ cases) :
    ∃ r, c.Resolves settings r ∧
      (resolved.map (ResolvedCase.arm conventions)).find? (·.tag == c.head.name)
        = some (r.arm conventions) := by
  induction h with
  | nil => cases hc
  | @cons first r cases resolved hfirst _ ih =>
    rw [List.map_cons, List.nodup_cons] at hnodup
    rw [List.map_cons]
    rcases List.mem_cons.1 hc with rfl | hlater
    · exact ⟨r, hfirst, List.find?_cons_of_pos (by simp [hfirst.tag_arm])⟩
    · obtain ⟨r', hr', hfind⟩ := ih hnodup.2 hlater
      refine ⟨r', hr', ?_⟩
      rw [List.find?_cons_of_neg, hfind]
      -- the first arm has another tag, as its case has another name
      have hne : first.head.name ≠ c.head.name := fun heq =>
        hnodup.1 (heq ▸ List.mem_map_of_mem hlater)
      simpa [hfirst.tag_arm] using hne

/-- **The call of a forwarded case**, in a scope where the state and the
handler have their names: neither is hidden by a payload, since no payload
has a reserved name, and no payload hides another, since their names are
distinct. -/
theorem CaseMember.Resolves.run_call {action : ActionCase} {names : List String} {call : Call}
    (hr : c.Resolves settings (.forwarded action names))
    (hcall : ((ResolvedCase.forwarded action names).arm settings.conventions).call = some call)
    (hdeclared : (c.head.slots.filterMap Slot.declaredName?).Nodup)
    {scope : Scope Payload State Handler} {state : State} {handler : Handler}
    (hstate : scope settings.conventions.stateParameter = some (.state state))
    (hhandler : scope settings.conventions.handlerField = some (.handler handler))
    {payloads : List Payload} (hpayloads : payloads.length = c.head.slots.length) :
    call.run (Scope.bindPayloads (names.zip payloads) scope)
      = .invoke (.handler handler) c.head.name
          (List.zipWith (fun slot payload => (slot.label, .payload payload)) c.head.slots payloads
            ++ [(some settings.conventions.stateParameter, .state state)]) := by
  obtain ⟨hname, hslots, -, hnames⟩ := hr
  have hlen := length_parameterNames hnames
  have hfst : (names.zip payloads).map Prod.fst = names := List.map_fst_zip (by omega)
  have hkeep : ∀ name ∈ settings.conventions.reserved,
      Scope.bindPayloads (names.zip payloads) scope name = scope name := by
    intro name hreserved
    refine Scope.bindPayloads_of_notMem ?_
    rw [hfst]
    exact fun hmem => parameterNames_notMem_reserved hnames hmem hreserved
  simp only [ResolvedCase.arm, Option.some.injEq] at hcall
  subst hcall
  rw [← hname]
  refine Call.run_eq_invoke ?_ (List.rel_append ?_ ?_)
  · rw [hkeep _ (by simp [Conventions.reserved]), hhandler]
  · refine List.forall₂_iff_get.2 ⟨by simp [hslots, hlen, hpayloads], fun i hi hi' => ?_⟩
    simp only [List.length_zipWith] at hi hi'
    simp only [List.get_eq_getElem, List.getElem_zipWith, ResolvedCase.payloadArgument,
      Slot.callLabel?_argumentLabel, Call.Value.name, hslots, true_and]
    refine Scope.bindPayloads_of_mem (by rw [hfst]; exact nodup_parameterNames hnames hdeclared) ?_
    refine List.mem_iff_getElem.2 ⟨i, by simp only [List.length_zip]; omega, ?_⟩
    rw [List.getElem_zip]
  · refine List.Forall₂.cons ⟨rfl, ?_⟩ List.Forall₂.nil
    rw [Call.Value.name, hkeep _ (by simp [Conventions.reserved]), hstate]

end Arms

/-- **The wrapper of a successful pass forwards every action faithfully.**
Case names are distinct, as are the names that one case declares for its
payloads; these are rules of the host. -/
theorem Target.generation_forwards {target : Target} {settings : Settings} {generated : Generated}
    (h : (target.generation settings).outcome = .ok generated)
    (hnames : settings.conventions.stateParameter ≠ settings.conventions.handlerField)
    {action : Entry} (haction : target.ListsAction settings.conventions.actionType action)
    (hcases : ((target.arena.caseMembers action).map (·.head.name)).Nodup)
    (hslots : ∀ c ∈ target.arena.caseMembers action,
      (c.head.slots.filterMap Slot.declaredName?).Nodup)
    (state : State) (handler : Handler) {c : CaseMember}
    (hc : c ∈ target.arena.caseMembers action) {payloads : List Payload}
    (hpayloads : payloads.length = c.head.slots.length) :
    (¬ c.Skipped settings →
      generated.dispatch.run settings.conventions.stateParameter state handler c.head.name payloads
        = .invoke (.handler handler) c.head.name
            (List.zipWith (fun slot payload => (slot.label, .payload payload)) c.head.slots payloads
              ++ [(some settings.conventions.stateParameter, .state state)])) ∧
    (c.Skipped settings →
      generated.dispatch.run settings.conventions.stateParameter state handler c.head.name payloads
        = .nothing) := by
  obtain ⟨reducer, union, resolved, action', honly, hresolved, hdispatch, -⟩ := generation_eq_ok h
  obtain rfl := (honly action).1 haction
  have hfield : generated.dispatch.handlerField = settings.conventions.handlerField := by
    rw [hdispatch, Reducer.dispatch]
  rcases hbody : generated.dispatch.body with - | arms
  · -- without arms, every case is skipped
    have hskipped : c.Skipped settings := by
      rw [hdispatch, Reducer.body_dispatch_eq_none, forall_call_arm_eq_none hresolved] at hbody
      exact hbody c hc
    exact ⟨fun hnot => absurd hskipped hnot, fun _ => by rw [Dispatch.run, hbody]⟩
  · have harms : arms = resolved.map (ResolvedCase.arm settings.conventions) :=
      Reducer.arms_of_body_dispatch (hdispatch ▸ hbody)
    obtain ⟨r, hr, hfind⟩ := exists_find?_arm settings.conventions hresolved hcases hc
    rw [Dispatch.run, hbody, hfield]
    simp only [harms, hfind]
    rcases r with skipped | ⟨forwarded, names⟩
    · exact ⟨fun hnot => absurd hr.2 hnot, fun _ => rfl⟩
    · refine ⟨fun _ => ?_, fun hskipped => absurd hskipped hr.2.2.1⟩
      refine hr.run_call rfl (hslots c hc) ?_ ?_ hpayloads
      · simp [Scope.bind, hnames]
      · simp [Scope.bind]

/-- The enum of actions of the sample reducer, as it is listed. -/
def loaderAction : Entry where
  id := 1
  site := {}
  kind := .aggregate { kind := .enumType, name := "Action" } [2, 3, 4]

/-- Its forwarded case. -/
def loadCase : CaseMember where
  site := {}
  head :=
    { name := "load"
      slots := [{ label := some "state", type := .plain ["Int"] }, { type := .plain ["Int"] },
        { type := .plain ["Int"] }] }

theorem loader_generation_forwards : ∃ generated,
    (loader.generation loaderSettings).outcome = .ok generated ∧
    generated.dispatch.run "state" () "handler" "load" [10, 20, 30]
      = .invoke (.handler "handler") "load"
          [(some "state", .payload 10), (none, .payload 20), (none, .payload 30),
            (some "state", .state ())] := by
  have hok : ∃ generated, (loader.generation loaderSettings).outcome = .ok generated :=
    ⟨_, by cbv⟩
  obtain ⟨generated, hok⟩ := hok
  have haction : loader.ListsAction loaderSettings.conventions.actionType loaderAction :=
    ⟨_, by cbv, by decide +kernel, _, _, rfl, rfl, rfl⟩
  have hc : loadCase ∈ loader.arena.caseMembers loaderAction := by decide +kernel
  have hskipped : ¬ loadCase.Skipped loaderSettings := by
    rintro (⟨a, ha, -⟩ | ⟨-, hunnameable⟩)
    · cases ha
    · have hnamed : parameterNames "load" loadCase.head.slots .typeDerived []
          = .ok ["state", "int", "int2"] := by cbv
      exact parameterNames_isOk_iff.1 ⟨_, hnamed⟩ hunnameable
  have hlen : [10, 20, 30].length = loadCase.head.slots.length := rfl
  refine ⟨generated, hok, ?_⟩
  exact (Target.generation_forwards hok (by decide) haction (by decide +kernel) (by decide +kernel)
    () "handler" hc hlen).1 hskipped

end ActionRelay
