import ActionRelay.Log
import ActionRelay.Proofs.Declaration.Levels
import ActionRelay.Proofs.EntryPoints
import ActionRelay.Proofs.FirstFault
/-!
# Logs — what they tell of a pass

The events of a pass are those of the checks and of the cases, between the
milestones, and in the end the failure if there is one
(`Target.events_generation`, `Target.events_dispatch`,
`Target.events_rendering`). What is reported on the way is said of what is
declared, not of the steps that lead there: `Target.Steps` lists the types
nested in the enum of actions level by level, then the cases up to the first
that stops the pass, each with its fault if it is dropped. So
`Target.Recounts` holds of every kind of pass.
-/

namespace ActionRelay

open Declaration

/-! ## Milestones -/

/-- Whether the event says that a pass starts, or that declarations are
made. -/
def Event.isMilestone : Event → Bool
  | generating _ | generatingDispatch _ | generated _ _ _ => true
  | _ => false

theorem Event.isMilestone_ne {e : Event} (h : e.isMilestone = true) :
    e.message ≠ "generation aborted" ∧ e.message ≠ "nested type" ∧
      e.message ≠ "resolving variant" ∧ e.level ≠ .warn := by
  cases e <;> simp [isMilestone, message, level] at h ⊢

/-! ## What is reported of the cases -/

variable {settings : Settings} {c : CaseMember} {cases reached : List CaseMember}

namespace CaseMember

/-- Whether the case stops the pass. -/
def Aborts (settings : Settings) (c : CaseMember) : Prop :=
  settings.unnamed = .abort ∧ c.LacksName settings

/-- **What is reported of a case.** -/
inductive Logs (settings : Settings) (c : CaseMember) : List Event → Prop
  /-- The case is dropped, for its first nameless payload. -/
  | dropped {diagnostic : Diagnostic} :
      settings.unnamed = .dropCase → c.Lacks settings diagnostic →
      Logs settings c
        [.resolvingCase c.head.name c.head.slots.length
            (c.isExcluded settings.conventions.exclusion),
          .caseDropped c.head.name diagnostic]
  /-- The case is not dropped. -/
  | kept :
      ¬ (settings.unnamed = .dropCase ∧ c.LacksName settings) →
      Logs settings c
        [.resolvingCase c.head.name c.head.slots.length
          (c.isExcluded settings.conventions.exclusion)]

/-- **One case** is reported as it is declared. -/
theorem logs_resolve (settings : Settings) (c : CaseMember) :
    c.Logs settings ((c.actionCase settings.conventions.exclusion).resolve settings).events := by
  rw [ActionCase.resolve, actionCase_excluded]
  rcases hmark : c.isExcluded settings.conventions.exclusion with - | -
  · rcases hresult : (c.actionCase settings.conventions.exclusion).names settings with d | names
    · have hlacks : c.Lacks settings d := ⟨hmark, names_actionCase_eq_error.1 hresult⟩
      rcases hpolicy : settings.unnamed with - | -
      · have hkept : c.Logs settings _ := .kept (by simp [hpolicy])
        simpa [hmark, actionCase] using hkept
      · have hdropped : c.Logs settings _ := .dropped hpolicy hlacks
        simpa [hmark, actionCase] using hdropped
    · have hnamed : ¬ c.LacksName settings := by
        intro hlacks
        obtain ⟨d, -, hfirst⟩ := exists_lacks.2 hlacks
        cases hresult.symm.trans (names_actionCase_eq_error.2 hfirst)
      have hkept : c.Logs settings _ := .kept fun h => hnamed h.2
      simpa [hmark, actionCase] using hkept
  · have hkept : c.Logs settings _ := .kept fun h => by simp [LacksName, hmark] at h
    simpa [hmark, actionCase] using hkept

/-- A case stops resolution if it is one to stop the pass. -/
theorem exists_outcome_resolve_eq_error :
    (∃ diagnostic, ((c.actionCase settings.conventions.exclusion).resolve settings).outcome
      = .error diagnostic) ↔ c.Aborts settings := by
  simp only [outcome_resolve_eq_error, exists_and_left, exists_lacks, Aborts]

end CaseMember

/-- **The cases that are reached**: all up to the first that stops the pass,
that one included. -/
inductive Reached (settings : Settings) : (cases reached : List CaseMember) → Prop
  /-- No case stops the pass. -/
  | all {cases : List CaseMember} :
      (∀ c ∈ cases, ¬ c.Aborts settings) → Reached settings cases cases
  /-- This one does, and none before it. -/
  | upTo {before after : List CaseMember} {c : CaseMember} :
      (∀ b ∈ before, ¬ b.Aborts settings) → c.Aborts settings →
      Reached settings (before ++ c :: after) (before ++ [c])

theorem Reached.cons (hc : ¬ c.Aborts settings) (h : Reached settings cases reached) :
    Reached settings (c :: cases) (c :: reached) := by
  cases h with
  | all hall => exact .all (List.forall_mem_cons.2 ⟨hc, hall⟩)
  | upTo hbefore haborts => exact .upTo (List.forall_mem_cons.2 ⟨hc, hbefore⟩) haborts

/-- **All cases** that are reached are reported, in their order. -/
theorem events_resolveAll (settings : Settings) (cases : List CaseMember) :
    ∃ reached logs, Reached settings cases reached ∧
      List.Forall₂ (CaseMember.Logs settings) reached logs ∧
      (resolveAll settings (cases.map
        (CaseMember.actionCase settings.conventions.exclusion))).events = logs.flatten := by
  induction cases with
  | nil => exact ⟨[], [], .all (List.forall_mem_nil _), .nil, rfl⟩
  | cons c cases ih =>
    have hlogs := c.logs_resolve settings
    rw [List.map_cons, resolveAll, Pass.events_bind]
    rcases houtcome : ((c.actionCase settings.conventions.exclusion).resolve settings).outcome
      with d | first
    · have haborts := CaseMember.exists_outcome_resolve_eq_error.1 ⟨d, houtcome⟩
      exact ⟨[c], [_], .upTo (List.forall_mem_nil _) haborts, .cons hlogs .nil, by simp⟩
    · have hgoesOn : ¬ c.Aborts settings := by
        intro haborts
        obtain ⟨d, herror⟩ := CaseMember.exists_outcome_resolve_eq_error.2 haborts
        cases houtcome.symm.trans herror
      obtain ⟨reached, logs, hreached, hall, hevents⟩ := ih
      refine ⟨c :: reached, _ :: logs, hreached.cons hgoesOn, .cons hlogs hall, ?_⟩
      simp only [bind_pure_comp, Pass.events_map, List.flatten_cons, hevents]

/-! ## What is reported of the checks -/

namespace Declaration

/-- The dotted names of the types nested in an enum of actions, level by
level. -/
def nestedByLevel (action : Declaration) : List String :=
  (List.range (countAll action.members)).flatMap (nestedAt · none action.members)

end Declaration

namespace Target

variable {target : Target}

/-- Where the checks pass, they have found the only enum of actions and made
its union. -/
theorem hasAction_of_prepare {n : Declaration} (htarget : target.arena = .ofDeclaration n)
    {reducer : Reducer} {union : ActionUnion}
    (h : (target.prepare settings).outcome = .ok (reducer, union)) :
    ∃ action, target.HasAction settings action ∧
      union = action.actionUnion settings.conventions := by
  obtain ⟨arena, id, anchor⟩ := target
  subst htarget
  rcases hd : n.listing[id]? with - | d
  · have hget : (Arena.ofDeclaration n).get? id = none := by
      rw [Arena.get?_ofDeclaration, hd, Option.map_none]
    simp [outcome_prepare, Target.reducer, struct, hget] at h
  have hprepares := prepares_survey hd anchor settings
  rcases hsurvey : d.survey (settings.isReducer (d.entry id (n.memberStart id))) anchor
    settings.conventions with diagnostic | survey
  · rw [hsurvey, Survey.prepares_error, h] at hprepares
    cases hprepares
  rw [hsurvey] at hprepares
  obtain ⟨reducer', -, hprepared⟩ := hprepares
  obtain ⟨-, rfl⟩ := Prod.mk.inj (Except.ok.inj (h.symm.trans hprepared))
  obtain ⟨site, host, members, action, rfl, hkind, haccepts, honly, hunion⟩ := survey_eq_ok hsurvey
  refine ⟨action, ⟨members, ⟨_, host, ⟨?_, ⟨site, ?_⟩, hkind⟩, haccepts⟩, honly⟩, hunion⟩
  · rw [Arena.get?_ofDeclaration, hd, Option.map_some]
  · rw [Arena.declaration?_ofDeclaration, hd]

/-- The checks report the nested types, once all of them have passed. -/
theorem events_prepare (target : Target) (settings : Settings) :
    (target.prepare settings).events =
      match (target.prepare settings).outcome with
      | .error _ => []
      | .ok (_, union) => union.nested.map Event.nestedType := by
  simp only [prepare, Pass.events_bind, Pass.outcome_bind, Pass.events_silent,
    Pass.outcome_silent, List.nil_append]
  rcases target.reducer settings with d | reducer
  · rfl
  rcases target.arena.misplacedExclusion? target.id settings.conventions.exclusion with - | d
  · simp only [bind_pure_comp, Pass.events_map, Pass.events_report]
    rfl
  · rfl

/-- **What is reported on the way**, of the checks and the cases. -/
inductive Steps (target : Target) (settings : Settings) : List Event → Prop
  /-- A check fails, and nothing is. -/
  | unprepared {diagnostic : Diagnostic} :
      (target.prepare settings).outcome = .error diagnostic → Steps target settings []
  /-- All checks pass. First come the nested types, then the cases that are
  reached. -/
  | prepared {found : Reducer × ActionUnion} {action : Declaration}
      {reached : List CaseMember} {logs : List (List Event)} :
      (target.prepare settings).outcome = .ok found → target.HasAction settings action →
      Reached settings action.caseMembers reached →
      List.Forall₂ (CaseMember.Logs settings) reached logs →
      Steps target settings (action.nestedByLevel.map Event.nestedType ++ logs.flatten)

/-- Both kinds of pass report this. -/
theorem steps_resolution {n : Declaration} (htarget : target.arena = .ofDeclaration n)
    (settings : Settings) : target.Steps settings (target.resolution settings).events := by
  have hevents : (target.resolution settings).events = (target.prepare settings).events ++
      match (target.prepare settings).outcome with
      | .error _ => []
      | .ok (_, union) => (resolveAll settings union.cases).events := by
    rw [resolution, Pass.events_bind]
    rcases (target.prepare settings).outcome with d | ⟨reducer, union⟩
    · rfl
    · simp only [bind_pure_comp, Pass.events_map]
  rw [hevents, events_prepare]
  rcases hprepare : (target.prepare settings).outcome with d | ⟨reducer, union⟩
  · exact .unprepared hprepare
  · obtain ⟨action, haction, rfl⟩ := hasAction_of_prepare htarget hprepare
    obtain ⟨reached, logs, hreached, hlogs, hcases⟩ :=
      events_resolveAll settings action.caseMembers
    simp only [actionUnion, hcases, nestedTypes_eq_levels]
    exact .prepared hprepare haction hreached hlogs

/-! ## The events of a pass -/

/-- What is reported when both declarations are made. -/
def finished (target : Target) (settings : Settings) : List Event :=
  match (target.resolution settings).outcome with
  | .error _ => []
  | .ok found =>
    [.generated found.1.name (generatedFrom settings found).dispatch.arms.length
      (generatedFrom settings found).interface.methods.length]

theorem events_generation (target : Target) (settings : Settings) :
    (target.generation settings).events =
      [.generating target.id] ++ (target.resolution settings).events
        ++ target.finished settings
        ++ (target.generation settings).failure?.toList.map Event.aborted := by
  rw [generation_eq, Pass.failure?_reportingFailure, Pass.events_reportingFailure]
  simp only [Pass.events_bind, Pass.events_report, Pass.outcome_report, finished]
  rcases (target.resolution settings).outcome with d | found <;> simp

theorem events_dispatch (target : Target) (settings : Settings) :
    (target.dispatch settings).events =
      [.generatingDispatch target.id] ++ (target.resolution settings).events
        ++ (target.dispatch settings).failure?.toList.map Event.aborted := by
  rw [dispatch_eq, Pass.failure?_reportingFailure, Pass.events_reportingFailure,
    Pass.events_bind]
  simp only [bind_pure_comp, Pass.events_map, Pass.events_report, Pass.outcome_report]

/-- A failure of the renderer comes after the declarations are made, and a
failure before that is not reported again. -/
theorem events_rendering (target : Target) (settings : Settings) :
    (target.rendering settings).events =
      [.generating target.id] ++ (target.resolution settings).events
        ++ target.finished settings
        ++ (target.rendering settings).failure?.toList.map Event.aborted := by
  rw [rendering, Pass.failure?_bind, Pass.events_bind, events_generation, Pass.failure?]
  rcases (target.generation settings).outcome with d | generated
  · exact List.append_nil _
  · simp [Pass.events_reportingFailure, Pass.failure?_reportingFailure]

/-! ## What the log tells -/

/-- **An account of a pass**: what its events tell, where `returned` are the
diagnostics that it ends with. -/
structure Recounts (target : Target) (settings : Settings) (events : List Event)
    (returned : Diagnostic → Prop) : Prop where
  /-- The diagnostic of a pass that fails is reported in the end, and nothing
  of this kind before. -/
  aborted : ∀ diagnostic, returned diagnostic →
    ∃ earlier last, events = earlier ++ [last] ∧
      last.logRecord = ⟨.debug, "generation aborted",
        [("code", .name diagnostic.fault.code), ("span", .plain diagnostic.span.logText),
          ("diagnostic", .plain diagnostic.message)]⟩ ∧
      ∀ e ∈ earlier, e.message ≠ "generation aborted"
  /-- And none is where the pass succeeds. -/
  notAborted : (∀ diagnostic, ¬ returned diagnostic) →
    ∀ e ∈ events, e.message ≠ "generation aborted"
  /-- The checks and the cases are reported in one stretch, and they alone
  tell of nested types and of cases, and warn. -/
  steps : ∃ before steps after, events = before ++ steps ++ after ∧
    target.Steps settings steps ∧
    ∀ e ∈ before ++ after,
      e.message ≠ "nested type" ∧ e.message ≠ "resolving variant" ∧ e.level ≠ .warn

/-- On the way, no failure is reported. -/
theorem Steps.message_ne {steps : List Event} (h : target.Steps settings steps) :
    ∀ e ∈ steps, e.message ≠ "generation aborted" := by
  cases h with
  | unprepared => exact List.forall_mem_nil _
  | @prepared _ action reached logs _ _ _ hlogs =>
    refine List.forall_mem_append.2 ⟨?_, ?_⟩
    · simp [Event.message]
    clear * - hlogs
    induction hlogs with
    | nil => exact List.forall_mem_nil _
    | cons hfirst _ ih =>
      refine List.forall_mem_append.2 ⟨?_, ih⟩
      cases hfirst <;> simp [Event.message]

/-- Steps between milestones, and in the end the failure if there is one, are
an account of the pass. -/
theorem Recounts.of_steps {before steps after : List Event} {failure : Option Diagnostic}
    {returned : Diagnostic → Prop} (h : target.Steps settings steps)
    (hbefore : ∀ e ∈ before, e.isMilestone = true) (hafter : ∀ e ∈ after, e.isMilestone = true)
    (hreturned : ∀ diagnostic, returned diagnostic ↔ failure = some diagnostic) :
    target.Recounts settings (before ++ steps ++ after ++ failure.toList.map Event.aborted)
      returned := by
  have hearlier : ∀ e ∈ before ++ steps ++ after, e.message ≠ "generation aborted" := by
    refine List.forall_mem_append.2 ⟨List.forall_mem_append.2 ⟨?_, h.message_ne⟩, ?_⟩
    · exact fun e he => (Event.isMilestone_ne (hbefore e he)).1
    · exact fun e he => (Event.isMilestone_ne (hafter e he)).1
  refine ⟨fun diagnostic hd => ?_, fun hnone => ?_, ?_⟩
  · obtain rfl := (hreturned diagnostic).1 hd
    exact ⟨before ++ steps ++ after, .aborted diagnostic, rfl, rfl, hearlier⟩
  · obtain rfl : failure = none :=
      Option.eq_none_iff_forall_ne_some.2 fun d => mt (hreturned d).2 (hnone d)
    simpa using hearlier
  · refine ⟨before, steps, after ++ failure.toList.map Event.aborted, by simp, h, ?_⟩
    refine List.forall_mem_append.2 ⟨?_, List.forall_mem_append.2 ⟨?_, ?_⟩⟩
    · exact fun e he => (Event.isMilestone_ne (hbefore e he)).2
    · exact fun e he => (Event.isMilestone_ne (hafter e he)).2
    · simp [Event.message, Event.level]

theorem isMilestone_finished (target : Target) (settings : Settings) :
    ∀ e ∈ target.finished settings, e.isMilestone = true := by
  rw [finished]
  rcases (target.resolution settings).outcome with d | found
  · exact List.forall_mem_nil _
  · simp [Event.isMilestone]

theorem mem_diagnostics_expansion {diagnostic : Diagnostic} :
    diagnostic ∈ (target.expansion settings).diagnostics ↔
      (target.rendering settings).outcome = .error diagnostic := by
  rw [expansion]
  rcases (target.rendering settings).outcome with d | ⟨member, peer⟩
  · simp [Expansion.ofOutcome, eq_comm]
  · simp [Expansion.ofOutcome]

/-- **The log of a pass** is an account of it, whether both declarations are
made, the wrapper alone, or an expansion; and where both declarations are
made, it ends with the numbers of arms and methods. -/
theorem recounts {n : Declaration} (htarget : target.arena = .ofDeclaration n)
    (settings : Settings) :
    target.Recounts settings (target.generation settings).events
      (fun diagnostic => (target.generation settings).outcome = .error diagnostic) ∧
    target.Recounts settings (target.dispatch settings).events
      (fun diagnostic => (target.dispatch settings).outcome = .error diagnostic) ∧
    target.Recounts settings (target.rendering settings).events
      (fun diagnostic => diagnostic ∈ (target.expansion settings).diagnostics) ∧
    ∀ generated, (target.generation settings).outcome = .ok generated →
      ∃ earlier last, (target.generation settings).events = earlier ++ [last] ∧
        last.message = "generated action dispatch" ∧
        last.fields.lookup "arms" = some (.plain (Nat.repr generated.dispatch.arms.length)) ∧
        last.fields.lookup "methods"
          = some (.plain (Nat.repr generated.interface.methods.length)) := by
  have hsteps := steps_resolution htarget settings
  have hstarts : ∀ e ∈ [Event.generating target.id], e.isMilestone = true := by
    simp [Event.isMilestone]
  have hfinished := target.isMilestone_finished settings
  refine ⟨?_, ?_, ?_, fun generated hok => ?_⟩
  · rw [events_generation]
    exact .of_steps hsteps hstarts hfinished fun _ => Pass.failure?_eq_some.symm
  · rw [events_dispatch, ← List.append_nil ([_] ++ _)]
    exact .of_steps hsteps (by simp [Event.isMilestone]) (List.forall_mem_nil _)
      fun _ => Pass.failure?_eq_some.symm
  · rw [events_rendering]
    exact .of_steps hsteps hstarts hfinished
      fun _ => mem_diagnostics_expansion.trans Pass.failure?_eq_some.symm
  · have hnone : (target.generation settings).failure? = none := by
      rw [Pass.failure?, hok]
    rw [outcome_generation_of_resolution] at hok
    rcases hfound : (target.resolution settings).outcome with d | found
    · rw [hfound] at hok
      cases hok
    · rw [hfound] at hok
      obtain rfl := Except.ok.inj hok
      rw [events_generation, hnone, finished, hfound]
      exact ⟨_, _, List.append_nil _, rfl, rfl, rfl⟩

end Target

/-- The sample reducer has three arms, and a method for one of them. -/
theorem loader_recounts : ∃ generated,
    (loader.generation loaderSettings).outcome = .ok generated ∧
    loader.Recounts loaderSettings (loader.generation loaderSettings).events
      (fun diagnostic => (loader.generation loaderSettings).outcome = .error diagnostic) ∧
    ∃ earlier last, (loader.generation loaderSettings).events = earlier ++ [last] ∧
      last.fields.lookup "arms" = some (.plain "3") ∧
      last.fields.lookup "methods" = some (.plain "1") := by
  have hcounts : (loader.generation loaderSettings).outcome.map
      (fun generated => (Nat.repr generated.dispatch.arms.length,
        Nat.repr generated.interface.methods.length)) = .ok ("3", "1") := by cbv
  have htarget : loader.arena = .ofDeclaration loaderDeclaration := rfl
  obtain ⟨hrecounts, -, -, hlast⟩ := Target.recounts htarget loaderSettings
  rcases hok : (loader.generation loaderSettings).outcome with d | generated
  · rw [hok] at hcounts
    cases hcounts
  · rw [hok] at hcounts hrecounts
    obtain ⟨harms, hmethods⟩ := Prod.mk.inj (Except.ok.inj hcounts)
    obtain ⟨earlier, last, hevents, -, hlastArms, hlastMethods⟩ := hlast generated hok
    rw [harms] at hlastArms
    rw [hmethods] at hlastMethods
    exact ⟨generated, rfl, hrecounts, earlier, last, hevents, hlastArms, hlastMethods⟩

end ActionRelay
