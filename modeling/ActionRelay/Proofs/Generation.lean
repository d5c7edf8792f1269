import ActionRelay.Generation
import ActionRelay.Proofs.ParameterNames
import ActionRelay.Proofs.Pass
import Mathlib.Data.List.Forall2
/-!
# Generation — what a successful pass has found

`Target.generation_eq_ok` takes a successful pass apart once, so that no
later proof has to: the target holds exactly one enum of actions, each case
of that enum has been resolved on its own, and both declarations are built
from the resolved cases. What it means for a case to be resolved is said of
the case as it is declared (`CaseMember.Resolves`), not of the steps that
lead there: a case is skipped if it carries the exclusion attribute, or if
it is to be dropped and has a payload without a name.
-/

namespace ActionRelay

/-! ## The enum of actions and its cases -/

/-- Whether an enum of actions is listed. -/
def Entry.IsActionEnum (actionType : String) (entry : Entry) : Prop :=
  ∃ head members, entry.kind = .aggregate head members ∧ head.kind = .enumType ∧
    head.name = actionType

/-- Whether `entry` is an enum of actions directly inside the declaration
that is worked on. -/
def Target.ListsAction (target : Target) (actionType : String) (entry : Entry) : Prop :=
  ∃ host, target.arena.get? target.id = some host ∧
    entry ∈ target.arena.lookup host.members ∧ entry.IsActionEnum actionType

/-- A case as it is declared. -/
structure CaseMember where
  site : Site
  head : EnumCase
deriving DecidableEq

/-- The cases directly inside a declaration, in their order. -/
def Arena.caseMembers (arena : Arena) (entry : Entry) : List CaseMember :=
  (arena.lookup entry.members).filterMap fun member => member.enumCase?.map (⟨member.site, ·⟩)

namespace CaseMember

/-- Whether a case is left out of dispatch: it carries the exclusion
attribute, or it is dropped for a payload without a name. -/
def Skipped (settings : Settings) (c : CaseMember) : Prop :=
  (∃ a ∈ c.site.attributes, a.name = settings.conventions.exclusion) ∨
    settings.unnamed = .dropCase ∧ Unnameable settings.naming c.head.slots

/-- What it means that a case has been resolved. -/
def Resolves (settings : Settings) (c : CaseMember) : ResolvedCase → Prop
  | .skipped action => action.name = c.head.name ∧ c.Skipped settings
  | .forwarded action names =>
    action.name = c.head.name ∧ action.slots = c.head.slots ∧ ¬ c.Skipped settings ∧
      parameterNames c.head.name c.head.slots settings.naming settings.conventions.reserved
        = .ok names

/-- The case as a union with the given exclusion attribute holds it. -/
def actionCase (exclusion : String) (c : CaseMember) : ActionCase where
  name := c.head.name
  slots := c.head.slots
  excluded := (c.site.attribute? exclusion).isSome
  span := c.site.span

end CaseMember

variable {target : Target} {settings : Settings} {arena : Arena} {generated : Generated}

theorem Entry.actionEnum?_eq_some {entry : Entry} {actionType : String}
    {action : Aggregate × List DeclId} :
    entry.actionEnum? actionType = some action ↔
      entry.kind = .aggregate action.1 action.2 ∧ action.1.kind = .enumType ∧
        action.1.name = actionType := by
  obtain ⟨head, members⟩ := action
  rw [actionEnum?, aggregate?]
  rcases hkind : entry.kind with ⟨head', members'⟩ | c | -
  · simp only [Option.filter_eq_some_iff, Option.some.injEq, Prod.mk.injEq, Bool.and_eq_true,
      beq_iff_eq, EntryKind.aggregate.injEq]
  · simp
  · simp

/-- The search for the enum of actions succeeds with the only one. -/
theorem findAction_eq_ok {members : List Entry} {actionType : String} {anchor : Span}
    {action : Aggregate × List DeclId} (h : findAction members actionType anchor = .ok action) :
    ∃ entry : Entry, entry.kind = .aggregate action.1 action.2 ∧
      ∀ other, (other ∈ members ∧ other.IsActionEnum actionType) ↔ other = entry := by
  rw [findAction] at h
  split at h
  case h_1 entry action' heq =>
    simp only [Except.ok.injEq] at h
    subst h
    have hmem : ∀ other found, (other ∈ members ∧ other.actionEnum? actionType = some found) ↔
        (other, found) = (entry, action') := by
      intro other found
      rw [← List.mem_singleton (a := (other, found)), ← heq]
      simp only [List.mem_filterMap, Option.map_eq_some_iff, Prod.mk.injEq]
      constructor
      · rintro ⟨hother, hfound⟩
        exact ⟨other, hother, found, hfound, rfl, rfl⟩
      · rintro ⟨_, hother, _, hfound, rfl, rfl⟩
        exact ⟨hother, hfound⟩
    refine ⟨entry, (Entry.actionEnum?_eq_some.1 ((hmem entry action').2 rfl).2).1, ?_⟩
    intro other
    constructor
    · rintro ⟨hother, head, ids, hkind, henum, hname⟩
      exact (Prod.mk.inj ((hmem other (head, ids)).1
        ⟨hother, Entry.actionEnum?_eq_some.2 ⟨hkind, henum, hname⟩⟩)).1
    · rintro rfl
      obtain ⟨hother, hfound⟩ := (hmem other action').2 rfl
      obtain ⟨hkind, henum, hname⟩ := Entry.actionEnum?_eq_some.1 hfound
      exact ⟨hother, action'.1, action'.2, hkind, henum, hname⟩
  case h_2 => cases h
  case h_3 => cases h

/-- The struct that is worked on is listed under its number. -/
theorem Target.struct_eq_ok {entry : Entry} {head : Aggregate} {members : List DeclId}
    (h : target.struct = .ok (entry, head, members)) :
    target.arena.get? target.id = some entry ∧ entry.kind = .aggregate head members := by
  rw [Target.struct] at h
  rcases hget : target.arena.get? target.id with - | entry'
  · simp [hget] at h
  rcases hkind : entry'.kind with ⟨head', members'⟩ | c | -
  · simp only [hget, Entry.aggregate?, hkind] at h
    split at h
    · simp only [Except.ok.injEq, Prod.mk.injEq] at h
      obtain ⟨rfl, rfl, rfl⟩ := h
      exact ⟨rfl, hkind⟩
    · simp at h
  · simp [hget, Entry.aggregate?, hkind] at h
  · simp [hget, Entry.aggregate?, hkind] at h

/-- The action of a reducer is the only enum of actions in it. -/
theorem Target.reducer_eq_ok {reducer : Reducer} (h : target.reducer settings = .ok reducer) :
    ∃ action : Entry, action.members = reducer.actionMembers ∧
      ∀ entry, target.ListsAction settings.conventions.actionType entry ↔ entry = action := by
  rw [Target.reducer] at h
  rcases hstruct : target.struct with d | ⟨host, head, members⟩
  · simp [hstruct] at h
  obtain ⟨hget, hhost⟩ := struct_eq_ok hstruct
  simp only [hstruct] at h
  split at h
  · rcases hfind : findAction (target.arena.lookup members) settings.conventions.actionType
      target.anchor with d | ⟨action, ids⟩
    · simp [hfind] at h
    · simp only [hfind, Except.ok.injEq] at h
      subst h
      obtain ⟨entry, hkind, honly⟩ := findAction_eq_ok hfind
      refine ⟨entry, by rw [Entry.members, hkind], ?_⟩
      intro other
      rw [← honly other, ListsAction, hget]
      simp [Entry.members, hhost]
  · simp at h

theorem ActionUnion.cases_ofMembers {name exclusion : String} {entry : Entry} :
    (ActionUnion.ofMembers arena name entry.members exclusion).cases
      = (arena.caseMembers entry).map (CaseMember.actionCase exclusion) := by
  rw [ActionUnion.ofMembers, Arena.caseMembers, List.map_filterMap]
  refine List.filterMap_congr fun member _ => ?_
  rw [Entry.actionCase?, Option.map_map]
  rfl

/-! ## Resolved cases -/

theorem CaseMember.excluded_actionCase {exclusion : String} {c : CaseMember} :
    (c.actionCase exclusion).excluded = true ↔ ∃ a ∈ c.site.attributes, a.name = exclusion := by
  simp [actionCase, Site.attribute?]

/-- **One case.** What a case resolves to is decided by the case alone. -/
theorem CaseMember.resolves_of_resolve {c : CaseMember} {resolved : ResolvedCase}
    (h : ((c.actionCase settings.conventions.exclusion).resolve settings).outcome = .ok resolved) :
    c.Resolves settings resolved := by
  rw [ActionCase.resolve] at h
  by_cases hexcluded : (c.actionCase settings.conventions.exclusion).excluded = true
  · simp only [hexcluded, if_true, Except.ok.injEq] at h
    subst h
    exact ⟨rfl, Or.inl (excluded_actionCase.1 hexcluded)⟩
  rw [if_neg hexcluded] at h
  rcases hnames : (c.actionCase settings.conventions.exclusion).names settings with d | names
  · have hunnameable : Unnameable settings.naming c.head.slots := by
      by_contra hnot
      obtain ⟨names, hok⟩ := parameterNames_isOk_iff.2 hnot
      simpa using hnames.symm.trans hok
    rcases hpolicy : settings.unnamed with - | -
    · simp [hnames, hpolicy] at h
    · simp only [hnames, hpolicy, Except.ok.injEq] at h
      subst h
      exact ⟨rfl, Or.inr ⟨hpolicy, hunnameable⟩⟩
  · simp only [hnames, Except.ok.injEq] at h
    subst h
    refine ⟨rfl, rfl, ?_, hnames⟩
    rintro (hattribute | ⟨-, hunnameable⟩)
    · exact hexcluded (excluded_actionCase.2 hattribute)
    · exact parameterNames_isOk_iff.1 ⟨names, hnames⟩ hunnameable

/-- **All cases**, each resolved in its place. -/
theorem forall₂_of_resolveAll {cases : List CaseMember} {resolved : List ResolvedCase}
    (h : (resolveAll settings (cases.map
      (CaseMember.actionCase settings.conventions.exclusion))).outcome = .ok resolved) :
    List.Forall₂ (CaseMember.Resolves settings) cases resolved := by
  induction cases generalizing resolved with
  | nil =>
    simp only [List.map_nil, resolveAll, Pass.outcome_pure, Except.ok.injEq] at h
    exact h ▸ List.Forall₂.nil
  | cons c cases ih =>
    simp only [List.map_cons, resolveAll, Pass.outcome_bind_eq_ok, Pass.outcome_pure,
      Except.ok.injEq] at h
    obtain ⟨first, hfirst, later, hlater, rfl⟩ := h
    exact List.Forall₂.cons (c.resolves_of_resolve hfirst) (ih hlater)

/-! ## The whole pass -/

/-- **What a successful pass has found.** -/
theorem Target.generation_eq_ok (h : (target.generation settings).outcome = .ok generated) :
    ∃ (reducer : Reducer) (union : ActionUnion) (resolved : List ResolvedCase) (action : Entry),
      (∀ entry, target.ListsAction settings.conventions.actionType entry ↔ entry = action) ∧
      List.Forall₂ (CaseMember.Resolves settings) (target.arena.caseMembers action) resolved ∧
      generated.dispatch = reducer.dispatch settings.conventions resolved ∧
      generated.interface = reducer.interface settings.conventions union resolved := by
  simp only [generation, prepare, Pass.outcome_reportingFailure, Pass.outcome_bind_eq_ok,
    Pass.outcome_report, Pass.outcome_silent, Pass.outcome_pure, Except.ok.injEq] at h
  obtain ⟨-, -, ⟨reducer, union⟩, ⟨reducer', hreducer, hprepared⟩, resolved, hresolved, -, -,
    rfl⟩ := h
  split at hprepared
  · cases hprepared
  · simp only [Pass.outcome_bind_eq_ok, Pass.outcome_report, Pass.outcome_pure, Except.ok.injEq,
      Prod.mk.injEq] at hprepared
    obtain ⟨-, -, rfl, rfl⟩ := hprepared
    obtain ⟨action, hmembers, honly⟩ := reducer_eq_ok hreducer
    rw [← hmembers, ActionUnion.cases_ofMembers] at hresolved
    exact ⟨reducer', _, resolved, action, honly, forall₂_of_resolveAll hresolved, rfl, rfl⟩

end ActionRelay
