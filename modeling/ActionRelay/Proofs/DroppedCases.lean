import ActionRelay.Proofs.Agreement
import ActionRelay.Proofs.Nameless
import ActionRelay.Proofs.Survey
/-!
# Dropped cases — dropping a case is excluding it

Where cases with a nameless payload are to be dropped, a pass ends as it
would where they are not, if each such case carried the exclusion attribute
(`Target.generation_dropCase`). The attributes that are added stand on
cases, where they are never misplaced, so the survey of the declaration
changes in one way only: these cases count as excluded
(`Declaration.survey_excludeUnfit`). It is what is made that is the same, not
the log; and it is the name that a payload lacks, not a path, since a path
without a step gives none (`dropped_ne_excluded`).
-/

namespace ActionRelay

/-! ## Excluding cases -/

/-- The case, excluded if it has an unfit payload. -/
def ActionCase.excludeUnfit (unfit : Slot → Bool) (action : ActionCase) : ActionCase :=
  { action with excluded := action.excluded || action.slots.any unfit }

/-- The union with each case excluded that has an unfit payload. -/
def ActionUnion.excludeUnfit (unfit : Slot → Bool) (union : ActionUnion) : ActionUnion :=
  { union with cases := union.cases.map (ActionCase.excludeUnfit unfit) }

namespace Declaration

/-- The declaration with its members changed. -/
def mapMembers (f : Declaration → Declaration) : Declaration → Declaration
  | .aggregate site head members => .aggregate site head (members.map f)
  | d => d

/-- The declaration, with one more attribute if it is a case with an unfit
payload. -/
def markUnfit (unfit : Slot → Bool) (mark : Attribute) : Declaration → Declaration
  | .enumCase site head =>
    if head.slots.any unfit then
      .enumCase { site with attributes := site.attributes ++ [mark] } head
    else .enumCase site head
  | d => d

/-- The declaration, with its unfit cases marked if it is an enum of
actions. -/
def markAction (actionType : String) (unfit : Slot → Bool) (mark : Attribute) (d : Declaration) :
    Declaration :=
  if d.isAction actionType then d.mapMembers (markUnfit unfit mark) else d

/-- The declaration with the exclusion attribute, at `span`, added to each
case directly inside an enum of actions among its members that has an unfit
payload. -/
def excludeUnfit (unfit : Slot → Bool) (names : Conventions) (span : Span) (d : Declaration) :
    Declaration :=
  d.mapMembers (markAction names.actionType unfit ⟨names.exclusion, span⟩)

/-- The same for nameless payloads. -/
def excludeNameless (settings : Settings) (span : Span) (d : Declaration) : Declaration :=
  d.excludeUnfit (Slot.isNameless settings.naming) settings.conventions span

/-! ## Declarations that differ in the sites of cases -/

/-- Whether two declarations differ in the sites of cases only. -/
inductive SameButCases : Declaration → Declaration → Prop
  | refl (d : Declaration) : SameButCases d d
  | enumCase (site site' : Site) (head : EnumCase) :
    SameButCases (.enumCase site head) (.enumCase site' head)
  | aggregate (site : Site) (head : Aggregate) {members members' : List Declaration} :
    List.Forall₂ SameButCases members members' →
      SameButCases (.aggregate site head members) (.aggregate site head members')

namespace SameButCases

variable {d d' : Declaration} {ds ds' : List Declaration}

theorem members (h : SameButCases d d') : List.Forall₂ SameButCases d.members d'.members := by
  cases h with
  | refl => exact List.forall₂_same.2 fun member _ => SameButCases.refl member
  | enumCase => exact List.Forall₂.nil
  | aggregate site head hmembers => exact hmembers

theorem misplacedExclusion? (h : SameButCases d d') (exclusion : String) :
    d.misplacedExclusion? exclusion = d'.misplacedExclusion? exclusion := by
  cases h <;> rfl

theorem nestedName? (h : SameButCases d d') (parent : Option String) :
    d.nestedName? parent = d'.nestedName? parent := by
  cases h <;> rfl

theorem nestedTypes (h : List.Forall₂ SameButCases ds ds') :
    Declaration.nestedTypes ds = Declaration.nestedTypes ds' :=
  nestedTypes_eq_of_forall₂ (fun _ _ => members) (fun parent _ _ hd => hd.nestedName? parent) h

theorem findSome?_listing (h : SameButCases d d') (exclusion : String) :
    d.listing.findSome? (Declaration.misplacedExclusion? exclusion)
      = d'.listing.findSome? (Declaration.misplacedExclusion? exclusion) :=
  findSome?_eq_of_forall₂ (forall₂_listing (fun _ _ => members) h)
    fun _ _ hd => hd.misplacedExclusion? exclusion

end SameButCases

variable {d : Declaration} {actionType : String} {unfit : Slot → Bool} {mark : Attribute}

theorem sameButCases_mapMembers {f : Declaration → Declaration}
    (hf : ∀ member, SameButCases member (f member)) (d : Declaration) :
    SameButCases d (d.mapMembers f) := by
  cases d with
  | aggregate site head members =>
    refine SameButCases.aggregate site head ?_
    rw [List.forall₂_map_right_iff]
    exact List.forall₂_same.2 fun member _ => hf member
  | enumCase site head => exact SameButCases.refl _
  | other site => exact SameButCases.refl _

theorem sameButCases_markUnfit (d : Declaration) :
    SameButCases d (d.markUnfit unfit mark) := by
  cases d with
  | aggregate site head members => exact SameButCases.refl _
  | enumCase site head =>
    rw [markUnfit]
    split
    · exact SameButCases.enumCase _ _ head
    · exact SameButCases.refl _
  | other site => exact SameButCases.refl _

theorem sameButCases_markAction (d : Declaration) :
    SameButCases d (d.markAction actionType unfit mark) := by
  rw [markAction]
  split
  · exact sameButCases_mapMembers sameButCases_markUnfit d
  · exact SameButCases.refl d

/-! ## The survey of a marked declaration -/

theorem site_markAction (d : Declaration) : (d.markAction actionType unfit mark).site = d.site := by
  rw [markAction]
  split
  · cases d <;> rfl
  · rfl

theorem isAction_markAction (d : Declaration) :
    (d.markAction actionType unfit mark).isAction actionType = d.isAction actionType := by
  rw [markAction]
  split
  · cases d <;> rfl
  · rfl

/-- The enum of actions is found among marked members as before. -/
theorem onlyAction_map_markAction (anchor : Span) (members : List Declaration) :
    onlyAction actionType anchor (members.map (markAction actionType unfit mark))
      = (onlyAction actionType anchor members).map (markAction actionType unfit mark) := by
  have hfilter : (members.map (markAction actionType unfit mark)).filter (isAction actionType)
      = (members.filter (isAction actionType)).map (markAction actionType unfit mark) := by
    rw [List.filter_map]
    congr 2
    funext d
    exact isAction_markAction d
  have hfind : (members.map (markAction actionType unfit mark)).find? (mentions actionType)
      = (members.find? (mentions actionType)).map (markAction actionType unfit mark) := by
    rw [List.find?_map]
    congr 2
    funext d
    simp only [Function.comp_apply, mentions, site_markAction]
  rw [onlyAction, onlyAction, hfilter, hfind]
  rcases members.filter (isAction actionType) with - | ⟨first, - | ⟨second, later⟩⟩
  · simp [Except.map, Function.comp_def, site_markAction]
  · rfl
  · simp [Except.map, site_markAction]

/-- A marked case is an excluded one. -/
theorem actionCase_markUnfit (exclusion : String) (span : Span) (d : Declaration) :
    (d.markUnfit unfit ⟨exclusion, span⟩).caseMember?.map (CaseMember.actionCase exclusion)
      = (d.caseMember?.map (CaseMember.actionCase exclusion)).map
          (ActionCase.excludeUnfit unfit) := by
  cases d with
  | aggregate site head members => rfl
  | enumCase site head =>
    rw [markUnfit]
    split
    case isTrue h =>
      simp [caseMember?, CaseMember.actionCase, ActionCase.excludeUnfit, h, Site.attribute?]
    case isFalse h =>
      simp [caseMember?, CaseMember.actionCase, ActionCase.excludeUnfit, h]
  | other site => rfl

/-- The union of a marked enum of actions has its unfit cases excluded. -/
theorem actionUnion_markAction {names : Conventions} (span : Span)
    (h : d.isAction names.actionType = true) :
    (d.markAction names.actionType unfit ⟨names.exclusion, span⟩).actionUnion names
      = (d.actionUnion names).excludeUnfit unfit := by
  have hmembers : (d.mapMembers (markUnfit unfit ⟨names.exclusion, span⟩)).members
      = d.members.map (markUnfit unfit ⟨names.exclusion, span⟩) := by
    cases d <;> rfl
  have hcases : (d.mapMembers (markUnfit unfit ⟨names.exclusion, span⟩)).caseMembers.map
        (CaseMember.actionCase names.exclusion)
      = (d.caseMembers.map (CaseMember.actionCase names.exclusion)).map
          (ActionCase.excludeUnfit unfit) := by
    rw [caseMembers, caseMembers, hmembers, List.filterMap_map, List.map_filterMap,
      List.map_filterMap, List.map_filterMap]
    exact List.filterMap_congr fun member _ => actionCase_markUnfit names.exclusion span member
  have hnested : nestedTypes (d.mapMembers (markUnfit unfit ⟨names.exclusion, span⟩)).members
      = nestedTypes d.members :=
    (SameButCases.nestedTypes
      (sameButCases_mapMembers sameButCases_markUnfit d).members).symm
  rw [markAction, if_pos h, actionUnion, hcases, hnested]
  rfl

/-- **The survey of a marked declaration**: the unfit cases of its enum of
actions count as excluded, and nothing else is changed. -/
theorem survey_excludeUnfit (names : Conventions) (span : Span) (accepts : Aggregate → Bool)
    (anchor : Span) (d : Declaration) :
    (d.excludeUnfit unfit names span).survey accepts anchor names
      = (d.survey accepts anchor names).map fun survey =>
          ⟨survey.host, survey.union.excludeUnfit unfit⟩ := by
  have hsame : SameButCases d (d.excludeUnfit unfit names span) :=
    sameButCases_mapMembers sameButCases_markAction d
  -- the marks stand on cases, where no attribute is misplaced
  have hmisplaced := hsame.findSome?_listing names.exclusion
  rcases d with ⟨site, host, members⟩ | ⟨site, head⟩ | ⟨site⟩
  · simp only [excludeUnfit, mapMembers] at hmisplaced ⊢
    simp only [survey, ← hmisplaced, onlyAction_map_markAction]
    split_ifs
    · rcases honly : onlyAction names.actionType anchor members with e | action
      · rfl
      · simp only [Except.map, actionUnion_markAction span (isAction_of_onlyAction honly)]
        rcases (aggregate site host members).listing.findSome? _ with - | e <;> rfl
    · rfl
    · rfl
  · rfl
  · rfl

end Declaration

/-! ## The resolution of excluded cases -/

/-- Whether the same becomes of two cases: both are forwarded alike, or both
are skipped under one name. -/
inductive ResolvedCase.Alike : ResolvedCase → ResolvedCase → Prop
  | skipped {action action' : ActionCase} :
    action.name = action'.name → Alike (.skipped action) (.skipped action')
  | forwarded (action : ActionCase) (names : List String) :
    Alike (.forwarded action names) (.forwarded action names)

variable {settings : Settings} {resolved resolved' : List ResolvedCase}

/-- A case has names unless one of its payloads is nameless. -/
theorem ActionCase.names_isOk_iff {action : ActionCase} :
    (∃ names, action.names settings = .ok names) ↔
      action.slots.any (Slot.isNameless settings.naming) = false := by
  rw [names, parameterNames_isOk_iff, unnameable_iff, ← Bool.not_eq_true, List.any_eq_true]

/-- **One case**: dropping it is excluding it. -/
theorem ActionCase.alike_excludeUnfit (settings : Settings) (action : ActionCase) :
    ∃ r r', (action.resolve { settings with unnamed := .dropCase }).outcome = .ok r ∧
      ((action.excludeUnfit (Slot.isNameless settings.naming)).resolve
        { settings with unnamed := .abort }).outcome = .ok r' ∧ r.Alike r' := by
  simp only [outcome_resolve]
  by_cases hexcluded : action.excluded = true
  · exact ⟨_, _, if_pos hexcluded, if_pos (by simp [excludeUnfit, hexcluded]),
      ResolvedCase.Alike.skipped rfl⟩
  rcases hnameless : action.slots.any (Slot.isNameless settings.naming) with - | -
  · -- no payload is nameless, so the case is the same and has names
    have hsame : action.excludeUnfit (Slot.isNameless settings.naming) = action := by
      simp [excludeUnfit, hnameless]
    obtain ⟨names, hnames⟩ := names_isOk_iff.2 hnameless
    have hnames' : ∀ policy, action.names { settings with unnamed := policy } = .ok names :=
      fun _ => hnames
    refine ⟨.forwarded action names, .forwarded action names, ?_, ?_, .forwarded action names⟩
    · simp [hexcluded, hnames']
    · simp [hsame, hexcluded, hnames']
  · have hexcludes : (action.excludeUnfit (Slot.isNameless settings.naming)).excluded = true := by
      simp [excludeUnfit, hnameless]
    have hnames : ∀ names, action.names { settings with unnamed := .dropCase } ≠ .ok names := by
      intro names hnames
      cases (names_isOk_iff.1 ⟨names, hnames⟩).symm.trans hnameless
    refine ⟨.skipped action, _, ?_, if_pos hexcludes, ResolvedCase.Alike.skipped rfl⟩
    rcases hfails : action.names { settings with unnamed := .dropCase } with d | names
    · simp [hexcluded]
    · exact absurd hfails (hnames names)

/-- **All cases**, in their places. -/
theorem alike_resolveAll (settings : Settings) (cases : List ActionCase) :
    ∃ resolved resolved',
      (resolveAll { settings with unnamed := .dropCase } cases).outcome = .ok resolved ∧
      (resolveAll { settings with unnamed := .abort }
        (cases.map (ActionCase.excludeUnfit (Slot.isNameless settings.naming)))).outcome
          = .ok resolved' ∧
      List.Forall₂ ResolvedCase.Alike resolved resolved' := by
  induction cases with
  | nil => exact ⟨[], [], rfl, rfl, List.Forall₂.nil⟩
  | cons action cases ih =>
    obtain ⟨r, r', hr, hr', halike⟩ := action.alike_excludeUnfit settings
    obtain ⟨later, later', hlater, hlater', hall⟩ := ih
    refine ⟨r :: later, r' :: later', ?_, ?_, List.Forall₂.cons halike hall⟩
    · simp [resolveAll, hr, hlater, Except.map]
    · simp [resolveAll, hr', hlater', Except.map]

section Alike

variable (h : List.Forall₂ ResolvedCase.Alike resolved resolved')
include h

theorem dispatch_eq_of_alike (reducer : Reducer) (names : Conventions) :
    reducer.dispatch names resolved = reducer.dispatch names resolved' := by
  have hforwarded : resolved.any ResolvedCase.isForwarded
      = resolved'.any ResolvedCase.isForwarded := by
    induction h with
    | nil => rfl
    | cons hfirst _ ih =>
      rw [List.any_cons, List.any_cons, ih]
      cases hfirst <;> rfl
  have harms : resolved.map (ResolvedCase.arm names) = resolved'.map (ResolvedCase.arm names) := by
    clear hforwarded
    induction h with
    | nil => rfl
    | cons hfirst _ ih =>
      rw [List.map_cons, List.map_cons, ih]
      cases hfirst with
      | skipped hname => rw [ResolvedCase.arm, ResolvedCase.arm, hname]
      | forwarded => rfl
  rw [Reducer.dispatch, Reducer.dispatch, hforwarded, harms]

theorem interface_eq_of_alike (reducer : Reducer) (names : Conventions) (union : ActionUnion) :
    reducer.interface names union resolved = reducer.interface names union resolved' := by
  have hmethods : resolved.filterMap (ResolvedCase.signature? names union)
      = resolved'.filterMap (ResolvedCase.signature? names union) := by
    refine filterMap_eq_of_forall₂ h fun _ _ halike => ?_
    cases halike <;> rfl
  rw [Reducer.interface, Reducer.interface, hmethods]

end Alike

/-- What is made where cases are dropped is what is made where they are
excluded. -/
theorem Reducer.generated_dropCase (reducer : Reducer) (settings : Settings)
    (union : ActionUnion) :
    reducer.generated { settings with unnamed := .dropCase } union
      = reducer.generated { settings with unnamed := .abort }
          (union.excludeUnfit (Slot.isNameless settings.naming)) := by
  obtain ⟨resolved, resolved', hdropped, hexcluded, halike⟩ :=
    alike_resolveAll settings union.cases
  have hinterface : reducer.interface settings.conventions union resolved'
      = reducer.interface settings.conventions
          (union.excludeUnfit (Slot.isNameless settings.naming)) resolved' :=
    rfl
  rw [generated, generated, ActionUnion.excludeUnfit, hdropped, hexcluded]
  simp only [Except.map, dispatch_eq_of_alike halike, interface_eq_of_alike halike, hinterface]
  rfl

/-! ## Where nothing is dropped -/

/-- A case that is resolved where it could stop the pass is resolved alike
where it could be dropped. -/
theorem ActionCase.resolve_dropCase_of_abort {action : ActionCase} {r : ResolvedCase}
    (h : (action.resolve { settings with unnamed := .abort }).outcome = .ok r) :
    (action.resolve { settings with unnamed := .dropCase }).outcome = .ok r := by
  have hnames : ∀ policy, action.names { settings with unnamed := policy }
      = action.names settings := fun _ => rfl
  simp only [outcome_resolve, hnames] at h ⊢
  rcases hexcluded : action.excluded with - | -
  · rcases hresult : action.names settings with d | names
    · simp [hexcluded, hresult] at h
    · simpa [hexcluded, hresult] using h
  · simpa [hexcluded] using h

theorem resolveAll_dropCase_of_abort {cases : List ActionCase}
    (h : (resolveAll { settings with unnamed := .abort } cases).outcome = .ok resolved) :
    (resolveAll { settings with unnamed := .dropCase } cases).outcome = .ok resolved := by
  induction cases generalizing resolved with
  | nil => exact h
  | cons action cases ih =>
    simp only [resolveAll, Pass.outcome_bind_eq_ok, Pass.outcome_pure] at h ⊢
    obtain ⟨first, hfirst, later, hlater, hresolved⟩ := h
    exact ⟨first, ActionCase.resolve_dropCase_of_abort hfirst, later, ih hlater, hresolved⟩

theorem Reducer.generated_dropCase_of_abort {reducer : Reducer} {union : ActionUnion}
    {generated : Generated}
    (h : reducer.generated { settings with unnamed := .abort } union = .ok generated) :
    reducer.generated { settings with unnamed := .dropCase } union = .ok generated := by
  simp only [Reducer.generated] at h ⊢
  rcases hresolved : (resolveAll { settings with unnamed := .abort } union.cases).outcome
    with d | resolved
  · simp [hresolved, Except.map] at h
  · rwa [resolveAll_dropCase_of_abort hresolved, ← hresolved]

/-! ## The pass -/

/-- Marks on cases inside the declaration do not show in its own entry. -/
theorem Declaration.entry_excludeNameless (settings : Settings) (span : Span) (d : Declaration)
    (id next : DeclId) : (d.excludeNameless settings span).entry id next = d.entry id next := by
  rcases d with ⟨site, head, members⟩ | ⟨site, head⟩ | ⟨site⟩
  · simp [excludeNameless, excludeUnfit, mapMembers, entry]
  · rfl
  · rfl

namespace Survey.Yields

variable {outcome outcome' : Except Diagnostic Generated} {result : Except Diagnostic Survey}

/-- Passes end alike if the nameless cases are dropped in one and excluded
in the other. -/
theorem eq_of_excludeNameless
    (hdropped : Survey.Yields { settings with unnamed := .dropCase } outcome result)
    (hexcluded : Survey.Yields { settings with unnamed := .abort } outcome'
      (result.map fun survey =>
        ⟨survey.host, survey.union.excludeUnfit (Slot.isNameless settings.naming)⟩)) :
    outcome = outcome' := by
  rcases result with diagnostic | survey
  · exact hdropped.trans hexcluded.symm
  · obtain ⟨reducer, hhost, rfl⟩ := hdropped
    obtain ⟨reducer', hhost', rfl⟩ := hexcluded
    rw [Reducer.generated_dropCase]
    exact Reducer.generated_congr (hhost.trans hhost'.symm) _ _

/-- What a pass makes where no case is dropped it makes where cases are. -/
theorem eq_ok_of_abort {generated : Generated}
    (hdropped : Survey.Yields { settings with unnamed := .dropCase } outcome result)
    (haborted : Survey.Yields { settings with unnamed := .abort } outcome' result)
    (hok : outcome' = .ok generated) : outcome = .ok generated := by
  rcases result with diagnostic | survey
  · cases haborted.symm.trans hok
  · obtain ⟨reducer, hhost, rfl⟩ := hdropped
    obtain ⟨reducer', hhost', rfl⟩ := haborted
    rw [Reducer.generated_congr (hhost.trans hhost'.symm)]
    exact Reducer.generated_dropCase_of_abort hok

end Survey.Yields

namespace Target

/-- **Dropping a case is excluding it**: where cases with a nameless payload
are dropped, a pass ends as it does where they are not but each carries the
exclusion attribute. In particular, a pass that succeeds where they are not
dropped makes the same where they are. -/
theorem generation_dropCase (n : Declaration) (anchor span : Span) (settings : Settings) :
    ((Target.mk (.ofDeclaration n) Arena.root anchor).generation
        { settings with unnamed := .dropCase }).outcome
      = ((Target.mk (.ofDeclaration (n.excludeNameless settings span)) Arena.root
          anchor).generation { settings with unnamed := .abort }).outcome ∧
    ∀ generated,
      ((Target.mk (.ofDeclaration n) Arena.root anchor).generation
        { settings with unnamed := .abort }).outcome = .ok generated →
      ((Target.mk (.ofDeclaration n) Arena.root anchor).generation
        { settings with unnamed := .dropCase }).outcome = .ok generated := by
  have hdropped := yields_survey n.getElem?_listing_zero anchor
    { settings with unnamed := .dropCase }
  have haborted := yields_survey n.getElem?_listing_zero anchor
    { settings with unnamed := .abort }
  have hexcluded := yields_survey (n.excludeNameless settings span).getElem?_listing_zero anchor
    { settings with unnamed := .abort }
  simp only [n.entry_excludeNameless settings span, Declaration.memberStart_zero] at *
  rw [Declaration.excludeNameless, Declaration.survey_excludeUnfit] at hexcluded
  exact ⟨hdropped.eq_of_excludeNameless hexcluded,
    fun _ hok => hdropped.eq_ok_of_abort haborted hok⟩

end Target

/-- The sample reducer with the exclusion attribute on its last case, the
one with a nameless payload. -/
def markedLoaderDeclaration : Declaration :=
  loaderDeclaration.excludeNameless loaderSettings {}

/-- It, as the target of a pass. -/
def markedLoader : Target where
  arena := .ofDeclaration markedLoaderDeclaration

theorem loader_generation_dropCase : ∃ generated,
    (loader.generation loaderSettings).outcome = .ok generated ∧
    (markedLoader.generation { loaderSettings with unnamed := .abort }).outcome = .ok generated ∧
    (markedLoader.generation loaderSettings).outcome = .ok generated := by
  have hok : ∃ generated, (loader.generation loaderSettings).outcome = .ok generated :=
    ⟨_, by cbv⟩
  obtain ⟨generated, hok⟩ := hok
  have habort : (markedLoader.generation { loaderSettings with unnamed := .abort }).outcome
      = .ok generated :=
    (Target.generation_dropCase loaderDeclaration {} {} loaderSettings).1.symm.trans hok
  exact ⟨generated, hok, habort,
    (Target.generation_dropCase markedLoaderDeclaration {} {} loaderSettings).2 generated habort⟩

/-! ## Payloads without a path -/

/-- Whether a payload has neither a label nor a second name, and a type that
is no path, where names are made from types. -/
def Slot.isPathless (naming : Naming) (slot : Slot) : Bool :=
  naming = .typeDerived && slot.label.isNone && slot.bind.isNone &&
    match slot.type with
    | .named _ => false
    | _ => true

/-- That makes it nameless, and so does a path without a step, but nothing
else. -/
theorem Slot.isNameless_iff {naming : Naming} {slot : Slot} :
    slot.isNameless naming = true ↔ slot.isPathless naming = true ∨
      naming = .typeDerived ∧ slot.label = none ∧ slot.bind = none ∧ slot.type = .named [] := by
  rcases slot with ⟨label, bind, (- | ⟨first, later⟩) | - | - | - | - | -, span⟩ <;>
    simp [isNameless, isPathless, TypeExpr.isPath, and_assoc]

/-- A reducer with one case, whose payload has a path without a step for its
type. -/
def steplessDeclaration : Declaration :=
  .aggregate {} { kind := .structType, name := "Feature", inherited := [.plain ["Reducer"]] }
    [.aggregate {} { kind := .enumType, name := "Action" }
      [.enumCase {} { name := "ping", slots := [{ type := .named [] }] }]]

/-- **What tells dropping from excluding.** A dropped case is warned about,
an excluded one is not. And a payload need not be pathless for its case to be
dropped: in the reducer above none is, so that no case would be marked for
one, and still the case is dropped where cases are, and stops the pass where
they are not. -/
theorem dropped_ne_excluded :
    (loader.generation loaderSettings).events.any (·.level = .warn) = true ∧
    (markedLoader.generation { loaderSettings with unnamed := .abort }).events.any
      (·.level = .warn) = false ∧
    steplessDeclaration.excludeUnfit (Slot.isPathless .typeDerived) {} {} = steplessDeclaration ∧
    ((Target.mk (.ofDeclaration steplessDeclaration) Arena.root {}).generation
      { Settings.ofConventions {} with unnamed := .dropCase }).outcome.map (·.dispatch.body)
        = .ok none ∧
    ((Target.mk (.ofDeclaration (steplessDeclaration.excludeUnfit (Slot.isPathless .typeDerived)
      {} {})) Arena.root {}).generation
        { Settings.ofConventions {} with unnamed := .abort }).outcome
          = .error ⟨.unnamedPayload "ping" 0, {}⟩ := by
  have hmarked : steplessDeclaration.excludeUnfit (Slot.isPathless .typeDerived) {} {}
      = steplessDeclaration := by cbv
  rw [hmarked]
  exact ⟨by cbv, by cbv, rfl, by cbv, by cbv⟩

end ActionRelay
