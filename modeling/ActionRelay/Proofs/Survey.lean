import ActionRelay.Proofs.Declaration.Visit
import ActionRelay.Proofs.Generation
/-!
# Surveys — what a pass reads of a declaration

A pass works on an arena and follows numbers. What it finds there can be
read off the declaration itself: `Declaration.survey` makes the same checks
in the same order without an arena, and ends with the struct and its action
union, or with the first fault. `Target.prepares_survey` says that the
checks of a pass which is pointed at a declaration end as its survey says,
wherever the declaration is listed; and `Target.yields_survey` that the pass
does.
-/

namespace ActionRelay

/-- What the checks of a pass find: the struct and its actions. -/
structure Survey where
  host : Aggregate
  union : ActionUnion

namespace Declaration

/-! ## Reading a declaration -/

/-- Whether the declaration is a case. -/
def isCase : Declaration → Bool
  | .enumCase _ _ => true
  | _ => false

/-- Whether the declaration is an enum called `actionType`. -/
def isAction (actionType : String) : Declaration → Bool
  | .aggregate _ head _ => head.kind == .enumType && head.name == actionType
  | _ => false

/-- Whether the text of the declaration has `actionType` between spaces. -/
def mentions (actionType : String) (d : Declaration) : Bool :=
  occursIn (" " ++ actionType ++ " ").toList d.site.text.toList

/-- The fault of a declaration that is no case and carries the attribute
`exclusion`. -/
def misplacedExclusion? (exclusion : String) (d : Declaration) : Option Diagnostic :=
  if d.isCase then none else (d.site.attribute? exclusion).map (⟨.misplacedExclusion, ·.span⟩)

/-- The case, if the declaration is one. -/
def caseMember? : Declaration → Option CaseMember
  | .enumCase site head => some ⟨site, head⟩
  | _ => none

/-- The cases directly inside a declaration, in their order. -/
def caseMembers (d : Declaration) : List CaseMember :=
  d.members.filterMap caseMember?

/-- The dotted name of an aggregate found below `parent`. -/
def nestedName? (parent : Option String) : Declaration → Option String
  | .aggregate _ head _ => some (nestedName parent head.name)
  | _ => none

/-- The dotted names of all aggregates among `members` and below them, level
by level. -/
def nestedTypes (members : List Declaration) : List String :=
  (walk (fun parent d => d.nestedName? parent) (members.map (none, ·))).filterMap
    fun (parent, d) => d.nestedName? parent

/-- The union that an enum of actions makes. -/
def actionUnion (names : Conventions) (action : Declaration) : ActionUnion where
  name := names.actionType
  cases := action.caseMembers.map (CaseMember.actionCase names.exclusion)
  nested := nestedTypes action.members

/-- The only enum of actions among the members. -/
def onlyAction (actionType : String) (anchor : Span) (members : List Declaration) :
    Except Diagnostic Declaration :=
  match members.filter (isAction actionType) with
  | [action] => .ok action
  | _ :: second :: _ => .error ⟨.actionRequired, second.site.span⟩
  | [] =>
    .error ⟨.actionRequired,
      ((members.find? (mentions actionType)).map (·.site.span)).getD anchor⟩

/-- What the checks of a pass find in the declaration, where `accepts` says
which structs count as reducers. -/
def survey (accepts : Aggregate → Bool) (anchor : Span) (names : Conventions)
    (d : Declaration) : Except Diagnostic Survey :=
  match d with
  | .aggregate _ host members =>
    if host.kind = .structType then
      if accepts host then
        match onlyAction names.actionType anchor members with
        | .error diagnostic => .error diagnostic
        | .ok action =>
          match d.listing.findSome? (misplacedExclusion? names.exclusion) with
          | some diagnostic => .error diagnostic
          | none => .ok ⟨host, action.actionUnion names⟩
      else .error ⟨.notReducer, host.nameSpan⟩
    else .error ⟨.notStruct, anchor⟩
  | _ => .error ⟨.notStruct, anchor⟩

theorem onlyAction_eq_ok {actionType : String} {anchor : Span} {members : List Declaration}
    {action : Declaration} :
    onlyAction actionType anchor members = .ok action ↔
      members.filter (isAction actionType) = [action] := by
  rw [onlyAction]
  split
  case h_1 action' heq => simp [heq]
  case h_2 heq => simp [heq]
  case h_3 heq => simp [heq]

theorem isAction_of_onlyAction {actionType : String} {anchor : Span} {members : List Declaration}
    {action : Declaration} (h : onlyAction actionType anchor members = .ok action) :
    action.isAction actionType = true := by
  have hmem : action ∈ members.filter (isAction actionType) := by simp [onlyAction_eq_ok.1 h]
  exact (List.mem_filter.1 hmem).2

/-- The survey of a reducer finds its only enum of actions. -/
theorem survey_eq_ok {accepts : Aggregate → Bool} {anchor : Span} {names : Conventions}
    {d : Declaration} {survey : Survey} (h : d.survey accepts anchor names = .ok survey) :
    ∃ site host members action, d = .aggregate site host members ∧ host.kind = .structType ∧
      accepts host = true ∧ members.filter (isAction names.actionType) = [action] ∧
      survey.union = action.actionUnion names := by
  rcases d with ⟨site, host, members⟩ | ⟨site, head⟩ | ⟨site⟩
  case enumCase => cases h
  case other => cases h
  simp only [Declaration.survey] at h
  split_ifs at h with hkind haccepts
  rcases honly : onlyAction names.actionType anchor members with e | action
  · simp [honly] at h
  · simp only [honly] at h
    split at h
    · cases h
    · obtain rfl := Except.ok.inj h
      exact ⟨site, host, members, action, rfl, hkind, haccepts, onlyAction_eq_ok.1 honly, rfl⟩

/-! ## Entries show what is declared -/

section Entry

variable {d : Declaration} {id next : DeclId}

theorem misplacedExclusion?_entry (exclusion : String) :
    (d.entry id next).misplacedExclusion? exclusion = d.misplacedExclusion? exclusion := by
  cases d <;> rfl

theorem nestedName?_entry (parent : Option String) :
    (d.entry id next).nestedName? parent = d.nestedName? parent := by
  cases d <;> rfl

theorem actionCase?_entry (exclusion : String) :
    (d.entry id next).actionCase? exclusion
      = d.caseMember?.map (CaseMember.actionCase exclusion) := by
  cases d <;> rfl

theorem isSome_actionEnum?_entry (actionType : String) :
    ((d.entry id next).actionEnum? actionType).isSome = d.isAction actionType := by
  rcases d with ⟨site, head, members⟩ | - | -
  · simp [Entry.actionEnum?, Entry.aggregate?, entry, isAction, Option.isSome_filter]
  · rfl
  · rfl

end Entry

end Declaration

open Declaration

variable {n d : Declaration} {i : ℕ} {ids : List ℕ} {ds : List Declaration}
variable {settings : Settings}

section Lists

variable {α β γ : Type} {R : α → β → Prop} {f : α → Option γ} {g : β → Option γ}
variable {as : List α} {bs : List β}

theorem findSome?_eq_of_forall₂ (h : List.Forall₂ R as bs) (hfg : ∀ a b, R a b → f a = g b) :
    as.findSome? f = bs.findSome? g := by
  induction h with
  | nil => rfl
  | cons hfirst _ ih => rw [List.findSome?_cons, List.findSome?_cons, hfg _ _ hfirst, ih]

theorem filterMap_eq_of_forall₂ (h : List.Forall₂ R as bs) (hfg : ∀ a b, R a b → f a = g b) :
    as.filterMap f = bs.filterMap g := by
  induction h with
  | nil => rfl
  | cons hfirst _ ih => rw [List.filterMap_cons, List.filterMap_cons, hfg _ _ hfirst, ih]

theorem exists_mem_of_forall₂ (h : List.Forall₂ R as bs) : ∀ a ∈ as, ∃ b ∈ bs, R a b := by
  intro a ha
  induction h with
  | nil => cases ha
  | @cons first first' _ _ hfirst _ ih =>
    rcases List.mem_cons.1 ha with rfl | ha
    · exact ⟨first', List.mem_cons_self, hfirst⟩
    · obtain ⟨b, hb, hpartner⟩ := ih ha
      exact ⟨b, List.mem_cons_of_mem _ hb, hpartner⟩

end Lists

/-- Declarations that correspond, whose members do and whose names are the
same, have the same nested types. -/
theorem Declaration.nestedTypes_eq_of_forall₂ {R : Declaration → Declaration → Prop}
    {ds' : List Declaration}
    (hmembers : ∀ d d', R d d' → List.Forall₂ R d.members d'.members)
    (hname : ∀ parent d d', R d d' → d.nestedName? parent = d'.nestedName? parent)
    (h : List.Forall₂ R ds ds') : nestedTypes ds = nestedTypes ds' := by
  refine filterMap_eq_of_forall₂ (forall₂_walk hmembers hname ?_) ?_
  · rw [List.forall₂_map_left_iff, List.forall₂_map_right_iff]
    exact h.imp fun _ _ hd => ⟨rfl, hd⟩
  · rintro ⟨parent, d⟩ ⟨parent', d'⟩ ⟨rfl, hd⟩
    exact hname parent d d' hd

namespace Arena

theorem misplacedExclusion?_ofDeclaration (hd : n.listing[i]? = some d) (exclusion : String) :
    (ofDeclaration n).misplacedExclusion? i exclusion
      = d.listing.findSome? (Declaration.misplacedExclusion? exclusion) := by
  refine findSome?_eq_of_forall₂ (forall₂_subtree hd) ?_
  rintro _ d ⟨i, -, rfl⟩
  exact misplacedExclusion?_entry exclusion

theorem nestedTypes_ofDeclaration
    (hids : List.Forall₂ (fun id d => n.listing[id]? = some d) ids ds)
    (hcount : countAll ds ≤ n.count) :
    (ofDeclaration n).nestedTypes ids = Declaration.nestedTypes ds := by
  refine filterMap_eq_of_forall₂ (forall₂_visit ?_ hids hcount none) ?_
  · rintro parent _ d ⟨i, -, rfl⟩
    exact nestedName?_entry parent
  · rintro ⟨parent, entry⟩ ⟨parent', d⟩ ⟨hparent, i, -, hentry⟩
    simp only at hparent hentry
    subst hparent hentry
    exact nestedName?_entry parent

/-- The union of an enum of actions is read off the enum. -/
theorem ofMembers_ofDeclaration (names : Conventions)
    (hids : List.Forall₂ (fun id d => n.listing[id]? = some d) ids d.members)
    (hcount : d.count ≤ n.count) :
    ActionUnion.ofMembers (ofDeclaration n) names.actionType ids names.exclusion
      = d.actionUnion names := by
  have hcases : ((ofDeclaration n).lookup ids).filterMap (·.actionCase? names.exclusion)
      = d.caseMembers.map (CaseMember.actionCase names.exclusion) := by
    rw [Declaration.caseMembers, List.map_filterMap]
    refine filterMap_eq_of_forall₂ (forall₂_lookup hids) ?_
    rintro _ d ⟨i, -, rfl⟩
    exact actionCase?_entry names.exclusion
  have hnested : (ofDeclaration n).nestedTypes ids = Declaration.nestedTypes d.members := by
    refine nestedTypes_ofDeclaration hids ?_
    rw [count_eq] at hcount
    omega
  rw [ActionUnion.ofMembers, hcases, hnested, actionUnion]

end Arena

/-! ## The search for the enum of actions -/

variable {entries : List Entry} {actionType : String} {anchor : Span}

theorem missingActionSpan_of_forall₂ (h : List.Forall₂ n.Lists entries ds) :
    missingActionSpan entries actionType anchor
      = ((ds.find? (mentions actionType)).map (·.site.span)).getD anchor := by
  have hfind : (entries.find? fun entry =>
      occursIn (" " ++ actionType ++ " ").toList entry.site.text.toList).map (·.site.span)
        = (ds.find? (mentions actionType)).map (·.site.span) := by
    induction h with
    | nil => rfl
    | cons hfirst _ ih =>
      obtain ⟨i, -, rfl⟩ := hfirst
      rw [List.find?_cons, List.find?_cons, site_entry, mentions]
      split
      · simp
      · exact ih
  rw [missingActionSpan, ← hfind]
  split
  case h_1 entry heq => rw [heq, Option.map_some, Option.getD_some]
  case h_2 heq => rw [heq, Option.map_none, Option.getD_none]

/-- Entries and declarations have the same enums of actions among them. -/
theorem forall₂_actionEnum? (h : List.Forall₂ n.Lists entries ds) (actionType : String) :
    List.Forall₂ (fun found d => n.Lists found.1 d ∧ found.1.actionEnum? actionType = some found.2)
      (entries.filterMap fun entry => (entry.actionEnum? actionType).map (entry, ·))
      (ds.filter (isAction actionType)) := by
  induction h with
  | nil => exact List.Forall₂.nil
  | @cons entry d entries ds hfirst _ ih =>
    have hsome : (entry.actionEnum? actionType).isSome = d.isAction actionType := by
      obtain ⟨i, -, rfl⟩ := hfirst
      exact isSome_actionEnum?_entry actionType
    rw [List.filterMap_cons, List.filter_cons]
    rcases hfound : entry.actionEnum? actionType with - | found
    · rw [hfound] at hsome
      simpa [← hsome] using ih
    · rw [hfound] at hsome
      simpa [← hsome] using ⟨⟨hfirst, hfound⟩, ih⟩

/-- An enum of actions that is found is one whose members can be looked
up. -/
theorem exists_of_actionEnum? {entry : Entry} {found : Aggregate × List DeclId}
    (h : n.Lists entry d) (hfound : entry.actionEnum? actionType = some found) :
    found.1.name = actionType ∧ d.count ≤ n.count ∧
      List.Forall₂ (fun id d => n.listing[id]? = some d) found.2 d.members := by
  obtain ⟨hkind, -, hname⟩ := Entry.actionEnum?_eq_some.1 hfound
  obtain ⟨i, hd, rfl⟩ := h
  refine ⟨hname, count_le_of_getElem?_listing hd, ?_⟩
  have hids : found.2 = (d.entry i (n.memberStart i)).members := by
    rw [Entry.members, hkind]
  rw [hids, members_entry]
  exact forall₂_members hd

/-- **The search** for the enum of actions among entries fails as it does
among the declarations, and finds what it finds there. -/
theorem findAction_of_forall₂ (h : List.Forall₂ n.Lists entries ds) (actionType : String)
    (anchor : Span) :
    (∃ diagnostic, onlyAction actionType anchor ds = .error diagnostic ∧
      findAction entries actionType anchor = .error diagnostic) ∨
    ∃ action entry found, onlyAction actionType anchor ds = .ok action ∧
      findAction entries actionType anchor = .ok found ∧ n.Lists entry action ∧
      entry.actionEnum? actionType = some found := by
  have hactions := forall₂_actionEnum? h actionType
  rw [findAction, onlyAction, missingActionSpan_of_forall₂ h]
  generalize entries.filterMap _ = founds at hactions ⊢
  generalize ds.filter _ = actions at hactions ⊢
  cases hactions with
  | nil => exact Or.inl ⟨_, rfl, rfl⟩
  | @cons found action _ _ hfound hlater =>
    cases hlater with
    | nil => exact Or.inr ⟨action, found.1, found.2, rfl, rfl, hfound⟩
    | cons hsecond _ =>
      obtain ⟨i, -, hentry⟩ := hsecond.1
      exact Or.inl ⟨_, rfl, by simp [hentry]⟩

/-! ## The pass -/

/-- What becomes of the actions of a reducer. -/
def Reducer.generated (reducer : Reducer) (settings : Settings) (union : ActionUnion) :
    Except Diagnostic Generated :=
  (resolveAll settings union.cases).outcome.map fun resolved =>
    { dispatch := reducer.dispatch settings.conventions resolved
      interface := reducer.interface settings.conventions union resolved }

/-- Of a reducer, only the struct matters for what is made. -/
theorem Reducer.generated_congr {reducer reducer' : Reducer} (h : reducer.host = reducer'.host)
    (settings : Settings) (union : ActionUnion) :
    reducer.generated settings union = reducer'.generated settings union := by
  simp only [generated, Reducer.dispatch, Reducer.interface, interfaceName, name, h]

/-- Whether a pass ends as a survey says. -/
def Survey.Yields (settings : Settings) (outcome : Except Diagnostic Generated) :
    Except Diagnostic Survey → Prop
  | .error diagnostic => outcome = .error diagnostic
  | .ok survey => ∃ reducer : Reducer, reducer.host = survey.host ∧
      outcome = reducer.generated settings survey.union

@[simp]
theorem Survey.yields_error {outcome : Except Diagnostic Generated} {diagnostic : Diagnostic} :
    Survey.Yields settings outcome (.error diagnostic) ↔ outcome = .error diagnostic :=
  Iff.rfl

/-- A survey says it all: two passes of the same survey end alike. -/
theorem Survey.Yields.unique {result : Except Diagnostic Survey}
    {outcome outcome' : Except Diagnostic Generated} (h : Survey.Yields settings outcome result)
    (h' : Survey.Yields settings outcome' result) : outcome = outcome' := by
  rcases result with d | survey
  · exact h.trans h'.symm
  · obtain ⟨reducer, hhost, rfl⟩ := h
    obtain ⟨reducer', hhost', rfl⟩ := h'
    exact Reducer.generated_congr (hhost.trans hhost'.symm) settings survey.union

/-- Whether the checks before any case end as a survey says. -/
def Survey.Prepares (prepared : Except Diagnostic (Reducer × ActionUnion)) :
    Except Diagnostic Survey → Prop
  | .error diagnostic => prepared = .error diagnostic
  | .ok survey => ∃ reducer : Reducer, reducer.host = survey.host ∧
      prepared = .ok (reducer, survey.union)

@[simp]
theorem Survey.prepares_error {prepared : Except Diagnostic (Reducer × ActionUnion)}
    {diagnostic : Diagnostic} :
    Survey.Prepares prepared (.error diagnostic) ↔ prepared = .error diagnostic :=
  Iff.rfl

namespace Target

/-- **How the checks end**, step by step. -/
theorem outcome_prepare (target : Target) (settings : Settings) :
    (target.prepare settings).outcome =
      match target.reducer settings with
      | .error diagnostic => .error diagnostic
      | .ok reducer =>
        match target.arena.misplacedExclusion? target.id settings.conventions.exclusion with
        | some diagnostic => .error diagnostic
        | none => .ok (reducer, ActionUnion.ofMembers target.arena reducer.action.name
            reducer.actionMembers settings.conventions.exclusion) := by
  simp only [prepare, Pass.outcome_bind, Pass.outcome_silent]
  rcases target.reducer settings with d | reducer
  · rfl
  rcases target.arena.misplacedExclusion? target.id settings.conventions.exclusion with - | d
  · rfl
  · rfl

/-- **How a pass ends** once the checks are made. -/
theorem outcome_generation_of_prepare (target : Target) (settings : Settings) :
    (target.generation settings).outcome =
      match (target.prepare settings).outcome with
      | .error diagnostic => .error diagnostic
      | .ok (reducer, union) => reducer.generated settings union := by
  simp only [generation, Pass.outcome_reportingFailure, Pass.outcome_bind, Pass.outcome_report,
    Pass.outcome_pure]
  rcases (target.prepare settings).outcome with d | ⟨reducer, union⟩
  · rfl
  · simp only [Reducer.generated]
    rcases (resolveAll settings union.cases).outcome with d | resolved <;> rfl

/-- And how it ends all in all. -/
theorem outcome_generation (target : Target) (settings : Settings) :
    (target.generation settings).outcome =
      match target.reducer settings with
      | .error diagnostic => .error diagnostic
      | .ok reducer =>
        match target.arena.misplacedExclusion? target.id settings.conventions.exclusion with
        | some diagnostic => .error diagnostic
        | none => reducer.generated settings (ActionUnion.ofMembers target.arena
            reducer.action.name reducer.actionMembers settings.conventions.exclusion) := by
  rw [outcome_generation_of_prepare, outcome_prepare]
  rcases target.reducer settings with d | reducer
  · rfl
  rcases target.arena.misplacedExclusion? target.id settings.conventions.exclusion with - | d
  · rfl
  · rfl

/-- The checks of a struct that counts as a reducer look for the only enum of
actions, then for misplaced attributes. -/
theorem prepares_of_isReducer {entry : Entry} {host : Aggregate} {members : List Declaration}
    (hstruct : (Target.mk (.ofDeclaration n) i anchor).struct = .ok (entry, host, ids))
    (haccepts : settings.isReducer entry host = true)
    (hmembers : List.Forall₂ n.Lists ((Arena.ofDeclaration n).lookup ids) members) :
    Survey.Prepares ((Target.mk (.ofDeclaration n) i anchor).prepare settings).outcome
      (match onlyAction settings.conventions.actionType anchor members with
        | .error diagnostic => .error diagnostic
        | .ok action =>
          match (Arena.ofDeclaration n).misplacedExclusion? i settings.conventions.exclusion with
          | some diagnostic => .error diagnostic
          | none => .ok ⟨host, action.actionUnion settings.conventions⟩) := by
  rw [outcome_prepare, reducer]
  simp only [hstruct, haccepts, if_true]
  rcases findAction_of_forall₂ hmembers settings.conventions.actionType anchor with
    ⟨diagnostic, honly, hfind⟩ | ⟨action, found, ⟨head, actionIds⟩, honly, hfind, hlists, hfound⟩
  · simp only [honly, hfind, Survey.Prepares]
  · obtain ⟨hname, hcount, hids⟩ := exists_of_actionEnum? hlists hfound
    simp only at hname
    simp only [honly, hfind, hname, Arena.ofMembers_ofDeclaration settings.conventions hids hcount]
    rcases (Arena.ofDeclaration n).misplacedExclusion? i _ with - | diagnostic
    · exact ⟨_, rfl, rfl⟩
    · rfl

/-- **The checks end as the survey of the declaration says**, wherever the
declaration is listed. -/
theorem prepares_survey (hd : n.listing[i]? = some d) (anchor : Span) (settings : Settings) :
    Survey.Prepares ((Target.mk (.ofDeclaration n) i anchor).prepare settings).outcome
      (d.survey (settings.isReducer (d.entry i (n.memberStart i))) anchor
        settings.conventions) := by
  have hget : (Arena.ofDeclaration n).get? i = some (d.entry i (n.memberStart i)) := by
    rw [Arena.get?_ofDeclaration, hd, Option.map_some]
  rcases d with ⟨site, host, members⟩ | ⟨site, head⟩ | ⟨site⟩
  · by_cases hkind : host.kind = .structType
    · have hstruct : (Target.mk (.ofDeclaration n) i anchor).struct = .ok
          ((Declaration.aggregate site host members).entry i (n.memberStart i), host,
            List.range' (n.memberStart i) members.length) := by
        simp [struct, hget, entry, Entry.aggregate?, hkind]
      rcases haccepts : settings.isReducer
        ((Declaration.aggregate site host members).entry i (n.memberStart i)) host with - | -
      · simp [outcome_prepare, reducer, hstruct, haccepts, survey, hkind]
      · have hprepares := prepares_of_isReducer hstruct haccepts
          (Arena.forall₂_lookup (forall₂_members hd))
        rw [Arena.misplacedExclusion?_ofDeclaration hd] at hprepares
        simp only [survey, hkind, haccepts, if_true]
        exact hprepares
    · simp [outcome_prepare, reducer, struct, hget, entry, Entry.aggregate?, survey, hkind]
  · simp [outcome_prepare, reducer, struct, hget, entry, Entry.aggregate?, survey]
  · simp [outcome_prepare, reducer, struct, hget, entry, Entry.aggregate?, survey]

/-- **So does the pass**, which makes of the survey what it makes of the
checks. -/
theorem yields_survey (hd : n.listing[i]? = some d) (anchor : Span) (settings : Settings) :
    Survey.Yields settings
      ((Target.mk (.ofDeclaration n) i anchor).generation settings).outcome
      (d.survey (settings.isReducer (d.entry i (n.memberStart i))) anchor
        settings.conventions) := by
  have hprepares := prepares_survey hd anchor settings
  rw [outcome_generation_of_prepare]
  generalize d.survey _ anchor settings.conventions = result at hprepares ⊢
  rcases result with diagnostic | survey
  · rw [Survey.prepares_error] at hprepares
    rw [hprepares]
    rfl
  · obtain ⟨reducer, hhost, hprepared⟩ := hprepares
    rw [hprepared]
    exact ⟨reducer, hhost, rfl⟩

end Target

end ActionRelay
