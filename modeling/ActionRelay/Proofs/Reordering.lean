import ActionRelay.Proofs.Locality
import ActionRelay.Proofs.Places
import Mathlib.Data.List.Perm.Basic
/-!
# Reordering — only the order of the cases matters

The members of aggregates can be put in another order, at any depth. All
numbers change then, and so do the orders in which nested types are found
and misplaced attributes are looked for. A pass makes the same as before, as
long as the cases of the enum of actions stay in their order
(`Target.generation_reordered`).

What a walk meets is followed without its order: everything it meets has a
partner in what the walk of the other declaration meets, and the other way
round. That is enough, since the nested types are only asked whether a name
is among them, and misplaced attributes whether there is any.
-/

namespace ActionRelay

namespace Declaration

/-! ## Declarations in another order -/

/-- Whether the second declaration is the first one with the members of
aggregates, at any depth, in another order. -/
inductive Reordered : Declaration → Declaration → Prop
  | refl (d : Declaration) : Reordered d d
  | aggregate (site : Site) (head : Aggregate) {members moved members' : List Declaration} :
    members.Perm moved → List.Forall₂ Reordered moved members' →
      Reordered (.aggregate site head members) (.aggregate site head members')

/-- Whether two declarations have the same cases, in the same order, in
their only enums of actions. -/
def KeepsCases (actionType : String) (d d' : Declaration) : Prop :=
  ∀ action action', d.members.filter (isAction actionType) = [action] →
    d'.members.filter (isAction actionType) = [action'] → action.caseMembers = action'.caseMembers

section Partners

variable {R : Declaration → Declaration → Prop} {ds ds' : List Declaration}

/-- Where partners have the same name and every member has a partner, the
nested types of the ones are nested types of the others. -/
theorem nestedTypes_subset
    (hmembers : ∀ d d', R d d' → ∀ member ∈ d.members, ∃ member' ∈ d'.members, R member member')
    (hname : ∀ parent d d', R d d' → d.nestedName? parent = d'.nestedName? parent)
    (h : ∀ d ∈ ds, ∃ d' ∈ ds', R d d') : nestedTypes ds ⊆ nestedTypes ds' := by
  intro name hmem
  obtain ⟨⟨parent, d⟩, hmet, hd⟩ := List.mem_filterMap.1 hmem
  -- partners are met below parents of one name
  have hqueue : ∀ x ∈ ds.map ((none : Option String), ·),
      ∃ y ∈ ds'.map ((none : Option String), ·), x.1 = y.1 ∧ R x.2 y.2 := by
    intro x hx
    obtain ⟨d, hd, rfl⟩ := List.mem_map.1 hx
    obtain ⟨d', hd', hpartner⟩ := h d hd
    exact ⟨_, List.mem_map_of_mem hd', rfl, hpartner⟩
  obtain ⟨⟨_, d'⟩, hmet', rfl, hpartner⟩ := exists_mem_walk hmembers hname hqueue _ hmet
  exact List.mem_filterMap.2 ⟨_, hmet', (hname parent d d' hpartner).symm.trans hd⟩

end Partners

theorem fault_of_findSome? {ds : List Declaration} {exclusion : String} {e : Diagnostic}
    (h : ds.findSome? (misplacedExclusion? exclusion) = some e) :
    e.fault = .misplacedExclusion := by
  obtain ⟨d, -, hd⟩ := List.exists_of_findSome?_eq_some h
  obtain ⟨mark, -, rfl⟩ := misplacedExclusion?_eq_some.1 hd
  rfl

namespace Reordered

variable {d d' : Declaration}

theorem site_eq (h : Reordered d d') : d.site = d'.site := by
  cases h <;> rfl

theorem isAction_eq (h : Reordered d d') (actionType : String) :
    d.isAction actionType = d'.isAction actionType := by
  cases h <;> rfl

theorem nestedName?_eq (h : Reordered d d') (parent : Option String) :
    d.nestedName? parent = d'.nestedName? parent := by
  cases h <;> rfl

theorem misplacedExclusion?_eq (h : Reordered d d') (exclusion : String) :
    d.misplacedExclusion? exclusion = d'.misplacedExclusion? exclusion := by
  cases h <;> rfl

theorem exists_moved (h : Reordered d d') :
    ∃ moved, d.members.Perm moved ∧ List.Forall₂ Reordered moved d'.members := by
  cases h with
  | refl => exact ⟨d.members, .refl _, List.forall₂_same.2 fun member _ => .refl member⟩
  | aggregate site head hperm hmoved => exact ⟨_, hperm, hmoved⟩

/-! ## Partners -/

/-- A member has a partner in the other declaration. -/
theorem exists_mem_members (h : Reordered d d') :
    ∀ member ∈ d.members, ∃ member' ∈ d'.members, Reordered member member' := by
  intro member hmember
  obtain ⟨moved, hperm, hmoved⟩ := h.exists_moved
  exact exists_mem_of_forall₂ hmoved member (hperm.mem_iff.1 hmember)

/-- And the other way round. -/
theorem exists_mem_members_flip (h : flip Reordered d d') :
    ∀ member ∈ d.members, ∃ member' ∈ d'.members, flip Reordered member member' := by
  intro member hmember
  obtain ⟨moved, hperm, hmoved⟩ := Reordered.exists_moved h
  obtain ⟨member', hmember', hpartner⟩ := exists_mem_of_forall₂ hmoved.flip member hmember
  exact ⟨member', hperm.mem_iff.2 hmember', hpartner⟩

/-- **The nested types** are the same, in some order. -/
theorem mem_nestedTypes (h : Reordered d d') (name : String) :
    name ∈ nestedTypes d.members ↔ name ∈ nestedTypes d'.members := by
  constructor
  · apply nestedTypes_subset (fun _ _ => exists_mem_members)
      (fun parent _ _ hd => nestedName?_eq hd parent) h.exists_mem_members
  · apply nestedTypes_subset (fun _ _ => exists_mem_members_flip)
      (fun parent _ _ hd => (nestedName?_eq hd parent).symm) (exists_mem_members_flip h)

/-- An attribute is misplaced in both or in none. -/
theorem findSome?_listing_eq_none (h : Reordered d d') (exclusion : String) :
    d.listing.findSome? (misplacedExclusion? exclusion) = none ↔
      d'.listing.findSome? (misplacedExclusion? exclusion) = none := by
  rw [List.findSome?_eq_none_iff, List.findSome?_eq_none_iff]
  constructor
  · intro hnone x hx
    obtain ⟨y, hy, hxy⟩ := exists_mem_listing (fun _ _ => exists_mem_members_flip) h x hx
    rw [← misplacedExclusion?_eq hxy, hnone y hy]
  · intro hnone x hx
    obtain ⟨y, hy, hxy⟩ := exists_mem_listing (fun _ _ => exists_mem_members) h x hx
    rw [misplacedExclusion?_eq hxy, hnone y hy]

/-- It need not be the same attribute, but it is the same fault. -/
theorem fault_findSome?_listing (h : Reordered d d') (exclusion : String) :
    (d'.listing.findSome? (misplacedExclusion? exclusion)).map Diagnostic.fault
      = (d.listing.findSome? (misplacedExclusion? exclusion)).map Diagnostic.fault := by
  have hnone := h.findSome?_listing_eq_none exclusion
  rcases he : d.listing.findSome? (misplacedExclusion? exclusion) with - | e
  · rw [hnone.1 he]
  rcases he' : d'.listing.findSome? (misplacedExclusion? exclusion) with - | e'
  · rw [hnone.2 he'] at he
    cases he
  · rw [Option.map_some, Option.map_some, fault_of_findSome? he, fault_of_findSome? he']

/-! ## The survey -/

/-- The enums of actions are the same, in some order. -/
theorem filter_isAction (h : Reordered d d') (actionType : String) :
    ∃ moved, (d.members.filter (isAction actionType)).Perm moved ∧
      List.Forall₂ Reordered moved (d'.members.filter (isAction actionType)) := by
  obtain ⟨moved, hperm, hmoved⟩ := h.exists_moved
  refine ⟨moved.filter (isAction actionType), hperm.filter _, List.rel_filter ?_ hmoved⟩
  intro member member' hmember
  simp only [hmember.isAction_eq]

/-- The only enum of actions is found in both or missed in both. -/
theorem onlyAction_endsAlike (h : Reordered d d') (actionType : String) (anchor : Span) :
    EndsAlike (fun action action' => d.members.filter (isAction actionType) = [action] ∧
        d'.members.filter (isAction actionType) = [action'] ∧ Reordered action action')
      (onlyAction actionType anchor d.members) (onlyAction actionType anchor d'.members) := by
  obtain ⟨moved, hperm, hmoved⟩ := h.filter_isAction actionType
  rw [onlyAction, onlyAction]
  generalize d.members.filter (isAction actionType) = actions at hperm ⊢
  generalize d'.members.filter (isAction actionType) = actions' at hmoved ⊢
  -- no enum, one, or more: a permutation keeps how many there are
  rcases hmoved with - | ⟨hfirst, - | ⟨hsecond, hlater⟩⟩
  · rw [hperm.eq_nil]
    exact .error rfl
  · rw [hperm.eq_singleton]
    exact .ok ⟨rfl, rfl, hfirst⟩
  · have hlen := hperm.length_eq
    rcases actions with - | ⟨first, - | ⟨second, later⟩⟩
    · simp at hlen
    · simp at hlen
    · exact .error rfl

end Reordered

end Declaration

/-- **Two surveys that found the same**, up to the order of the nested
types. -/
structure Survey.Alike (survey survey' : Survey) : Prop where
  host_eq : survey.host = survey'.host
  name_eq : survey.union.name = survey'.union.name
  cases_eq : survey.union.cases = survey'.union.cases
  mem_nested : ∀ name, name ∈ survey.union.nested ↔ name ∈ survey'.union.nested

theorem Survey.Alike.of_refl (survey : Survey) : survey.Alike survey :=
  ⟨rfl, rfl, rfl, fun _ => Iff.rfl⟩

/-- **The survey of a reordered declaration** finds the same where the cases
keep their order. -/
theorem Declaration.Reordered.survey_endsAlike {d d' : Declaration} (h : Reordered d d')
    (names : Conventions) (hcases : KeepsCases names.actionType d d')
    (accepts : Aggregate → Bool) (anchor : Span) :
    EndsAlike Survey.Alike (d.survey accepts anchor names) (d'.survey accepts anchor names) := by
  have honly := h.onlyAction_endsAlike names.actionType anchor
  have hmisplaced := h.fault_findSome?_listing names.exclusion
  cases h with
  | refl => exact .of_refl Survey.Alike.of_refl _
  | aggregate site host hperm hmoved =>
    refine Declaration.survey_endsAlike rfl rfl honly hmisplaced ?_
    rintro action action' ⟨hfilter, hfilter', haction⟩
    -- the cases are the same by assumption, the nested types only as a set
    refine ⟨rfl, rfl, ?_, haction.mem_nestedTypes⟩
    rw [Declaration.actionUnion, Declaration.actionUnion, hcases action action' hfilter hfilter']

/-! ## Generation -/

section Qualification

variable {nested nested' : List String}

mutual

/-- Of the nested names, qualification only asks which ones they are. -/
theorem TypeExpr.qualify_congr (h : ∀ name, name ∈ nested ↔ name ∈ nested') (space : String) :
    (t : TypeExpr) → t.qualify nested space = t.qualify nested' space
  | .named segments => by
    simp only [TypeExpr.qualify, TypeExpr.qualifySegments_congr h space segments, h]
  | .tuple elements => by
    rw [TypeExpr.qualify, TypeExpr.qualify, TypeExpr.qualifyAll_congr h space elements]
  | .optional wrapped => by
    rw [TypeExpr.qualify, TypeExpr.qualify, TypeExpr.qualify_congr h space wrapped]
  | .array element => by
    rw [TypeExpr.qualify, TypeExpr.qualify, TypeExpr.qualify_congr h space element]
  | .dictionary key value => by
    rw [TypeExpr.qualify, TypeExpr.qualify, TypeExpr.qualify_congr h space key,
      TypeExpr.qualify_congr h space value]
  | .verbatim text => by rw [TypeExpr.qualify, TypeExpr.qualify]

theorem Segment.qualify_congr (h : ∀ name, name ∈ nested ↔ name ∈ nested') (space : String) :
    (s : Segment) → s.qualify nested space = s.qualify nested' space
  | ⟨name, arguments⟩ => by
    rw [Segment.qualify, Segment.qualify, TypeExpr.qualifyAll_congr h space arguments]

theorem TypeExpr.qualifyAll_congr (h : ∀ name, name ∈ nested ↔ name ∈ nested') (space : String) :
    (ts : List TypeExpr) →
      TypeExpr.qualifyAll nested space ts = TypeExpr.qualifyAll nested' space ts
  | [] => rfl
  | t :: ts => by
    rw [TypeExpr.qualifyAll, TypeExpr.qualifyAll, TypeExpr.qualify_congr h space t,
      TypeExpr.qualifyAll_congr h space ts]

theorem TypeExpr.qualifySegments_congr (h : ∀ name, name ∈ nested ↔ name ∈ nested')
    (space : String) :
    (ss : List Segment) →
      TypeExpr.qualifySegments nested space ss = TypeExpr.qualifySegments nested' space ss
  | [] => rfl
  | s :: ss => by
    rw [TypeExpr.qualifySegments, TypeExpr.qualifySegments, Segment.qualify_congr h space s,
      TypeExpr.qualifySegments_congr h space ss]

end

end Qualification

theorem Survey.Alike.parameter_eq {survey survey' : Survey} (h : survey.Alike survey') :
    ResolvedCase.parameter survey.union = ResolvedCase.parameter survey'.union := by
  funext slot name
  rw [ResolvedCase.parameter, ResolvedCase.parameter, h.name_eq,
    TypeExpr.qualify_congr h.mem_nested]

/-- **What is made** of surveys that found the same is the same. -/
theorem Survey.Alike.generated_eq {survey survey' : Survey} (h : survey.Alike survey')
    {reducer reducer' : Reducer} (hhost : reducer.host = survey.host)
    (hhost' : reducer'.host = survey'.host) (settings : Settings) :
    reducer.generated settings survey.union = reducer'.generated settings survey'.union := by
  -- the union is only looked at for the types of parameters
  have hsignature : ResolvedCase.signature? settings.conventions survey.union
      = ResolvedCase.signature? settings.conventions survey'.union := by
    funext r
    cases r with
    | skipped action => rfl
    | forwarded action bindings => simp only [ResolvedCase.signature?, h.parameter_eq]
  rw [Reducer.generated_congr (hhost.trans (h.host_eq.trans hhost'.symm))]
  simp only [Reducer.generated, Reducer.interface, h.cases_eq, h.name_eq, hsignature]

/-- **The order of what is not a case never matters**: a declaration whose
members are put in another order, at any depth, gives the same, provided
that the cases of its enum of actions keep their order and structs count as
reducers by the default rule. -/
theorem Target.generation_reordered {n n' : Declaration} (h : n.Reordered n')
    {settings : Settings} (hcases : n.KeepsCases settings.conventions.actionType n')
    {capability : String} (hdefault : settings.isReducer = conformsTo capability)
    (anchor : Span) (generated : Generated) :
    ((Target.mk (.ofDeclaration n) Arena.root anchor).generation settings).outcome
        = .ok generated ↔
      ((Target.mk (.ofDeclaration n') Arena.root anchor).generation settings).outcome
        = .ok generated := by
  have haccepts : settings.isReducer (n'.entry 0 (n'.memberStart 0))
      = settings.isReducer (n.entry 0 (n.memberStart 0)) := by
    funext head
    rw [hdefault]
    refine conformsTo_congr ?_ capability head
    rw [Declaration.site_entry, Declaration.site_entry, h.site_eq]
  have hyields := yields_survey n.getElem?_listing_zero anchor settings
  have hyields' := yields_survey n'.getElem?_listing_zero anchor settings
  rw [haccepts] at hyields'
  refine (hyields.endsAlike hyields' (h.survey_endsAlike _ hcases _ anchor) ?_).eq_ok_iff generated
  intro survey survey' hsurvey reducer reducer' hhost hhost'
  rw [hsurvey.generated_eq hhost hhost']
  exact .of_refl (fun _ => rfl) _

/-- A type that is declared among actions. -/
def bookDeclaration : Declaration :=
  .aggregate {} { kind := .structType, name := "Book" } [.other {}]

/-- An action with a value of that type, and one without. -/
def shelfCases : List Declaration :=
  [.enumCase {} { name := "put", slots := [{ type := .plain ["Book"] }] },
    .enumCase {} { name := "clear" }]

/-- An enum of actions. -/
def shelfAction (members : List Declaration) : Declaration :=
  .aggregate {} { kind := .enumType, name := "Action" } members

/-- A reducer with a property after its actions, and a type after their
cases. -/
def shelfDeclaration : Declaration :=
  .aggregate {} { kind := .structType, name := "Shelf", inherited := [.plain ["Reducer"]] }
    [shelfAction (shelfCases ++ [bookDeclaration]), .other {}]

/-- The same reducer with the property and the type first. -/
def shelfDeclarationReordered : Declaration :=
  .aggregate {} { kind := .structType, name := "Shelf", inherited := [.plain ["Reducer"]] }
    [.other {}, shelfAction ([bookDeclaration] ++ shelfCases)]

theorem reordered_shelfDeclaration : shelfDeclaration.Reordered shelfDeclarationReordered := by
  refine .aggregate _ _ (List.Perm.swap _ _ _) (.cons (.refl _) (.cons ?_ .nil))
  exact .aggregate _ _ List.perm_append_comm (List.forall₂_same.2 fun member _ => .refl member)

theorem keepsCases_shelfDeclaration :
    shelfDeclaration.KeepsCases "Action" shelfDeclarationReordered := by
  intro action action' h h'
  obtain rfl : shelfAction (shelfCases ++ [bookDeclaration]) = action := List.head_eq_of_cons_eq h
  obtain rfl : shelfAction ([bookDeclaration] ++ shelfCases) = action' :=
    List.head_eq_of_cons_eq h'
  rfl

/-- The type is qualified, whether it comes after the cases or before. -/
theorem shelf_generation_reordered : ∃ generated : Generated,
    ((Target.mk (.ofDeclaration shelfDeclaration) Arena.root {}).generation
      (.ofConventions {})).outcome = .ok generated ∧
    ((Target.mk (.ofDeclaration shelfDeclarationReordered) Arena.root {}).generation
      (.ofConventions {})).outcome = .ok generated ∧
    generated.interface.methods.map (·.parameters.map Parameter.type)
      = [[.plain ["Action", "Book"]], []] := by
  have htypes : ((Target.mk (.ofDeclaration shelfDeclaration) Arena.root {}).generation
      (.ofConventions {})).outcome.map (·.interface.methods.map (·.parameters.map Parameter.type))
        = .ok [[.plain ["Action", "Book"]], []] := by cbv
  rcases hok : ((Target.mk (.ofDeclaration shelfDeclaration) Arena.root {}).generation
    (.ofConventions {})).outcome with e | generated
  · rw [hok] at htypes
    cases htypes
  · rw [hok] at htypes
    have hreordered := (Target.generation_reordered reordered_shelfDeclaration
      keepsCases_shelfDeclaration rfl {} generated).1 hok
    exact ⟨generated, rfl, hreordered, Except.ok.inj htypes⟩

end ActionRelay
