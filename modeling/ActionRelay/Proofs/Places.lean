import ActionRelay.Expansion
import ActionRelay.Proofs.FirstFault
/-!
# Places and texts — they never decide anything

Spans and source texts travel with a declaration through a whole pass, and
a text is even searched, for the place of a missing enum of actions. None of
this shows in what is made: an expansion is the same for two declarations
that differ in spans and texts only, up to the places of its diagnostics
(`Target.expansion_ignoresPlaces`).

Both declarations become one when their places and texts are left out
(`Declaration.unplaced`). So each function on the way is compared with
itself on what is left then: it gives the same but for places.
-/

namespace ActionRelay

/-! ## What is left without places and texts -/

/-- The attribute without its span. -/
def Attribute.unplaced (a : Attribute) : Attribute :=
  { a with span := {} }

/-- The attributes of a site, without their spans. -/
def Site.unplaced (site : Site) : Site :=
  { attributes := site.attributes.map Attribute.unplaced }

/-- The payload without its span. -/
def Slot.unplaced (slot : Slot) : Slot :=
  { slot with span := {} }

/-- The aggregate without the span of its name. -/
def Aggregate.unplaced (head : Aggregate) : Aggregate :=
  { head with nameSpan := {} }

/-- The case with payloads without spans. -/
def EnumCase.unplaced (head : EnumCase) : EnumCase :=
  { head with slots := head.slots.map Slot.unplaced }

mutual

/-- **A declaration without any place or text.** -/
def Declaration.unplaced : Declaration → Declaration
  | .aggregate site head members =>
    .aggregate site.unplaced head.unplaced (Declaration.unplacedAll members)
  | .enumCase site head => .enumCase site.unplaced head.unplaced
  | .other site => .other site.unplaced

/-- Several declarations without any place or text. -/
def Declaration.unplacedAll : List Declaration → List Declaration
  | [] => []
  | d :: ds => d.unplaced :: Declaration.unplacedAll ds

end

/-- The entry without any place or text, its numbers kept. -/
def Entry.unplaced (entry : Entry) : Entry where
  id := entry.id
  site := entry.site.unplaced
  kind :=
    match entry.kind with
    | .aggregate head members => .aggregate head.unplaced members
    | .enumCase head => .enumCase head.unplaced
    | .other => .other

/-- Whether a rule for reducers tells no structs apart that differ in places
and texts only. -/
def IgnoresPlaces (isReducer : Entry → Aggregate → Bool) : Prop :=
  ∀ (entry entry' : Entry) (head head' : Aggregate), entry.unplaced = entry'.unplaced →
    head.unplaced = head'.unplaced → isReducer entry head = isReducer entry' head'

/-- The case of a union, without places. -/
def ActionCase.unplaced (action : ActionCase) : ActionCase :=
  { action with slots := action.slots.map Slot.unplaced, span := {} }

/-- The union with cases without places. -/
def ActionUnion.unplaced (union : ActionUnion) : ActionUnion :=
  { union with cases := union.cases.map ActionCase.unplaced }

/-- The survey without places. -/
def Survey.unplaced (survey : Survey) : Survey where
  host := survey.host.unplaced
  union := survey.union.unplaced

/-- The resolved case without places. -/
def ResolvedCase.unplaced : ResolvedCase → ResolvedCase
  | skipped action => skipped action.unplaced
  | forwarded action names => forwarded action.unplaced names

/-- **Two ends of a pass that differ in places only**: both fail with one
fault, or both give values that `R` relates. -/
inductive EndsAlike {α β : Type} (R : α → β → Prop) :
    Except Diagnostic α → Except Diagnostic β → Prop
  | error {d d' : Diagnostic} : d.fault = d'.fault → EndsAlike R (.error d) (.error d')
  | ok {a : α} {b : β} : R a b → EndsAlike R (.ok a) (.ok b)

namespace EndsAlike

variable {α β γ δ : Type} {R : α → β → Prop} {S : γ → δ → Prop}

theorem map {outcome : Except Diagnostic α} {outcome' : Except Diagnostic β} {f : α → γ}
    {g : β → δ} (h : EndsAlike R outcome outcome') (hfg : ∀ a b, R a b → S (f a) (g b)) :
    EndsAlike S (outcome.map f) (outcome'.map g) := by
  cases h with
  | error hfault => exact .error hfault
  | ok hab => exact .ok (hfg _ _ hab)

/-- Two steps end alike if the first ones do, and the second ones do with
values that are related. -/
theorem bind {first : Pass α} {first' : Pass β} {next : α → Pass γ} {next' : β → Pass δ}
    (h : EndsAlike R first.outcome first'.outcome)
    (hnext : ∀ a b, R a b → EndsAlike S (next a).outcome (next' b).outcome) :
    EndsAlike S (first >>= next).outcome (first' >>= next').outcome := by
  rw [Pass.outcome_bind, Pass.outcome_bind]
  generalize first.outcome = outcome at h ⊢
  generalize first'.outcome = outcome' at h ⊢
  cases h with
  | error hfault => exact .error hfault
  | ok hab => exact hnext _ _ hab

theorem of_refl {R : α → α → Prop} (hR : ∀ a, R a a) (outcome : Except Diagnostic α) :
    EndsAlike R outcome outcome := by
  cases outcome with
  | error d => exact .error rfl
  | ok a => exact .ok (hR a)

/-- Ends that are alike have the same value, if any. -/
theorem eq_ok_iff {outcome outcome' : Except Diagnostic α} (h : EndsAlike Eq outcome outcome')
    (a : α) : outcome = .ok a ↔ outcome' = .ok a := by
  cases h with
  | error hfault => simp
  | ok hab => rw [hab]

/-- Ends that are like a third one are alike. -/
theorem of_common {outcome outcome' common : Except Diagnostic α}
    (h : EndsAlike Eq outcome common) (h' : EndsAlike Eq outcome' common) :
    EndsAlike Eq outcome outcome' := by
  cases h with
  | error hfault =>
    cases h' with
    | error hfault' => exact .error (hfault.trans hfault'.symm)
  | ok hab =>
    cases h' with
    | ok hab' => exact .ok (hab.trans hab'.symm)

end EndsAlike

/-! ## Reading a declaration -/

theorem Site.attribute?_unplaced (site : Site) (name : String) :
    site.unplaced.attribute? name = (site.attribute? name).map Attribute.unplaced := by
  rw [attribute?, unplaced, List.find?_map]
  rfl

theorem Entry.unplaced_unplaced (entry : Entry) : entry.unplaced.unplaced = entry.unplaced := by
  have hsite : ∀ site : Site, site.unplaced.unplaced = site.unplaced := by
    intro site
    simp [Site.unplaced, Attribute.unplaced]
  have hslots : ∀ slots : List Slot, (slots.map Slot.unplaced).map Slot.unplaced
      = slots.map Slot.unplaced := by
    intro slots
    simp [Slot.unplaced]
  obtain ⟨id, site, ⟨head, members⟩ | head | -⟩ := entry
  · simp [Entry.unplaced, hsite, Aggregate.unplaced]
  · simp only [Entry.unplaced, hsite, EnumCase.unplaced, hslots]
  · simp [Entry.unplaced, hsite]

theorem ignoresPlaces_conformsTo (capability : String) : IgnoresPlaces (conformsTo capability) := by
  intro entry entry' head head' hentry hhead
  have hinherited : head.unplaced.inherited = head'.unplaced.inherited := by rw [hhead]
  have hattribute : (entry.site.attribute? capability).isSome
      = (entry'.site.attribute? capability).isSome := by
    have hsite := congrArg (fun e : Entry => (e.site.attribute? capability).isSome) hentry
    simpa only [Entry.unplaced, Site.attribute?_unplaced, Option.isSome_map] using hsite
  simp only [Aggregate.unplaced] at hinherited
  rw [conformsTo, conformsTo, hinherited, hattribute]

namespace Declaration

theorem unplacedAll_eq_map (ds : List Declaration) : unplacedAll ds = ds.map unplaced := by
  induction ds with
  | nil => rfl
  | cons d ds ih => rw [unplacedAll, ih, List.map_cons]

variable {d : Declaration}

theorem members_unplaced (d : Declaration) : d.unplaced.members = d.members.map unplaced := by
  cases d with
  | aggregate site head members => rw [unplaced, Declaration.members, unplacedAll_eq_map]; rfl
  | enumCase site head => rw [unplaced]; rfl
  | other site => rw [unplaced]; rfl

theorem isAction_unplaced (actionType : String) (d : Declaration) :
    d.unplaced.isAction actionType = d.isAction actionType := by
  cases d <;> rw [unplaced] <;> rfl

theorem nestedName?_unplaced (parent : Option String) (d : Declaration) :
    d.unplaced.nestedName? parent = d.nestedName? parent := by
  cases d <;> rw [unplaced] <;> rfl

theorem entry_unplaced (d : Declaration) (id next : DeclId) :
    d.unplaced.entry id next = (d.entry id next).unplaced := by
  cases d with
  | aggregate site head members => simp [unplaced, unplacedAll_eq_map, entry, Entry.unplaced]
  | enumCase site head => rw [unplaced]; rfl
  | other site => rw [unplaced]; rfl

/-- A misplaced attribute is one, wherever it is. -/
theorem misplacedExclusion?_unplaced (exclusion : String) (d : Declaration) :
    (d.unplaced.misplacedExclusion? exclusion).map Diagnostic.fault
      = (d.misplacedExclusion? exclusion).map Diagnostic.fault := by
  cases d <;>
    simp [unplaced, misplacedExclusion?, isCase, Declaration.site, Site.attribute?_unplaced,
      Function.comp_def]

theorem breadthFirst_map_unplaced (queue : List Declaration) :
    breadthFirst (queue.map unplaced) = (breadthFirst queue).map unplaced := by
  fun_induction breadthFirst queue with
  | case1 => simp [breadthFirst]
  | case2 d queue ih =>
    rw [List.map_cons, breadthFirst, members_unplaced, ← List.map_append, ih, List.map_cons]

theorem listing_unplaced (n : Declaration) : n.unplaced.listing = n.listing.map unplaced :=
  breadthFirst_map_unplaced [n]

theorem memberStart_unplaced (n : Declaration) (i : ℕ) :
    n.unplaced.memberStart i = n.memberStart i := by
  simp only [memberStart, listing_unplaced, ← List.map_take, List.flatMap_map, members_unplaced,
    List.length_flatMap, List.length_map]

theorem nestedTypes_unplaced (ds : List Declaration) :
    nestedTypes (ds.map unplaced) = nestedTypes ds := by
  have hsame : ∀ ds : List Declaration, List.Forall₂ (fun d' d => d' = d.unplaced)
      (ds.map unplaced) ds := by
    intro ds
    rw [List.forall₂_map_left_iff]
    exact List.forall₂_same.2 fun _ _ => rfl
  refine nestedTypes_eq_of_forall₂ ?_ ?_ (hsame ds)
  · rintro _ d rfl
    rw [members_unplaced]
    exact hsame d.members
  · rintro parent _ d rfl
    exact nestedName?_unplaced parent d

/-! ## Surveys -/

theorem actionCase_unplaced (exclusion : String) (site : Site) (head : EnumCase) :
    CaseMember.actionCase exclusion ⟨site.unplaced, head.unplaced⟩
      = (CaseMember.actionCase exclusion ⟨site, head⟩).unplaced := by
  have hexcluded : (site.unplaced.attribute? exclusion).isSome
      = (site.attribute? exclusion).isSome := by
    rw [Site.attribute?_unplaced, Option.isSome_map]
  rw [CaseMember.actionCase, hexcluded]
  rfl

theorem actionUnion_unplaced (names : Conventions) (action : Declaration) :
    action.unplaced.actionUnion names = (action.actionUnion names).unplaced := by
  have hcase : ∀ d : Declaration,
      d.unplaced.caseMember?.map (CaseMember.actionCase names.exclusion)
        = (d.caseMember?.map (CaseMember.actionCase names.exclusion)).map ActionCase.unplaced := by
    intro d
    cases d with
    | aggregate site head members => rw [unplaced]; rfl
    | enumCase site head =>
      rw [unplaced, caseMember?, Option.map_some, actionCase_unplaced]
      rfl
    | other site => rw [unplaced]; rfl
  have hcases : action.unplaced.caseMembers.map (CaseMember.actionCase names.exclusion)
      = (action.caseMembers.map (CaseMember.actionCase names.exclusion)).map
          ActionCase.unplaced := by
    rw [caseMembers, caseMembers, members_unplaced, List.filterMap_map, List.map_filterMap,
      List.map_filterMap, List.map_filterMap]
    exact List.filterMap_congr fun d _ => hcase d
  rw [actionUnion, hcases, members_unplaced, nestedTypes_unplaced]
  rfl

/-- The enum of actions is found or missed alike; only the place of the
fault depends on places and texts. -/
theorem onlyAction_unplaced (actionType : String) (anchor anchor' : Span)
    (members : List Declaration) :
    EndsAlike (fun action action' => action' = action.unplaced)
      (onlyAction actionType anchor members)
      (onlyAction actionType anchor' (members.map unplaced)) := by
  have hfilter : (members.map unplaced).filter (isAction actionType)
      = (members.filter (isAction actionType)).map unplaced := by
    rw [List.filter_map]
    congr 2
    funext d
    exact isAction_unplaced actionType d
  rw [onlyAction, onlyAction, hfilter]
  rcases members.filter (isAction actionType) with - | ⟨first, - | ⟨second, later⟩⟩
  · exact .error rfl
  · exact .ok rfl
  · exact .error rfl

/-- Where an attribute is misplaced, one is without places too. -/
theorem findSome?_listing_unplaced (exclusion : String) (n : Declaration) :
    (n.unplaced.listing.findSome? (misplacedExclusion? exclusion)).map Diagnostic.fault
      = (n.listing.findSome? (misplacedExclusion? exclusion)).map Diagnostic.fault := by
  rw [listing_unplaced, List.findSome?_map, List.map_findSome?, List.map_findSome?]
  congr 1
  funext d
  exact misplacedExclusion?_unplaced exclusion d

/-- Surveys of two aggregates end alike where each check on the way does,
and where enums of actions that correspond are unions that do. -/
theorem survey_endsAlike {R : Declaration → Declaration → Prop} {S : Survey → Survey → Prop}
    {accepts accepts' : Aggregate → Bool} {anchor anchor' : Span} {names : Conventions}
    {site site' : Site} {host host' : Aggregate} {members members' : List Declaration}
    (hkind : host'.kind = host.kind) (haccepts : accepts' host' = accepts host)
    (honly : EndsAlike R (onlyAction names.actionType anchor members)
      (onlyAction names.actionType anchor' members'))
    (hmisplaced : ((aggregate site' host' members').listing.findSome?
        (misplacedExclusion? names.exclusion)).map Diagnostic.fault
      = ((aggregate site host members).listing.findSome?
        (misplacedExclusion? names.exclusion)).map Diagnostic.fault)
    (hunion : ∀ action action', R action action' →
      S ⟨host, action.actionUnion names⟩ ⟨host', action'.actionUnion names⟩) :
    EndsAlike S ((aggregate site host members).survey accepts anchor names)
      ((aggregate site' host' members').survey accepts' anchor' names) := by
  simp only [survey, haccepts, hkind]
  split_ifs
  · generalize onlyAction names.actionType anchor members = found at honly ⊢
    generalize onlyAction names.actionType anchor' members' = found' at honly ⊢
    cases honly with
    | error hfault => exact .error hfault
    | @ok action action' haction =>
      -- no attribute is misplaced, or one is in both
      generalize List.findSome? _ (aggregate site host members).listing = e at hmisplaced ⊢
      generalize List.findSome? _ (aggregate site' host' members').listing = e' at hmisplaced ⊢
      rcases e with - | e <;> rcases e' with - | e' <;>
        simp only [Option.map_some, Option.map_none, reduceCtorEq, Option.some.injEq]
          at hmisplaced
      · exact .ok (hunion action action' haction)
      · exact .error hmisplaced.symm
  · exact .error rfl
  · exact .error rfl

/-- **The survey of a declaration** finds the same without places and texts,
where the rule for reducers does not need them. -/
theorem survey_unplaced {accepts accepts' : Aggregate → Bool}
    (haccepts : ∀ head, accepts' head.unplaced = accepts head) (anchor anchor' : Span)
    (names : Conventions) (n : Declaration) :
    EndsAlike (fun survey survey' => survey' = survey.unplaced)
      (n.survey accepts anchor names) (n.unplaced.survey accepts' anchor' names) := by
  rcases n with ⟨site, host, members⟩ | ⟨site, head⟩ | ⟨site⟩
  · have hmisplaced := findSome?_listing_unplaced names.exclusion (.aggregate site host members)
    simp only [unplaced, unplacedAll_eq_map] at hmisplaced ⊢
    refine survey_endsAlike rfl (haccepts host)
      (onlyAction_unplaced names.actionType anchor anchor' members) hmisplaced ?_
    rintro action _ rfl
    rw [actionUnion_unplaced]
    rfl
  · exact .error rfl
  · exact .error rfl

end Declaration

/-! ## Resolution -/

section Resolution

variable {naming : Naming} {reserved kept taken : List String}

theorem nameSlots_unplaced (caseName : String) (index : ℕ) (slots : List Slot) :
    EndsAlike Eq (nameSlots caseName naming reserved kept index taken slots)
      (nameSlots caseName naming reserved kept index taken (slots.map Slot.unplaced)) := by
  induction slots generalizing index taken with
  | nil => exact .ok rfl
  | cons slot slots ih =>
    -- no name depends on a span; only the place of the fault does
    have hname : slot.unplaced.parameterName? index naming reserved kept taken
        = slot.parameterName? index naming reserved kept taken := rfl
    rw [List.map_cons, nameSlots, nameSlots, hname]
    rcases slot.parameterName? index naming reserved kept taken with - | name
    · exact .error rfl
    · exact (ih (index + 1)).map fun _ _ hnames => congrArg _ hnames

theorem ActionCase.names_unplaced (settings : Settings) (action : ActionCase) :
    EndsAlike Eq (action.names settings) (action.unplaced.names settings) := by
  have hkept : keptNames settings.conventions.reserved (action.slots.map Slot.unplaced)
      = keptNames settings.conventions.reserved action.slots := by
    rw [keptNames, keptNames, List.filterMap_map]
    rfl
  rw [names, names, parameterNames, parameterNames]
  simp only [unplaced, hkept]
  exact nameSlots_unplaced action.name 0 action.slots

/-- **One case** is resolved alike. -/
theorem ActionCase.resolve_unplaced (settings : Settings) (action : ActionCase) :
    EndsAlike (fun r r' => r' = ResolvedCase.unplaced r) (action.resolve settings).outcome
      (action.unplaced.resolve settings).outcome := by
  have hnames := action.names_unplaced settings
  have hexcluded : action.unplaced.excluded = action.excluded := rfl
  rw [outcome_resolve, outcome_resolve, hexcluded]
  split_ifs
  · exact .ok rfl
  generalize action.names settings = result at hnames ⊢
  generalize action.unplaced.names settings = result' at hnames ⊢
  cases hnames with
  | error hfault =>
    -- the case is dropped in both, or both fail with the parameter that lacks a name
    rcases settings.unnamed with - | -
    · exact .error hfault
    · exact .ok rfl
  | ok heq =>
    subst heq
    exact .ok rfl

/-- **All cases** are, in their places. -/
theorem resolveAll_unplaced (settings : Settings) (cases : List ActionCase) :
    EndsAlike (fun rs rs' => rs' = rs.map ResolvedCase.unplaced) (resolveAll settings cases).outcome
      (resolveAll settings (cases.map ActionCase.unplaced)).outcome := by
  induction cases with
  | nil => exact .ok rfl
  | cons action cases ih =>
    rw [List.map_cons, resolveAll, resolveAll]
    refine (action.resolve_unplaced settings).bind fun r r' hr => ih.bind fun rs rs' hrs => .ok ?_
    rw [hr, hrs, List.map_cons]

end Resolution

/-! ## Generation -/

section Generation

variable {reducer reducer' : Reducer}

theorem ResolvedCase.arm_unplaced (names : Conventions) (r : ResolvedCase) :
    r.unplaced.arm names = r.arm names := by
  cases r with
  | skipped action => rfl
  | forwarded action bindings =>
    rw [unplaced, arm, arm, ActionCase.unplaced, List.zipWith_map_left]
    rfl

theorem ResolvedCase.signature?_unplaced (names : Conventions) (union : ActionUnion)
    (r : ResolvedCase) : r.unplaced.signature? names union.unplaced = r.signature? names union := by
  cases r with
  | skipped action => rfl
  | forwarded action bindings =>
    rw [unplaced, signature?, signature?, ActionCase.unplaced, List.zipWith_map_left]
    rfl

/-- The wrapper has no place in it. -/
theorem Reducer.dispatch_unplaced (h : reducer'.host = reducer.host.unplaced)
    (names : Conventions) (resolved : List ResolvedCase) :
    reducer'.dispatch names (resolved.map ResolvedCase.unplaced)
      = reducer.dispatch names resolved := by
  have hname : reducer'.interfaceName names = reducer.interfaceName names := by
    rw [interfaceName, interfaceName, name, name, h]
    rfl
  have hforwarded : (resolved.map ResolvedCase.unplaced).any ResolvedCase.isForwarded
      = resolved.any ResolvedCase.isForwarded := by
    rw [List.any_map]
    congr 1
    funext r
    cases r <;> rfl
  have harms : (resolved.map ResolvedCase.unplaced).map (ResolvedCase.arm names)
      = resolved.map (ResolvedCase.arm names) := by
    rw [List.map_map]
    exact List.map_congr_left fun r _ => r.arm_unplaced names
  rw [dispatch, dispatch, hname, hforwarded, harms]

/-- Nor has the interface. -/
theorem Reducer.interface_unplaced (h : reducer'.host = reducer.host.unplaced)
    (names : Conventions) (union : ActionUnion) (resolved : List ResolvedCase) :
    reducer'.interface names union.unplaced (resolved.map ResolvedCase.unplaced)
      = reducer.interface names union resolved := by
  have hmethods : (resolved.map ResolvedCase.unplaced).filterMap
      (ResolvedCase.signature? names union.unplaced)
        = resolved.filterMap (ResolvedCase.signature? names union) := by
    rw [List.filterMap_map]
    exact List.filterMap_congr fun r _ => r.signature?_unplaced names union
  rw [interface, interface, hmethods]
  simp only [interfaceName, name, h]
  rfl

theorem Reducer.generated_unplaced (h : reducer'.host = reducer.host.unplaced)
    (settings : Settings) (union : ActionUnion) :
    EndsAlike Eq (reducer.generated settings union)
      (reducer'.generated settings union.unplaced) := by
  refine (resolveAll_unplaced settings union.cases).map fun resolved resolved' hresolved => ?_
  rw [hresolved, dispatch_unplaced h, interface_unplaced h]

/-- Passes end alike if their surveys do, where alike surveys are made into
the same. -/
theorem Survey.Yields.endsAlike {settings : Settings} {R : Survey → Survey → Prop}
    {outcome outcome' : Except Diagnostic Generated} {result result' : Except Diagnostic Survey}
    (h : Survey.Yields settings outcome result) (h' : Survey.Yields settings outcome' result')
    (hresult : EndsAlike R result result')
    (hgenerated : ∀ survey survey', R survey survey' → ∀ reducer reducer' : Reducer,
      reducer.host = survey.host → reducer'.host = survey'.host →
        EndsAlike Eq (reducer.generated settings survey.union)
          (reducer'.generated settings survey'.union)) :
    EndsAlike Eq outcome outcome' := by
  cases hresult with
  | error hfault =>
    rw [Survey.yields_error] at h h'
    rw [h, h']
    exact .error hfault
  | ok hsurvey =>
    obtain ⟨reducer, hhost, rfl⟩ := h
    obtain ⟨reducer', hhost', rfl⟩ := h'
    exact hgenerated _ _ hsurvey reducer reducer' hhost hhost'

end Generation

namespace Target

variable {settings : Settings}

/-- **A pass ends alike** on a declaration and on what is left of it without
places and texts. -/
theorem generation_unplaced (hsettings : IgnoresPlaces settings.isReducer) (n : Declaration)
    (id : DeclId) (anchor anchor' : Span) :
    EndsAlike Eq ((Target.mk (.ofDeclaration n) id anchor).generation settings).outcome
      ((Target.mk (.ofDeclaration n.unplaced) id anchor').generation settings).outcome := by
  rcases hd : n.listing[id]? with - | d
  -- a number that is not listed is not listed without places either
  · have hsize : ∀ m : Declaration, m.listing.length ≤ id → (Arena.ofDeclaration m).size ≤ id := by
      intro m hlen
      rwa [Arena.size_ofDeclaration, ← Declaration.length_listing]
    have hlen : n.listing.length ≤ id := List.getElem?_eq_none_iff.1 hd
    have hlen' : n.unplaced.listing.length ≤ id := by
      rwa [Declaration.listing_unplaced, List.length_map]
    rw [fails_of_notListed (hsize n hlen), fails_of_notListed (hsize n.unplaced hlen')]
    exact .error rfl
  · have hd' : n.unplaced.listing[id]? = some d.unplaced := by
      rw [Declaration.listing_unplaced, List.getElem?_map, hd, Option.map_some]
    have haccepts : ∀ head : Aggregate,
        settings.isReducer (d.unplaced.entry id (n.unplaced.memberStart id)) head.unplaced
          = settings.isReducer (d.entry id (n.memberStart id)) head := by
      intro head
      -- the rule sees the entry's number and those of its members, so these must be the same too
      rw [Declaration.memberStart_unplaced, Declaration.entry_unplaced]
      exact hsettings _ _ _ _ (Entry.unplaced_unplaced _) rfl
    refine (yields_survey hd anchor settings).endsAlike (yields_survey hd' anchor' settings)
      (Declaration.survey_unplaced haccepts anchor anchor' settings.conventions d) ?_
    rintro survey _ rfl reducer reducer' hhost hhost'
    exact Reducer.generated_unplaced (by rw [hhost', hhost]; rfl) settings survey.union

/-- What is made alike is rendered alike: a renderer that gives up is the
same fault wherever it is put. -/
theorem rendering_endsAlike {target target' : Target}
    (h : EndsAlike Eq (target.generation settings).outcome
      (target'.generation settings).outcome) :
    EndsAlike Eq (target.rendering settings).outcome (target'.rendering settings).outcome := by
  refine h.bind ?_
  rintro generated _ rfl
  rw [Pass.outcome_reportingFailure, Pass.outcome_reportingFailure, Pass.outcome_silent,
    Pass.outcome_silent]
  rcases generated.render settings with e | texts
  · exact .error rfl
  · exact .ok rfl

/-- **Places and texts never decide anything**: the expansions of two
declarations that differ in spans and texts only have the same members and
peers and the same faults, for every rule for reducers that ignores places.
The default rule does. -/
theorem expansion_ignoresPlaces :
    (∀ capability, IgnoresPlaces (conformsTo capability)) ∧
    ∀ settings : Settings, IgnoresPlaces settings.isReducer →
      ∀ n n' : Declaration, n.unplaced = n'.unplaced → ∀ (id : DeclId) (anchor anchor' : Span),
        ((Target.mk (.ofDeclaration n) id anchor).expansion settings).members
          = ((Target.mk (.ofDeclaration n') id anchor').expansion settings).members ∧
        ((Target.mk (.ofDeclaration n) id anchor).expansion settings).peers
          = ((Target.mk (.ofDeclaration n') id anchor').expansion settings).peers ∧
        ((Target.mk (.ofDeclaration n) id anchor).expansion settings).diagnostics.map
            Diagnostic.fault
          = ((Target.mk (.ofDeclaration n') id anchor').expansion settings).diagnostics.map
              Diagnostic.fault := by
  refine ⟨ignoresPlaces_conformsTo, fun settings hsettings n n' hsame id anchor anchor' => ?_⟩
  have halike := rendering_endsAlike ((generation_unplaced hsettings n id anchor {}).of_common
    (hsame ▸ generation_unplaced hsettings n' id anchor' {}))
  rw [expansion, expansion]
  generalize ((Target.mk (.ofDeclaration n) id anchor).rendering settings).outcome = outcome
    at halike ⊢
  generalize ((Target.mk (.ofDeclaration n') id anchor').rendering settings).outcome = outcome'
    at halike ⊢
  cases halike with
  | error hfault => exact ⟨rfl, rfl, congrArg (fun fault => [fault]) hfault⟩
  | ok heq =>
    subst heq
    exact ⟨rfl, rfl, rfl⟩

end Target

/-- A reducer without an enum of actions, whose only member is at the given
site. -/
def idleDeclaration (site : Site) : Declaration :=
  .aggregate {} { kind := .structType, name := "Idle", inherited := [.plain ["Reducer"]] }
    [.other site]

/-- It, as the target of a pass. -/
def idle (site : Site) : Target where
  arena := .ofDeclaration (idleDeclaration site)

/-- The text of the member is searched, and where it has the name of the
missing enum the fault is put there; but it is the same fault. -/
theorem idle_expansion_ignoresPlaces :
    ((idle { span := ⟨3, 9⟩, text := "case Action of" }).expansion
      (.ofConventions {})).diagnostics = [⟨.actionRequired, ⟨3, 9⟩⟩] ∧
    ((idle {}).expansion (.ofConventions {})).diagnostics = [⟨.actionRequired, {}⟩] ∧
    ((idle { span := ⟨3, 9⟩, text := "case Action of" }).expansion
        (.ofConventions {})).diagnostics.map Diagnostic.fault
      = ((idle {}).expansion (.ofConventions {})).diagnostics.map Diagnostic.fault := by
  have hsettings : IgnoresPlaces (Settings.ofConventions {}).isReducer :=
    Target.expansion_ignoresPlaces.1 "Reducer"
  have hsame : (idleDeclaration { span := ⟨3, 9⟩, text := "case Action of" }).unplaced
      = (idleDeclaration {}).unplaced := rfl
  refine ⟨by cbv, by cbv, ?_⟩
  exact (Target.expansion_ignoresPlaces.2 _ hsettings _ _ hsame Arena.root {} {}).2.2

end ActionRelay
