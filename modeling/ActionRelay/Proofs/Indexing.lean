import ActionRelay.Proofs.Declaration.Worklist
import ActionRelay.Proofs.EntryPoints
/-!
# Indexing — no pass misses a number

The entry points again, as computations that look numbers up and are stopped
by one that is not found: each look-up and each loop is the one that is run.
On the arena of a declaration they end as the entry points do, for every
number that a pass can be pointed at, listed or not. All of it is put
together in `Arena.loopsEnd_ofDeclaration`.
-/

namespace ActionRelay

open Indexing

/-! ## The entry points, number by number -/

/-- The computation, with a fault as its value. -/
def Indexing.reported {α : Type} (computation : Indexing α) : Indexing (Except Diagnostic α) :=
  ExceptT.mk (computation.run.map fun
    | .ok value => .ok (.ok value)
    | .error (.refused diagnostic) => .ok (.error diagnostic)
    | .error (.notFound id) => .error (.notFound id))

/-- The union whose members are listed under `members`. -/
def ActionUnion.indexed (arena : Arena) (name : String) (members : List DeclId)
    (exclusion : String) : Indexing ActionUnion := do
  let entries ← members.mapM arena.index
  let nested ← arena.collectNested [(none, members)]
  return { name
           cases := entries.filterMap (·.actionCase? exclusion)
           nested := nested.map Prod.fst }

namespace Target

/-- The place to point at when the enum of actions is missing. The members
are looked up to the first whose text has the name. -/
def indexedMissingSpan (target : Target) (actionType : String) (members : List DeclId) :
    Indexing Span := do
  let mentioning ← target.arena.indexUntil (Option.guard fun entry =>
    occursIn (" " ++ actionType ++ " ").toList entry.site.text.toList) 1 members
  return (mentioning.head?.map (·.site.span)).getD target.anchor

/-- The only enum of actions among the members, which are looked up to the
second one. -/
def indexedAction (target : Target) (actionType : String) (members : List DeclId) :
    Indexing (Aggregate × List DeclId) := do
  let found ← target.arena.indexUntil
    (fun entry => (entry.actionEnum? actionType).map (entry, ·)) 2 members
  match found with
  | [(_, action)] => return action
  | _ :: (second, _) :: _ => ends (.error ⟨.actionRequired, second.site.span⟩)
  | [] =>
    let span ← target.indexedMissingSpan actionType members
    ends (.error ⟨.actionRequired, span⟩)

/-- The reducer that is worked on. -/
def indexedReducer (target : Target) (settings : Settings) : Indexing Reducer := do
  let (entry, host, members) ← ends target.struct
  if settings.isReducer entry host then
    let (action, actionMembers) ← target.indexedAction settings.conventions.actionType members
    return { entry, host, action, actionMembers }
  else ends (.error ⟨.notReducer, host.nameSpan⟩)

/-- The checks before any case is resolved. -/
def indexedPreparation (target : Target) (settings : Settings) :
    Indexing (Reducer × ActionUnion) := do
  let reducer ← target.indexedReducer settings
  let _ ← target.arena.checkExclusions settings.conventions.exclusion [target.id]
  let union ← ActionUnion.indexed target.arena reducer.action.name reducer.actionMembers
    settings.conventions.exclusion
  return (reducer, union)

/-- What both kinds of pass do first. Cases are resolved without the
arena. -/
def indexedResolution (target : Target) (settings : Settings) :
    Indexing (Reducer × ActionUnion × List ResolvedCase) := do
  let (reducer, union) ← target.indexedPreparation settings
  let resolved ← ends (resolveAll settings union.cases).outcome
  return (reducer, union, resolved)

/-- Makes the wrapper and the interface. -/
def indexedGeneration (target : Target) (settings : Settings) : Indexing Generated := do
  let found ← target.indexedResolution settings
  return generatedFrom settings found

/-- Makes the wrapper alone. -/
def indexedDispatch (target : Target) (settings : Settings) : Indexing Dispatch := do
  let found ← target.indexedResolution settings
  return (generatedFrom settings found).dispatch

/-- The expansion of the annotated declaration. -/
def indexedExpansion (target : Target) (settings : Settings) : Indexing Expansion := do
  let rendered ← reported do
    let generated ← target.indexedGeneration settings
    ends ((generated.render settings).mapError fun error =>
      .ofFailure (.rendering error) target.anchor)
  return .ofOutcome rendered

end Target

/-! ## They end as they do without -/

theorem Indexing.reported_ends {α : Type} (outcome : Except Diagnostic α) :
    reported (ends outcome) = ends (.ok outcome) := by
  rcases outcome with diagnostic | value <;> exact Part.map_some _ _

open Declaration

variable {n : Declaration} {i : ℕ} {ids : List ℕ}

/-- An enum that is listed makes the same union. -/
theorem ActionUnion.indexed_eq {action : Entry} (h : (Arena.ofDeclaration n).get? i = some action)
    (name exclusion : String) :
    ActionUnion.indexed (.ofDeclaration n) name action.members exclusion
      = ends (.ok (ActionUnion.ofMembers (.ofDeclaration n) name action.members exclusion)) := by
  have hfinds := Arena.finds_members h
  obtain ⟨d, hd, rfl⟩ := Arena.exists_listing_of_get? h
  obtain ⟨found, hfound, hnames, -⟩ := Arena.collectNested_members hd
  rw [ActionUnion.indexed, hfinds.mapM_index, pure_bind, hfound, ends_bind_pure, ofMembers,
    ← hnames]
  rfl

namespace Target

variable {target : Target}

section Finds

theorem indexedMissingSpan_eq (h : target.arena.Finds ids) (actionType : String) :
    target.indexedMissingSpan actionType ids
      = ends (.ok (missingActionSpan (target.arena.lookup ids) actionType target.anchor)) := by
  rw [indexedMissingSpan, h.indexUntil, pure_bind, List.filterMap_eq_filter, List.head?_take,
    if_neg Nat.one_ne_zero, List.head?_filter, missingActionSpan]
  rcases (target.arena.lookup ids).find? _ with - | first <;> rfl

theorem indexedAction_eq (h : target.arena.Finds ids) (actionType : String) :
    target.indexedAction actionType ids
      = ends (findAction (target.arena.lookup ids) actionType target.anchor) := by
  rw [indexedAction, h.indexUntil, pure_bind, indexedMissingSpan_eq h, findAction]
  simp only [ends_bind]
  -- two enums of actions are as many as the search looks for
  generalize (target.arena.lookup ids).filterMap _ = found
  rcases found with - | ⟨⟨first, action⟩, - | ⟨⟨second, action'⟩, later⟩⟩ <;> rfl

end Finds

variable (harena : target.arena = .ofDeclaration n) (settings : Settings)
include harena

/-- The struct that is worked on is one whose members are found. -/
theorem finds_of_struct {entry : Entry} {host : Aggregate}
    (h : target.struct = .ok (entry, host, ids)) : target.arena.Finds ids := by
  obtain ⟨hget, hkind⟩ := struct_eq_ok h
  rw [harena] at hget ⊢
  have hfinds := Arena.finds_members hget
  rwa [Entry.members, hkind] at hfinds

theorem indexedReducer_eq : target.indexedReducer settings = ends (target.reducer settings) := by
  rw [indexedReducer, reducer, ends_bind]
  rcases hstruct : target.struct with d | ⟨entry, host, ids⟩
  · rfl
  simp only
  split
  · rw [indexedAction_eq (finds_of_struct harena hstruct), ends_bind]
    rcases findAction _ _ _ with d | action <;> rfl
  · rfl

theorem indexedPreparation_eq :
    target.indexedPreparation settings = ends (target.prepare settings).outcome := by
  rw [indexedPreparation, indexedReducer_eq harena, ends_bind, outcome_prepare]
  rcases hreducer : target.reducer settings with d | reducer
  · rfl
  -- what passes the check for a reducer is listed, and so is its enum of actions
  obtain ⟨action, hmembers, hlists⟩ := reducer_eq_ok hreducer
  obtain ⟨host, hhost, haction, -⟩ := (hlists action).2 rfl
  obtain ⟨j, -, hj⟩ := List.mem_filterMap.1 haction
  rw [harena] at hhost hj ⊢
  obtain ⟨d, hd, -⟩ := Arena.exists_listing_of_get? hhost
  simp only [Arena.checkExclusions_subtree hd, ends_bind, Arena.checked, Arena.misplacedExclusion?,
    ← hmembers, ActionUnion.indexed_eq hj]
  rcases ((Arena.ofDeclaration n).subtree target.id).findSome? _ with - | diagnostic <;> rfl

theorem indexedResolution_eq :
    target.indexedResolution settings = ends (target.resolution settings).outcome := by
  rw [indexedResolution, indexedPreparation_eq harena, ends_bind, resolution, Pass.outcome_bind]
  rcases (target.prepare settings).outcome with d | ⟨reducer, union⟩
  · rfl
  · simp only [ends_bind, Pass.outcome_bind, Pass.outcome_pure]
    rcases (resolveAll settings union.cases).outcome with d | resolved <;> rfl

theorem indexedGeneration_eq :
    target.indexedGeneration settings = ends (target.generation settings).outcome := by
  rw [indexedGeneration, indexedResolution_eq harena, ends_bind_pure,
    outcome_generation_of_resolution]

theorem indexedDispatch_eq :
    target.indexedDispatch settings = ends (target.dispatch settings).outcome := by
  rw [indexedDispatch, indexedResolution_eq harena, ends_bind_pure, outcome_dispatch_of_resolution]

theorem indexedExpansion_eq :
    target.indexedExpansion settings = ends (.ok (target.expansion settings)) := by
  rw [indexedExpansion, indexedGeneration_eq harena, ends_bind, expansion, outcome_rendering]
  rcases (target.generation settings).outcome with d | generated
  · simp only [reported_ends, ends_bind]
    rfl
  · simp only [reported_ends, ends_bind]
    rfl

end Target

/-! ## Every loop ends -/

namespace Arena

/-- **What it means that nothing goes wrong with the numbers of an arena**:
whatever follows them ends, and none is missing on the way. -/
structure LoopsEnd (arena : Arena) : Prop where
  /-- The check of a subtree without a misplaced attribute visits what is in
  the subtree, each declaration once and by ascending number. -/
  visits : ∀ (exclusion : String) (r : DeclId), r < arena.size →
    (∀ below entry, arena.Below r below → arena.get? below = some entry →
      entry.misplacedExclusion? exclusion = none) →
    ∃ visited, arena.checkExclusions exclusion [r] = ends (.ok visited) ∧
      (visited.Pairwise fun a b => a.id < b.id) ∧
      ∀ entry, entry ∈ visited ↔ arena.get? entry.id = some entry ∧ arena.Below r entry.id
  /-- Any other check ends too, with the first misplaced attribute. -/
  checks : ∀ (exclusion : String) (r : DeclId), r < arena.size →
    arena.checkExclusions exclusion [r] = ends
      (match arena.misplacedExclusion? r exclusion with
        | some diagnostic => .error diagnostic
        | none => .ok (arena.subtree r))
  /-- The search for nested types visits each aggregate below once. -/
  searches : ∀ (u : DeclId) (entry : Entry), arena.get? u = some entry →
    ∃ found, arena.collectNested [(none, entry.members)] = ends (.ok found) ∧
      found.map Prod.fst = arena.nestedTypes entry.members ∧
      (found.map (·.2.id)).Pairwise (· < ·) ∧
      ∀ inner, inner ∈ found.map (·.2.id) ↔ ∃ head, arena.Nests u inner head
  /-- The check for a reducer ends as it does, whatever number it gets. -/
  reducer : ∀ id anchor settings, (Target.mk arena id anchor).indexedReducer settings
    = ends ((Target.mk arena id anchor).reducer settings)
  /-- So does a pass that makes both declarations. -/
  generation : ∀ id anchor settings, (Target.mk arena id anchor).indexedGeneration settings
    = ends ((Target.mk arena id anchor).generation settings).outcome
  /-- So does one that makes the wrapper alone. -/
  dispatch : ∀ id anchor settings, (Target.mk arena id anchor).indexedDispatch settings
    = ends ((Target.mk arena id anchor).dispatch settings).outcome
  /-- And so does an expansion. -/
  expansion : ∀ id anchor settings, (Target.mk arena id anchor).indexedExpansion settings
    = ends (.ok ((Target.mk arena id anchor).expansion settings))

/-- **Worklists over the arena of a declaration are safe and end.** -/
theorem loopsEnd_ofDeclaration (n : Declaration) : (ofDeclaration n).LoopsEnd where
  visits _ _ := checkExclusions_of_below
  checks := by
    intro exclusion r hr
    rw [size_ofDeclaration, ← length_listing] at hr
    exact checkExclusions_subtree (List.getElem?_eq_getElem hr) exclusion
  searches _ _ := collectNested_of_get?
  reducer _ _ settings := Target.indexedReducer_eq rfl settings
  generation _ _ settings := Target.indexedGeneration_eq rfl settings
  dispatch _ _ settings := Target.indexedDispatch_eq rfl settings
  expansion _ _ settings := Target.indexedExpansion_eq rfl settings

end Arena

open Arena

theorem sign_loopsEnd :
    (∀ below entry, (ofDeclaration signDeclaration).Below 2 below →
      (ofDeclaration signDeclaration).get? below = some entry →
        entry.misplacedExclusion? "SkipDispatch" = none) ∧
    (∃ visited, (ofDeclaration signDeclaration).checkExclusions "SkipDispatch" [2]
        = ends (.ok visited) ∧ (visited.Pairwise fun a b => a.id < b.id) ∧
      ∀ entry, entry ∈ visited ↔ (ofDeclaration signDeclaration).get? entry.id = some entry ∧
        (ofDeclaration signDeclaration).Below 2 entry.id) ∧
    (∃ found, (ofDeclaration signDeclaration).collectNested [(none, signEntry.members)]
        = ends (.ok found) ∧
      found.map Prod.fst = ["Alert", "Payload", "Alert.Button", "Alert.Button.Style"]) ∧
    ∀ settings, (Target.mk (ofDeclaration signDeclaration) 9 {}).indexedReducer settings
      = ends (.error ⟨.unknown "declaration #9 not found", {}⟩) := by
  have hnone : (ofDeclaration signDeclaration).entries.toList.all
      (fun entry => (entry.misplacedExclusion? "SkipDispatch").isNone) = true := by cbv
  have hplaced : ∀ below entry, (ofDeclaration signDeclaration).Below 2 below →
      (ofDeclaration signDeclaration).get? below = some entry →
        entry.misplacedExclusion? "SkipDispatch" = none := by
    intro below entry _ hget
    have hmem := Array.mem_toList_iff.2 (Array.mem_of_getElem? hget)
    exact Option.isNone_iff_eq_none.1 (List.all_eq_true.1 hnone entry hmem)
  have hends := loopsEnd_ofDeclaration signDeclaration
  obtain ⟨found, hfound, hnames, -⟩ := hends.searches 2 signEntry get?_signDeclaration
  have hsize : 2 < (ofDeclaration signDeclaration).size :=
    (Array.getElem?_eq_some_iff.1 get?_signDeclaration).1
  have hmissing : (ofDeclaration signDeclaration).get? 9 = none := by cbv
  refine ⟨hplaced, hends.visits "SkipDispatch" 2 hsize hplaced,
    ⟨found, hfound, hnames.trans (by cbv)⟩, fun settings => ?_⟩
  rw [hends.reducer, Target.reducer, Target.struct, hmissing]
  rfl

end ActionRelay
