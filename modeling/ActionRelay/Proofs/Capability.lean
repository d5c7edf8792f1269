import ActionRelay.Command
import ActionRelay.Proofs.Generation
import ActionRelay.Proofs.TypeExpr.RoundTrip
/-!
# The capability — which names of it a struct can list

By default a struct counts as a reducer if the text of a type that it
inherits is the name of the capability, or if an attribute has that name
(`conformsTo_iff`). The inherited types have been read and are printed for
this, while the name is taken as it was given. So a type can only have a
name that is normal, the text of a well-formed type
(`TypeExpr.isNormal_iff`): where the name is not, a struct is refused
although it lists the name in the same spelling
(`Target.reducer_of_listed`). Identifiers with dots between them are normal
(`TypeExpr.isNormal_intercalate`), and `Reducer<State, Action>` is; without
the space it is not (`not_isNormal_spaceless`).
-/

namespace ActionRelay

/-! ## Normal texts -/

namespace TypeExpr

variable {text : String} {t : TypeExpr}

/-- A text that is the same after it has been read and printed. -/
def IsNormal (text : String) : Prop :=
  (ofText text).text = text

instance : Decidable (IsNormal text) :=
  inferInstanceAs (Decidable ((ofText text).text = text))

/-- The text of a well-formed type is normal. -/
theorem WellFormed.isNormal (h : t.WellFormed) : IsNormal t.text := by
  rw [IsNormal, h.ofText_text]

/-- **The normal texts** are those of the well-formed types. -/
theorem isNormal_iff : IsNormal text ↔ ∃ t : TypeExpr, t.WellFormed ∧ t.text = text := by
  constructor
  · intro h
    exact ⟨ofText text, wellFormed_ofText text, h⟩
  · rintro ⟨t, ht, rfl⟩
    exact ht.isNormal

/-- The steps of a path of identifiers are proper, and need no levels of
nesting. -/
theorem allProperSegments_plain {names : List String}
    (hnames : ∀ name ∈ names, Text.isIdentifier name = true) :
    allProperSegments (names.map (Segment.mk · [])) = true ∧
      pathBudget (names.map (Segment.mk · [])) = 0 := by
  induction names with
  | nil => exact ⟨rfl, rfl⟩
  | cons name later ih =>
    obtain ⟨hname, hlater⟩ := List.forall_mem_cons.1 hnames
    obtain ⟨hproper, hbudget⟩ := ih hlater
    simp [allProperSegments, Segment.isProper, allProper, pathBudget, Segment.budget, hname,
      hproper, hbudget]

/-- Identifiers with dots between them are a normal text. -/
theorem isNormal_intercalate {names : List String} (hne : names ≠ [])
    (hnames : ∀ name ∈ names, Text.isIdentifier name = true) :
    IsNormal (String.intercalate "." names) := by
  obtain ⟨hproper, hbudget⟩ := allProperSegments_plain hnames
  have hwellFormed : (plain names).WellFormed := by
    refine .understood ?_ ?_
    · rw [plain, isProper, hproper]
      simpa using hne
    · rw [plain, budget, hbudget]
      exact Nat.zero_le _
  have htext : (plain names).text = String.intercalate "." names := by
    rw [plain, TypeExpr.text, segmentTexts_eq_map, List.map_map]
    exact congrArg _ (List.map_id _)
  exact htext ▸ hwellFormed.isNormal

end TypeExpr

/-! ## What counts as a reducer -/

variable {capability : String} {entry : Entry} {head : Aggregate}

/-- A normal name is met by the type that it is read as, whatever else is
inherited. -/
theorem conformsTo_of_isNormal (hnormal : TypeExpr.IsNormal capability)
    (hlisted : TypeExpr.ofText capability ∈ head.inherited) :
    conformsTo capability entry head = true := by
  rw [conformsTo, Bool.or_eq_true, List.any_eq_true]
  exact Or.inl ⟨_, hlisted, beq_iff_eq.2 hnormal⟩

/-- **The default check.** Among types that have been read, the only one that
can have the name of the capability for its text is the one that the name is
read as; and it does where the name is normal. -/
theorem conformsTo_iff (hread : ∀ t ∈ head.inherited, t.WellFormed) :
    conformsTo capability entry head = true ↔
      (TypeExpr.IsNormal capability ∧ TypeExpr.ofText capability ∈ head.inherited) ∨
        entry.site.attribute? capability ≠ none := by
  constructor
  · intro h
    rw [conformsTo, Bool.or_eq_true, List.any_eq_true, Option.isSome_iff_ne_none] at h
    refine h.imp_left ?_
    rintro ⟨t, ht, htext⟩
    obtain rfl := eq_of_beq htext
    refine ⟨(hread t ht).isNormal, ?_⟩
    rwa [(hread t ht).ofText_text]
  · rintro (⟨hnormal, hlisted⟩ | hattribute)
    · exact conformsTo_of_isNormal hnormal hlisted
    · rw [conformsTo, Bool.or_eq_true, Option.isSome_iff_ne_none]
      exact Or.inr hattribute

variable {target : Target} {settings : Settings} {host : Aggregate} {members : List DeclId}

/-- Where no enum of actions is found, nothing else is reported. -/
theorem fault_of_findAction {entries : List Entry} {actionType : String} {anchor : Span}
    {diagnostic : Diagnostic} (h : findAction entries actionType anchor = .error diagnostic) :
    diagnostic.fault = .actionRequired := by
  rw [findAction] at h
  split at h
  case h_1 => cases h
  case h_2 => exact Except.error.inj h ▸ rfl
  case h_3 => exact Except.error.inj h ▸ rfl

namespace Target

/-- **A struct is refused** exactly where it does not count as a reducer, and
at its name. -/
theorem reducer_eq_notReducer_iff (hstruct : target.struct = .ok (entry, host, members))
    {span : Span} :
    target.reducer settings = .error ⟨.notReducer, span⟩ ↔
      settings.isReducer entry host = false ∧ host.nameSpan = span := by
  simp only [reducer, hstruct]
  rcases settings.isReducer entry host with - | -
  · simp
  · rcases hfind : findAction (target.arena.lookup members) settings.conventions.actionType
      target.anchor with diagnostic | found
    · have hfault := fault_of_findAction hfind
      have hne : diagnostic ≠ ⟨.notReducer, span⟩ := by
        rintro rfl
        cases hfault
      simpa using hne
    · simp

/-- **A struct that lists the capability** counts as a reducer if the name of
the capability is normal. If all that it inherits has been read, it is
refused where the name is not normal and no attribute has it, and nowhere
else. -/
theorem reducer_of_listed {configuration : Configuration} {naming : Option Naming}
    (hstruct : target.struct = .ok (entry, host, members))
    (hlisted : TypeExpr.ofText configuration.conventions.capability ∈ host.inherited) :
    (TypeExpr.IsNormal configuration.conventions.capability →
      (configuration.settings naming).isReducer entry host = true ∧
        ∀ span, target.reducer (configuration.settings naming) ≠ .error ⟨.notReducer, span⟩) ∧
      ((∀ t ∈ host.inherited, ∃ text, TypeExpr.ofText text = t) → ∀ span,
        (target.reducer (configuration.settings naming) = .error ⟨.notReducer, span⟩ ↔
          ¬ TypeExpr.IsNormal configuration.conventions.capability ∧
            entry.site.attribute? configuration.conventions.capability = none ∧
            host.nameSpan = span)) := by
  constructor
  · intro hnormal
    have haccepts : (configuration.settings naming).isReducer entry host = true :=
      conformsTo_of_isNormal hnormal hlisted
    refine ⟨haccepts, fun span hrefused => ?_⟩
    rw [((reducer_eq_notReducer_iff hstruct).1 hrefused).1] at haccepts
    cases haccepts
  · intro hread span
    have hwellFormed : ∀ t ∈ host.inherited, t.WellFormed := by
      intro t ht
      obtain ⟨text, rfl⟩ := hread t ht
      exact TypeExpr.wellFormed_ofText text
    have hrefuses : (configuration.settings naming).isReducer entry host = false ↔
        ¬ TypeExpr.IsNormal configuration.conventions.capability ∧
          entry.site.attribute? configuration.conventions.capability = none := by
      rw [← Bool.not_eq_true]
      refine (not_congr (conformsTo_iff hwellFormed)).trans ?_
      rw [not_or, not_and_or, not_ne_iff, or_iff_left (not_not_intro hlisted)]
    rw [reducer_eq_notReducer_iff hstruct, hrefuses, and_assoc]

end Target

/-! ## A name without a space -/

/-- The usual configuration, but for the name of the capability. -/
def capabilityConfiguration (capability : String) : Configuration where
  conventions := { capability }

/-- A struct that lists a capability under the given name. -/
def listingHost (capability : String) : Aggregate where
  kind := .structType
  name := "Feature"
  inherited := [.ofText capability]

/-- The struct with an enum of actions, as an input. -/
def listingInput (capability : String) : Input where
  declaration :=
    .aggregate {} (listingHost capability)
      [.aggregate {} { kind := .enumType, name := "Action" } []]

/-- The struct as it is listed. -/
def listingEntry (capability : String) : Entry :=
  ⟨Arena.root, {}, .aggregate (listingHost capability) [1]⟩

theorem struct_listingInput (capability : String) :
    (listingInput capability).target.struct
      = .ok (listingEntry capability, listingHost capability, [1]) := by
  simp [Target.struct, Input.target, listingInput, Arena.ofDeclaration, Arena.get?, Arena.root,
    Declaration.number, Declaration.entry, Declaration.members, Entry.aggregate?, listingEntry,
    listingHost]

theorem isNormal_dotted : TypeExpr.IsNormal "Architecture.Reducer" := by
  have hdots : String.intercalate "." ["Architecture", "Reducer"] = "Architecture.Reducer" := by
    cbv
  rw [← hdots]
  exact TypeExpr.isNormal_intercalate (by decide) (by decide)

theorem not_isNormal_spaceless : ¬ TypeExpr.IsNormal "Reducer<State,Action>" := by
  rw [TypeExpr.IsNormal]
  cbv

theorem listing_reducer_of_listed :
    (∀ span, (listingInput "Architecture.Reducer").target.reducer
      ((capabilityConfiguration "Architecture.Reducer").settings none)
        ≠ .error ⟨.notReducer, span⟩) ∧
    (listingInput "Reducer<State,Action>").target.reducer
      ((capabilityConfiguration "Reducer<State,Action>").settings none)
        = .error ⟨.notReducer, {}⟩ := by
  have hlisted : ∀ capability,
      TypeExpr.ofText (capabilityConfiguration capability).conventions.capability
        ∈ (listingHost capability).inherited :=
    fun capability => List.mem_singleton_self _
  constructor
  · exact ((Target.reducer_of_listed (struct_listingInput _) (hlisted _)).1 isNormal_dotted).2
  · refine ((Target.reducer_of_listed (struct_listingInput _) (hlisted _)).2 ?_ _).2
      ⟨not_isNormal_spaceless, rfl, rfl⟩
    exact List.forall_mem_singleton.2 ⟨_, rfl⟩

/-- A configuration is read that names the capability without a space, and a
struct that lists the same text is refused. -/
theorem spacelessName_refused :
    Configuration.ofJson? (.record
        [("conventions", .record [("capability", .text "Reducer<State,Action>")])])
      = some (capabilityConfiguration "Reducer<State,Action>") ∧
    ∃ entry host members,
      (listingInput "Reducer<State,Action>").target.struct = .ok (entry, host, members) ∧
      TypeExpr.ofText "Reducer<State,Action>" ∈ host.inherited ∧
      conformsTo "Reducer<State,Action>" entry host = false ∧
      (listingInput "Reducer<State,Action>").target.reducer
        ((capabilityConfiguration "Reducer<State,Action>").settings none)
          = .error ⟨.notReducer, host.nameSpan⟩ := by
  have hstruct := struct_listingInput "Reducer<State,Action>"
  have hread : ∀ t ∈ (listingHost "Reducer<State,Action>").inherited, t.WellFormed :=
    List.forall_mem_singleton.2 (TypeExpr.wellFormed_ofText _)
  have hrefuses : conformsTo "Reducer<State,Action>" (listingEntry "Reducer<State,Action>")
      (listingHost "Reducer<State,Action>") = false := by
    rw [← Bool.not_eq_true, conformsTo_iff hread]
    rintro (⟨hnormal, -⟩ | hattribute)
    · exact not_isNormal_spaceless hnormal
    · exact hattribute rfl
  refine ⟨by cbv, _, _, _, hstruct, List.mem_singleton_self _, hrefuses, ?_⟩
  exact (Target.reducer_eq_notReducer_iff hstruct).2 ⟨hrefuses, rfl⟩

end ActionRelay
