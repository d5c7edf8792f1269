import ActionRelay.Proofs.Generation
/-!
# Nameless payloads — where resolution stops

A payload is nameless if it declares no name and its type is no path to
make one of; by position every payload has a name. `nameSlots_eq_error`
says that naming stops at the first nameless payload of a case and at no
other, and `outcome_resolveAll_eq_error` that resolution stops at the first
case that is not excluded and has such a payload, provided that cases are
not to be dropped.
-/

namespace ActionRelay

variable {settings : Settings} {naming : Naming} {diagnostic : Diagnostic}
variable {slot : Slot} {slots : List Slot} {c : CaseMember} {cases : List CaseMember}

/-! ## Payloads -/

/-- Whether the type is a dotted path; a path has at least one step. -/
def TypeExpr.isPath : TypeExpr → Bool
  | .named (_ :: _) => true
  | _ => false

theorem TypeExpr.baseName?_eq_none {type : TypeExpr} :
    type.baseName? = none ↔ type.isPath = false := by
  rcases type with (- | ⟨first, later⟩) | - | - | - | - | - <;> simp [baseName?, isPath]

/-- Whether a payload has neither a label nor a second name, and a type that
gives none where names are made from types. -/
def Slot.isNameless (naming : Naming) (slot : Slot) : Bool :=
  naming = .typeDerived && slot.label.isNone && slot.bind.isNone && !slot.type.isPath

theorem Slot.name?_eq_none {index : ℕ} :
    slot.name? index naming = none ↔ slot.isNameless naming = true := by
  simp only [name?, declaredName?, isNameless, Option.or_eq_none_iff, Bool.and_eq_true,
    decide_eq_true_eq, Option.isNone_iff_eq_none, Bool.not_eq_true']
  rcases naming with - | -
  · simp only [derivedName?, Option.map_eq_none_iff, TypeExpr.baseName?_eq_none, true_and]
    constructor
    · rintro ⟨⟨hbind, hlabel⟩, htype⟩
      exact ⟨⟨hlabel, hbind⟩, htype⟩
    · rintro ⟨⟨hlabel, hbind⟩, htype⟩
      exact ⟨⟨hbind, hlabel⟩, htype⟩
  · simp [derivedName?]

theorem unnameable_iff :
    Unnameable naming slots ↔ ∃ slot ∈ slots, slot.isNameless naming = true := by
  simp only [Unnameable, Slot.name?_eq_none]
  constructor
  · rintro ⟨index, slot, hslot, hnameless⟩
    exact ⟨slot, List.mem_of_getElem? hslot, hnameless⟩
  · rintro ⟨slot, hslot, hnameless⟩
    obtain ⟨index, hindex⟩ := List.mem_iff_getElem?.1 hslot
    exact ⟨index, slot, hindex, hnameless⟩

/-- What is said of the first nameless payload of a case, `index` being the
position of the first payload given. -/
def FirstNameless (naming : Naming) (caseName : String) (index : ℕ) (slots : List Slot)
    (diagnostic : Diagnostic) : Prop :=
  ∃ earlier slot later, slots = earlier ++ slot :: later ∧
    (∀ s ∈ earlier, s.isNameless naming = false) ∧ slot.isNameless naming = true ∧
    diagnostic = ⟨.unnamedPayload caseName (index + earlier.length), slot.span⟩

theorem firstNameless_cons {caseName : String} {index : ℕ} :
    FirstNameless naming caseName index (slot :: slots) diagnostic ↔
      slot.isNameless naming = true ∧ diagnostic = ⟨.unnamedPayload caseName index, slot.span⟩ ∨
      slot.isNameless naming = false ∧
        FirstNameless naming caseName (index + 1) slots diagnostic := by
  constructor
  · rintro ⟨- | ⟨first, earlier⟩, s, later, hsplit, hearlier, hnameless, rfl⟩
    · obtain ⟨rfl, rfl⟩ := List.cons.inj hsplit
      exact Or.inl ⟨hnameless, rfl⟩
    · obtain ⟨rfl, rfl⟩ := List.cons.inj hsplit
      rw [List.forall_mem_cons] at hearlier
      refine Or.inr ⟨hearlier.1, earlier, s, later, rfl, hearlier.2, hnameless, ?_⟩
      rw [List.length_cons, show index + (earlier.length + 1) = index + 1 + earlier.length by omega]
  · rintro (⟨hnameless, rfl⟩ | ⟨hnamed, earlier, s, later, rfl, hearlier, hnameless, rfl⟩)
    · exact ⟨[], slot, slots, rfl, by simp, hnameless, rfl⟩
    · refine ⟨slot :: earlier, s, later, rfl, List.forall_mem_cons.2 ⟨hnamed, hearlier⟩,
        hnameless, ?_⟩
      rw [List.length_cons, show index + (earlier.length + 1) = index + 1 + earlier.length by omega]

theorem exists_firstNameless {caseName : String} {index : ℕ} :
    (∃ diagnostic, FirstNameless naming caseName index slots diagnostic) ↔
      ∃ slot ∈ slots, slot.isNameless naming = true := by
  constructor
  · rintro ⟨_, earlier, slot, later, rfl, -, hnameless, -⟩
    exact ⟨slot, by simp, hnameless⟩
  · intro h
    obtain ⟨slot, hfind⟩ := Option.isSome_iff_exists.1 (List.find?_isSome.2 h)
    obtain ⟨hnameless, earlier, later, hsplit, hearlier⟩ := List.find?_eq_some_iff_append.1 hfind
    exact ⟨_, earlier, slot, later, hsplit, by simpa using hearlier, hnameless, rfl⟩

/-- **Naming stops at the first nameless payload**, and at no other. -/
theorem nameSlots_eq_error {caseName : String} {reserved kept taken : List String} {index : ℕ} :
    nameSlots caseName naming reserved kept index taken slots = .error diagnostic ↔
      FirstNameless naming caseName index slots diagnostic := by
  induction slots generalizing index taken with
  | nil => simp [nameSlots, FirstNameless]
  | cons slot slots ih =>
    have hnone : slot.parameterName? index naming reserved kept taken = none ↔
        slot.isNameless naming = true := Slot.parameterName?_eq_none.trans Slot.name?_eq_none
    rw [nameSlots, firstNameless_cons]
    rcases hname : slot.parameterName? index naming reserved kept taken with - | name
    · simp [hnone.1 hname, eq_comm]
    · have hnamed : slot.isNameless naming = false := by simpa [hname] using hnone
      simp only [hnamed, Bool.false_eq_true, false_and, false_or, true_and]
      have hlater : nameSlots caseName naming reserved kept (index + 1) (taken ++ [name]) slots
          = .error diagnostic ↔ FirstNameless naming caseName (index + 1) slots diagnostic := ih
      rw [← hlater]
      rcases nameSlots caseName naming reserved kept (index + 1) (taken ++ [name]) slots
        with d | names <;> simp [Except.map]

/-! ## Cases -/

/-- How the resolution of a case ends. -/
theorem ActionCase.outcome_resolve (settings : Settings) (action : ActionCase) :
    (action.resolve settings).outcome =
      if action.excluded then .ok (.skipped action)
      else
        match action.names settings, settings.unnamed with
        | .ok names, _ => .ok (.forwarded action names)
        | .error diagnostic, .abort => .error diagnostic
        | .error _, .dropCase => .ok (.skipped action) := by
  rw [resolve]
  split
  · rfl
  · rcases action.names settings with d | names
    · rcases settings.unnamed with - | - <;> rfl
    · rfl

namespace CaseMember

/-- Whether the case carries the exclusion attribute. -/
def isExcluded (exclusion : String) (c : CaseMember) : Bool :=
  (c.site.attribute? exclusion).isSome

/-- Whether the case is not excluded and has a nameless payload. -/
def LacksName (settings : Settings) (c : CaseMember) : Prop :=
  c.isExcluded settings.conventions.exclusion = false ∧
    ∃ slot ∈ c.head.slots, slot.isNameless settings.naming = true

/-- What is said of a case that lacks a name: the first nameless
payload. -/
def Lacks (settings : Settings) (c : CaseMember) (diagnostic : Diagnostic) : Prop :=
  c.isExcluded settings.conventions.exclusion = false ∧
    FirstNameless settings.naming c.head.name 0 c.head.slots diagnostic

theorem actionCase_excluded (exclusion : String) (c : CaseMember) :
    (c.actionCase exclusion).excluded = c.isExcluded exclusion := rfl

/-- The payloads of a case are those that are declared. -/
theorem names_actionCase_eq_error {exclusion : String} :
    (c.actionCase exclusion).names settings = .error diagnostic ↔
      FirstNameless settings.naming c.head.name 0 c.head.slots diagnostic :=
  nameSlots_eq_error

/-- **One case** stops resolution where it lacks a name and is not
dropped. -/
theorem outcome_resolve_eq_error :
    ((c.actionCase settings.conventions.exclusion).resolve settings).outcome = .error diagnostic ↔
      settings.unnamed = .abort ∧ c.Lacks settings diagnostic := by
  rw [Lacks, ← names_actionCase_eq_error, ActionCase.outcome_resolve, actionCase_excluded]
  rcases c.isExcluded settings.conventions.exclusion with - | -
  · rcases (c.actionCase settings.conventions.exclusion).names settings with d | names
    · rcases settings.unnamed with - | - <;> simp
    · simp
  · simp

theorem exists_lacks : (∃ diagnostic, c.Lacks settings diagnostic) ↔ c.LacksName settings := by
  simp only [Lacks, LacksName, exists_and_left, exists_firstNameless]

/-- And else it is resolved. -/
theorem exists_outcome_resolve_eq_ok (habort : settings.unnamed = .abort) :
    (∃ resolved, ((c.actionCase settings.conventions.exclusion).resolve settings).outcome
      = .ok resolved) ↔ ¬ c.LacksName settings := by
  have herror : ∀ d, _ ↔ settings.unnamed = .abort ∧ c.Lacks settings d :=
    fun d => outcome_resolve_eq_error
  rw [← exists_lacks]
  rcases houtcome : ((c.actionCase settings.conventions.exclusion).resolve settings).outcome
    with d | resolved
  · simpa using ⟨d, ((herror d).1 houtcome).2⟩
  · simpa [houtcome, habort] using herror

end CaseMember

/-- **Resolution stops at the first case that lacks a name.** -/
theorem outcome_resolveAll_eq_error :
    (resolveAll settings (cases.map
      (CaseMember.actionCase settings.conventions.exclusion))).outcome = .error diagnostic ↔
      settings.unnamed = .abort ∧ ∃ before c after, cases = before ++ c :: after ∧
        (∀ b ∈ before, ¬ b.LacksName settings) ∧ c.Lacks settings diagnostic := by
  induction cases with
  | nil => simp [resolveAll]
  | cons c cases ih =>
    simp only [List.map_cons, resolveAll, Pass.outcome_bind_eq_error, Pass.outcome_pure,
      reduceCtorEq, and_false, exists_false, or_false, ih, List.cons_eq_append_iff,
      CaseMember.outcome_resolve_eq_error]
    constructor
    -- either the first case stops resolution, or it is resolved and a later one does
    · rintro (⟨habort, hlacks⟩ | ⟨resolved, hok, habort, before, c', after, rfl, hbefore, hlacks⟩)
      · exact ⟨habort, [], c, cases, Or.inl ⟨rfl, rfl⟩, by simp, hlacks⟩
      · have hc := (CaseMember.exists_outcome_resolve_eq_ok habort).1 ⟨resolved, hok⟩
        exact ⟨habort, c :: before, c', after, Or.inr ⟨before, rfl, rfl⟩,
          List.forall_mem_cons.2 ⟨hc, hbefore⟩, hlacks⟩
    · rintro ⟨habort, _, c', after, ⟨rfl, heq⟩ | ⟨before, rfl, rfl⟩, hbefore, hlacks⟩
      · obtain ⟨rfl, rfl⟩ := List.cons.inj heq
        exact Or.inl ⟨habort, hlacks⟩
      · rw [List.forall_mem_cons] at hbefore
        obtain ⟨resolved, hok⟩ := (CaseMember.exists_outcome_resolve_eq_ok habort).2 hbefore.1
        exact Or.inr ⟨resolved, hok, habort, before, c', after, rfl, hbefore.2, hlacks⟩

end ActionRelay
