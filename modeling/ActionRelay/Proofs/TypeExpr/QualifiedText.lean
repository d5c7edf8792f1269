import ActionRelay.Proofs.TypeExpr.Paths
/-!
# Type expressions — the text of a qualified type

A qualified type is no type that was read, but it is one that could have
been (`TypeExpr.WellFormed.qualify`): the step in front of a path has no
generic arguments, so a type needs as many levels of nesting after
qualification as before (`TypeExpr.budget_qualify`), and if the name of that
step is an identifier, a proper type stays proper
(`TypeExpr.isProper_qualify`). Hence a qualified type is read back from its
text, however close to the limit it is nested (`TypeExpr.ofText_text_qualify`).
-/

namespace ActionRelay

section Qualify

variable {nested : List String} {space : String}

/-! ## Levels of nesting -/

theorem TypeExpr.marks_qualify (t : TypeExpr) : (t.qualify nested space).marks = t.marks := by
  cases t with
  | optional wrapped =>
    rw [TypeExpr.qualify, TypeExpr.marks, TypeExpr.marks, TypeExpr.marks_qualify wrapped]
  | named _ => rfl
  | tuple _ => rfl
  | array _ => rfl
  | dictionary _ _ => rfl
  | verbatim _ => rfl

theorem TypeExpr.isEmpty_qualifyAll (ts : List TypeExpr) :
    (TypeExpr.qualifyAll nested space ts).isEmpty = ts.isEmpty := by
  cases ts <;> rfl

mutual

/-- **A qualified type needs as many levels** as the type. -/
theorem TypeExpr.budget_qualify :
    (t : TypeExpr) → (t.qualify nested space).budget = t.budget
  | .named path => by
    have hinside := TypeExpr.pathBudget_qualify path
    rw [TypeExpr.qualify_named, TypeExpr.budget, TypeExpr.budget, TypeExpr.qualifyPath]
    split
    · -- the step that is put in front needs no level
      rw [TypeExpr.pathBudget, hinside, Segment.budget, List.isEmpty_nil, if_pos rfl, Nat.zero_max]
    · exact hinside
  | .tuple elements => by
    rw [TypeExpr.qualify, TypeExpr.budget, TypeExpr.budget, TypeExpr.maxBudget_qualify elements]
  | .optional wrapped => by
    rw [TypeExpr.qualify, TypeExpr.budget, TypeExpr.budget, TypeExpr.marks_qualify wrapped,
      TypeExpr.budget_qualify wrapped]
  | .array element => by
    rw [TypeExpr.qualify, TypeExpr.budget, TypeExpr.budget, TypeExpr.budget_qualify element]
  | .dictionary key value => by
    rw [TypeExpr.qualify, TypeExpr.budget, TypeExpr.budget, TypeExpr.budget_qualify key,
      TypeExpr.budget_qualify value]
  | .verbatim _ => rfl

theorem Segment.budget_qualify :
    (s : Segment) → (s.qualify nested space).budget = s.budget
  | ⟨_, arguments⟩ => by
    rw [Segment.qualify, Segment.budget, Segment.budget, TypeExpr.isEmpty_qualifyAll,
      TypeExpr.maxBudget_qualify arguments]

theorem TypeExpr.maxBudget_qualify :
    (ts : List TypeExpr) →
      TypeExpr.maxBudget (TypeExpr.qualifyAll nested space ts) = TypeExpr.maxBudget ts
  | [] => rfl
  | t :: ts => by
    rw [TypeExpr.qualifyAll, TypeExpr.maxBudget, TypeExpr.maxBudget, TypeExpr.budget_qualify t,
      TypeExpr.maxBudget_qualify ts]

theorem TypeExpr.pathBudget_qualify :
    (ss : List Segment) →
      TypeExpr.pathBudget (TypeExpr.qualifySegments nested space ss) = TypeExpr.pathBudget ss
  | [] => rfl
  | s :: ss => by
    rw [TypeExpr.qualifySegments, TypeExpr.pathBudget, TypeExpr.pathBudget,
      Segment.budget_qualify s, TypeExpr.pathBudget_qualify ss]

end

/-! ## Identifiers for names -/

mutual

/-- **A proper type stays proper** if the name in front is an identifier. -/
theorem TypeExpr.isProper_qualify (hspace : Text.isIdentifier space = true) :
    (t : TypeExpr) → t.isProper = true → (t.qualify nested space).isProper = true
  | .named path, h => by
    rw [TypeExpr.isProper, Bool.and_eq_true] at h
    have hinside := TypeExpr.allProperSegments_qualify hspace path h.2
    rw [TypeExpr.qualify_named, TypeExpr.isProper, TypeExpr.qualifyPath]
    split
    · simp [TypeExpr.allProperSegments, Segment.isProper, TypeExpr.allProper, hspace, hinside]
    · have hsteps : (TypeExpr.qualifySegments nested space path).isEmpty = path.isEmpty := by
        cases path <;> rfl
      rw [hsteps, hinside, h.1]
      rfl
  | .tuple elements, h => TypeExpr.allProper_qualify hspace elements h
  | .optional wrapped, h => TypeExpr.isProper_qualify hspace wrapped h
  | .array element, h => TypeExpr.isProper_qualify hspace element h
  | .dictionary key value, h => by
    rw [TypeExpr.isProper, Bool.and_eq_true] at h
    have hkey := TypeExpr.isProper_qualify hspace key h.1
    have hvalue := TypeExpr.isProper_qualify hspace value h.2
    exact Bool.and_eq_true_iff.2 ⟨hkey, hvalue⟩
  | .verbatim _, h => by cases h

theorem Segment.isProper_qualify (hspace : Text.isIdentifier space = true) :
    (s : Segment) → s.isProper = true → (s.qualify nested space).isProper = true
  | ⟨_, arguments⟩, h => by
    rw [Segment.isProper, Bool.and_eq_true] at h
    exact Bool.and_eq_true_iff.2 ⟨h.1, TypeExpr.allProper_qualify hspace arguments h.2⟩

theorem TypeExpr.allProper_qualify (hspace : Text.isIdentifier space = true) :
    (ts : List TypeExpr) → TypeExpr.allProper ts = true →
      TypeExpr.allProper (TypeExpr.qualifyAll nested space ts) = true
  | [], _ => rfl
  | t :: ts, h => by
    rw [TypeExpr.allProper, Bool.and_eq_true] at h
    have hfirst := TypeExpr.isProper_qualify hspace t h.1
    have hlater := TypeExpr.allProper_qualify hspace ts h.2
    exact Bool.and_eq_true_iff.2 ⟨hfirst, hlater⟩

theorem TypeExpr.allProperSegments_qualify (hspace : Text.isIdentifier space = true) :
    (ss : List Segment) → TypeExpr.allProperSegments ss = true →
      TypeExpr.allProperSegments (TypeExpr.qualifySegments nested space ss) = true
  | [], _ => rfl
  | s :: ss, h => by
    rw [TypeExpr.allProperSegments, Bool.and_eq_true] at h
    have hfirst := Segment.isProper_qualify hspace s h.1
    have hlater := TypeExpr.allProperSegments_qualify hspace ss h.2
    exact Bool.and_eq_true_iff.2 ⟨hfirst, hlater⟩

end

namespace TypeExpr

/-! ## Reading back -/

/-- **A type that a text can give stays one.** -/
theorem WellFormed.qualify {t : TypeExpr} (h : t.WellFormed)
    (hspace : Text.isIdentifier space = true) : (t.qualify nested space).WellFormed := by
  cases h with
  | kept htrim hkept => exact .kept htrim hkept
  | understood hproper hbudget =>
    exact .understood (isProper_qualify hspace t hproper) (by rwa [budget_qualify])

/-- **A qualified type is read back** from its text. -/
theorem ofText_text_qualify (text : String) (hspace : Text.isIdentifier space = true) :
    ofText ((ofText text).qualify nested space).text = (ofText text).qualify nested space :=
  ((wellFormed_ofText text).qualify hspace).ofText_text

end TypeExpr

end Qualify

end ActionRelay
