import ActionRelay.Pass
/-!
# Passes — how steps are put together

Steps make up a lawful monad, of computations that report events and can
fail. What a pass of several steps ends with (`outcome_bind`) and what it
reports (`events_bind`) is read off the steps; a failure is reported last
(`events_reportingFailure`).
-/

namespace ActionRelay

namespace Pass

variable {α β γ : Type}

/-! ## Laws -/

theorem andThen_assoc (first : Pass α) (next : α → Pass β) (last : β → Pass γ) :
    (first.andThen next).andThen last = first.andThen fun a => (next a).andThen last := by
  rcases first with ⟨events, d | a⟩
  · rfl
  · simp only [andThen]
    rcases (next a).outcome with d | b
    · rfl
    · simp only [List.append_assoc]

theorem andThen_pure (pass : Pass α) : pass.andThen pure = pass := by
  rcases pass with ⟨events, d | a⟩
  · rfl
  · exact congrArg (Pass.mk · (.ok a)) (List.append_nil events)

/-- Steps that are put together are one step, whichever are put together
first. -/
instance : LawfulMonad Pass :=
  LawfulMonad.mk' Pass andThen_pure (fun _ _ => rfl) andThen_assoc

/-! ## Outcomes -/

@[simp] theorem outcome_pure (value : α) : (pure value : Pass α).outcome = .ok value := rfl

@[simp] theorem outcome_report (events : List Event) : (report events).outcome = .ok () := rfl

@[simp] theorem outcome_silent (outcome : Except Diagnostic α) :
    (silent outcome).outcome = outcome := rfl

@[simp] theorem outcome_reportingFailure (pass : Pass α) :
    pass.reportingFailure.outcome = pass.outcome := by
  rw [reportingFailure]
  split <;> simp_all

/-- Two steps end as the second does with the value of the first. -/
theorem outcome_bind (first : Pass α) (next : α → Pass β) :
    (first >>= next).outcome =
      match first.outcome with
      | .error diagnostic => .error diagnostic
      | .ok a => (next a).outcome := by
  change (first.andThen next).outcome = _
  rw [andThen]
  rcases first.outcome with d | a <;> rfl

@[simp] theorem outcome_map (make : α → β) (pass : Pass α) :
    (make <$> pass).outcome = pass.outcome.map make := by
  rw [← bind_pure_comp, outcome_bind]
  rcases pass.outcome with d | a <;> rfl

/-- Two steps succeed together if the first succeeds, and the second does
with its value. -/
@[simp] theorem outcome_bind_eq_ok {first : Pass α} {next : α → Pass β} {value : β} :
    (first >>= next).outcome = .ok value ↔
      ∃ a, first.outcome = .ok a ∧ (next a).outcome = .ok value := by
  rw [outcome_bind]
  rcases first.outcome with d | a <;> simp

/-- Two steps fail together if the first fails, or the second does with its
value. -/
theorem outcome_bind_eq_error {first : Pass α} {next : α → Pass β} {diagnostic : Diagnostic} :
    (first >>= next).outcome = .error diagnostic ↔
      first.outcome = .error diagnostic ∨
        ∃ a, first.outcome = .ok a ∧ (next a).outcome = .error diagnostic := by
  rw [outcome_bind]
  rcases first.outcome with d | a <;> simp

/-! ## Failures -/

/-- The diagnostic of a pass that failed. -/
def failure? (pass : Pass α) : Option Diagnostic :=
  match pass.outcome with
  | .error diagnostic => some diagnostic
  | .ok _ => none

theorem failure?_eq_some {pass : Pass α} {diagnostic : Diagnostic} :
    pass.failure? = some diagnostic ↔ pass.outcome = .error diagnostic := by
  rw [failure?]
  rcases pass.outcome with d | value <;> simp

@[simp] theorem failure?_reportingFailure (pass : Pass α) :
    pass.reportingFailure.failure? = pass.failure? := by
  rw [failure?, outcome_reportingFailure, failure?]

theorem failure?_bind (first : Pass α) (next : α → Pass β) :
    (first >>= next).failure? =
      match first.outcome with
      | .error diagnostic => some diagnostic
      | .ok a => (next a).failure? := by
  rw [failure?, outcome_bind]
  rcases first.outcome with d | a <;> rfl

/-! ## Events -/

@[simp] theorem events_pure (value : α) : (pure value : Pass α).events = [] := rfl

@[simp] theorem events_report (events : List Event) : (report events).events = events := rfl

@[simp] theorem events_silent (outcome : Except Diagnostic α) : (silent outcome).events = [] := rfl

/-- The second of two steps is reported after the first, if it is run. -/
theorem events_bind (first : Pass α) (next : α → Pass β) :
    (first >>= next).events = first.events ++
      match first.outcome with
      | .error _ => []
      | .ok a => (next a).events := by
  change (first.andThen next).events = _
  rw [andThen]
  rcases first.outcome with d | a
  · exact (List.append_nil _).symm
  · rfl

@[simp] theorem events_map (make : α → β) (pass : Pass α) :
    (make <$> pass).events = pass.events := by
  rw [← bind_pure_comp, events_bind]
  rcases pass.outcome with d | a <;> exact List.append_nil _

/-- A failure is reported last. -/
theorem events_reportingFailure (pass : Pass α) :
    pass.reportingFailure.events = pass.events ++ pass.failure?.toList.map Event.aborted := by
  rw [reportingFailure, failure?]
  rcases pass.outcome with d | value
  · rfl
  · exact (List.append_nil _).symm

end Pass

end ActionRelay
