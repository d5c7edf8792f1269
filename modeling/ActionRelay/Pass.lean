import ActionRelay.Event
/-!
# Passes

A pass reports events and ends with a value or with the first diagnostic.
Steps are put together with `do`: the events of the first step come before
those of the second, which is not run after a failure.
-/

namespace ActionRelay

/-- What a pass reported, in order, and how it ended. -/
structure Pass (α : Type) where
  events : List Event
  outcome : Except Diagnostic α

namespace Pass

variable {α β : Type}

/-- The next step, run with the value of the first one. -/
def andThen (first : Pass α) (next : α → Pass β) : Pass β :=
  match first.outcome with
  | .error diagnostic => ⟨first.events, .error diagnostic⟩
  | .ok value => ⟨first.events ++ (next value).events, (next value).outcome⟩

instance : Monad Pass where
  pure value := ⟨[], .ok value⟩
  bind := andThen

/-- A step that only reports events. -/
def report (events : List Event) : Pass Unit :=
  ⟨events, .ok ()⟩

/-- A step that reports nothing. -/
def silent (outcome : Except Diagnostic α) : Pass α :=
  ⟨[], outcome⟩

/-- The pass, with its failure reported at the end. -/
def reportingFailure (pass : Pass α) : Pass α :=
  match pass.outcome with
  | .error diagnostic => ⟨pass.events ++ [.aborted diagnostic], pass.outcome⟩
  | .ok _ => pass

end Pass

end ActionRelay
