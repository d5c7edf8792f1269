import ActionRelay.Declaration.Arena
import ActionRelay.Diagnostic
/-!
# Events

What a generation pass reports while it runs, for a log.
-/

namespace ActionRelay

/-- How much an event matters. -/
inductive Level where
  | trace
  | debug
  | warn
deriving DecidableEq

/-- The word for a level. -/
def Level.word : Level → String
  | trace => "TRACE"
  | debug => "DEBUG"
  | warn => "WARN"

/-- A value in a log. A name stands between quotes there, and anything else
as it is. -/
inductive LogValue where
  | name (text : String)
  | plain (text : String)
deriving DecidableEq

/-- The text of a value, without quotes. -/
def LogValue.text : LogValue → String
  | name text => text
  | plain text => text

/-- Something that happened during a pass. -/
inductive Event where
  /-- A pass for both declarations starts. -/
  | generating (root : DeclId)
  /-- A pass for the wrapper alone starts. -/
  | generatingDispatch (root : DeclId)
  /-- A type nested in the action union was found. -/
  | nestedType (name : String)
  /-- The payloads of a case are about to be named. -/
  | resolvingCase (name : String) (slots : Nat) (excluded : Bool)
  /-- A case is left out because a payload cannot be named. -/
  | caseDropped (name : String) (diagnostic : Diagnostic)
  /-- Both declarations are made. -/
  | generated (reducer : String) (arms methods : Nat)
  /-- The pass failed. -/
  | aborted (diagnostic : Diagnostic)
deriving DecidableEq

/-- A span as it is shown in a log. -/
def Span.logText (span : Span) : String :=
  "Span \x7b start: " ++ Nat.repr span.start ++ ", end: " ++ Nat.repr span.stop ++ " \x7d"

/-- A truth value as it is shown in a log. -/
def truthText (value : Bool) : String :=
  if value then "true" else "false"

namespace Event

/-- How much the event matters. -/
def level : Event → Level
  | generating _ | generatingDispatch _ | generated _ _ _ | aborted _ => .debug
  | nestedType _ | resolvingCase _ _ _ => .trace
  | caseDropped _ _ => .warn

/-- What the event says. -/
def message : Event → String
  | generating _ => "generating action dispatch"
  | generatingDispatch _ => "generating dispatch wrapper"
  | nestedType _ => "nested type"
  | resolvingCase _ _ _ => "resolving variant"
  | caseDropped _ _ => "variant dropped from dispatch"
  | generated _ _ _ => "generated action dispatch"
  | aborted _ => "generation aborted"

/-- The data of the event by name. -/
def fields : Event → List (String × LogValue)
  | generating root => [("root", .plain (Nat.repr root))]
  | generatingDispatch root => [("root", .plain (Nat.repr root))]
  | nestedType name => [("nested_type", .plain name)]
  | resolvingCase name slots excluded =>
    [("variant", .name name), ("slots", .plain (Nat.repr slots)),
      ("excluded", .plain (truthText excluded))]
  | caseDropped name diagnostic =>
    [("variant", .name name), ("diagnostic", .plain diagnostic.message)]
  | generated reducer arms methods =>
    [("reducer", .name reducer), ("arms", .plain (Nat.repr arms)),
      ("methods", .plain (Nat.repr methods))]
  | aborted diagnostic =>
    [("code", .name diagnostic.fault.code), ("span", .plain diagnostic.span.logText),
      ("diagnostic", .plain diagnostic.message)]

end Event

end ActionRelay
