import ActionRelay.Configuration
import ActionRelay.Declaration.Codec
import ActionRelay.Expansion
/-!
# Commands

What can be asked about an annotated declaration: the generated text, a
check only, or the list of the types nested in its action enum.
-/

namespace ActionRelay

/-- An annotated declaration, as the host hands it over. -/
structure Input where
  /-- The place of the annotation. -/
  anchor : Span := {}
  declaration : Declaration

namespace Input

/-- The annotation may be left out. -/
def ofJson? (json : Json) : Option Input :=
  match json.fields? ["annotation", "declaration"] with
  | some [anchor, declaration] => do
    return {
      anchor := ← Json.withDefault {} Span.ofJson? anchor
      declaration := ← Json.required Declaration.ofJson? declaration }
  | _ => none

/-- The parts of an input that are read. -/
def shape : Json.Shape :=
  .fields [("annotation", Span.shape), ("declaration", Declaration.shape)] false

/-- The input that a text spells. -/
def ofText? (text : String) : Option Input := do
  let json ← Json.ofText? text
  if Json.readable Json.maxLevels shape json then ofJson? json else none

/-- The root of the declaration, ready to be worked on. -/
def target (input : Input) : Target where
  arena := .ofDeclaration input.declaration
  anchor := input.anchor

end Input

/-- What can be asked. -/
inductive Command where
  /-- The text of the wrapper and the interface. -/
  | generate
  /-- Whether the declaration is a reducer. -/
  | validate
  /-- The types nested in the action enum. -/
  | nestedTypes
deriving DecidableEq

namespace Command

/-- The word for a command. -/
def word : Command → String
  | generate => "generate"
  | validate => "validate"
  | nestedTypes => "nested-types"

/-- The command that a word stands for. -/
def ofWord? : String → Option Command
  | "generate" => some generate
  | "validate" => some validate
  | "nested-types" => some nestedTypes
  | _ => none

end Command

/-- The text of an expansion: the members and then the peers, with an empty
line between them. -/
def Expansion.text (expansion : Expansion) : Except (List Diagnostic) String :=
  if expansion.succeeded then
    .ok (String.intercalate "\n" (expansion.members ++ expansion.peers))
  else .error expansion.diagnostics

/-- The line that tells what a reducer dispatches. -/
def Reducer.summary (reducer : Reducer) : String :=
  reducer.name ++ " dispatches " ++ reducer.action.name ++ " ("
    ++ Nat.repr reducer.actionMembers.length ++ " members)\n"

/-- The names of the types nested in the action enum, each on a line. -/
def Reducer.nestedTypeLines (reducer : Reducer) (arena : Arena) : String :=
  String.join ((arena.nestedTypes reducer.actionMembers).map (· ++ "\n"))

/-- Answers a command with a text or with diagnostics. -/
def Command.run (command : Command) (input : Input) (settings : Settings) :
    Except (List Diagnostic) String :=
  let target := input.target
  match command with
  | .generate => (target.expansion settings).text
  | .validate => (target.reducer settings).mapError ([·]) |>.map Reducer.summary
  | .nestedTypes =>
    (target.reducer settings).mapError ([·]) |>.map (·.nestedTypeLines target.arena)

/-- What is reported on the way to the answer. -/
def Command.events (command : Command) (input : Input) (settings : Settings) : List Event :=
  match command with
  | .generate => (input.target.rendering settings).events
  | .validate => []
  | .nestedTypes =>
    match input.target.reducer settings with
    | .error _ => []
    | .ok reducer =>
      (input.target.arena.nestedTypes reducer.actionMembers).map Event.nestedType

end ActionRelay
