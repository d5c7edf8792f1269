import ActionRelay.Settings
/-!
# Reducers

A reducer is a struct that takes part in the reducer capability and holds
exactly one enum of actions. `Target.reducer` checks this in that order and
says what is missing first.
-/

namespace ActionRelay

/-- A struct that passed the check, with its enum of actions. -/
structure Reducer where
  entry : Entry
  host : Aggregate
  action : Aggregate
  actionMembers : List DeclId

namespace Reducer

/-- The name of the struct. -/
def name (reducer : Reducer) : String :=
  reducer.host.name

end Reducer

/-- The enum called `actionType`, if the entry lists it. -/
def Entry.actionEnum? (entry : Entry) (actionType : String) : Option (Aggregate × List DeclId) :=
  entry.aggregate?.filter fun (head, _) =>
    head.kind == .enumType && head.name == actionType

/-- Whether `needle` stands somewhere in the text. -/
def occursIn (needle : List Char) : (text : List Char) → Bool
  | [] => needle.isEmpty
  | c :: rest => needle.isPrefixOf (c :: rest) || occursIn needle rest

/-- The place to point at when the enum of actions is missing: the first
member whose text has the name as a word between spaces, or else
`anchor`. -/
def missingActionSpan (members : List Entry) (actionType : String) (anchor : Span) : Span :=
  match members.find? fun entry =>
      occursIn (" " ++ actionType ++ " ").toList entry.site.text.toList with
  | some entry => entry.site.span
  | none => anchor

/-- The declaration that is worked on: an arena, a number in it, and the
place of the annotation, where faults without a place of their own are
put. -/
structure Target where
  arena : Arena
  id : DeclId := Arena.root
  anchor : Span := {}

/-- The only enum of actions among the members. -/
def findAction (members : List Entry) (actionType : String) (anchor : Span) :
    Except Diagnostic (Aggregate × List DeclId) :=
  match members.filterMap fun entry => (entry.actionEnum? actionType).map (entry, ·) with
  | [(_, action)] => .ok action
  | _ :: (second, _) :: _ => .error ⟨.actionRequired, second.site.span⟩
  | [] => .error ⟨.actionRequired, missingActionSpan members actionType anchor⟩

namespace Target

/-- The struct that is worked on, with its head and its members. -/
def struct (target : Target) : Except Diagnostic (Entry × Aggregate × List DeclId) :=
  match target.arena.get? target.id with
  | none =>
    .error ⟨.unknown ("declaration #" ++ Nat.repr target.id ++ " not found"), target.anchor⟩
  | some entry =>
    match entry.aggregate? with
    | some (head, members) =>
      if head.kind = .structType then .ok (entry, head, members)
      else .error ⟨.notStruct, target.anchor⟩
    | none => .error ⟨.notStruct, target.anchor⟩

/-- The reducer that is worked on. -/
def reducer (target : Target) (settings : Settings) : Except Diagnostic Reducer :=
  match target.struct with
  | .error diagnostic => .error diagnostic
  | .ok (entry, host, members) =>
    if settings.isReducer entry host then
      match findAction (target.arena.lookup members) settings.conventions.actionType
          target.anchor with
      | .error diagnostic => .error diagnostic
      | .ok (action, actionMembers) => .ok { entry, host, action, actionMembers }
    else .error ⟨.notReducer, host.nameSpan⟩

end Target

end ActionRelay
