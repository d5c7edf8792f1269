import ActionRelay.Declaration.Arena
/-!
# Nested types

The aggregates below a declaration, each under the dotted names of the
aggregates it stands in, level by level.
-/

namespace ActionRelay

/-- The name of a type nested in the type called `parent`, if in any. -/
def nestedName (parent : Option String) (name : String) : String :=
  match parent with
  | none => name
  | some parent => parent ++ "." ++ name

/-- The dotted name of an aggregate found below `parent`; other declarations
have none. -/
def Entry.nestedName? (parent : Option String) (entry : Entry) : Option String :=
  entry.aggregate?.map fun (head, _) => nestedName parent head.name

/-- The dotted names of all aggregates among `members` and below them, level
by level. -/
def Arena.nestedTypes (arena : Arena) (members : List DeclId) : List String :=
  (arena.visit (fun parent entry => entry.nestedName? parent) none members).filterMap
    fun (parent, entry) => entry.nestedName? parent

end ActionRelay
