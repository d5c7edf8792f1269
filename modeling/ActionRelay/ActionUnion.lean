import ActionRelay.NestedTypes
/-!
# The action union

The enum of actions as a generation pass sees it: its cases in the order of
declaration, and the names of the types declared inside it.
-/

namespace ActionRelay

/-- A case of the action union. -/
structure ActionCase where
  name : String
  slots : List Slot
  /-- Whether the case is excluded from dispatch. -/
  excluded : Bool
  span : Span := {}
deriving DecidableEq

/-- The enum of actions. -/
structure ActionUnion where
  name : String
  cases : List ActionCase
  nested : List String
deriving DecidableEq

/-- The case that an entry lists, excluded if it carries the attribute
`exclusion`. -/
def Entry.actionCase? (entry : Entry) (exclusion : String) : Option ActionCase :=
  entry.enumCase?.map fun head =>
    { name := head.name
      slots := head.slots
      excluded := (entry.site.attribute? exclusion).isSome
      span := entry.site.span }

/-- The union whose members are listed under `members`; members other than
cases matter only for the nested types. -/
def ActionUnion.ofMembers (arena : Arena) (name : String) (members : List DeclId)
    (exclusion : String) : ActionUnion :=
  { name
    cases := (arena.lookup members).filterMap (·.actionCase? exclusion)
    nested := arena.nestedTypes members }

end ActionRelay
