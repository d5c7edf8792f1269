import ActionRelay.Span
import ActionRelay.TypeExpr.Basic
/-!
# Declarations

What the host tells about its program: aggregates with their members, the
cases of enums with their payloads, and anything else as plain text. A
declaration is a tree; `Declaration.count` is the number of its nodes.
-/

namespace ActionRelay

/-- An annotation on a declaration. -/
structure Attribute where
  name : String
  span : Span := {}
deriving DecidableEq

/-- The kinds of declarations that hold members. -/
inductive AggregateKind where
  | structType
  | enumType
  | classType
  | actorType
deriving DecidableEq

namespace AggregateKind

/-- The word that introduces a declaration of the kind. -/
def keyword : AggregateKind → String
  | structType => "struct"
  | enumType => "enum"
  | classType => "class"
  | actorType => "actor"

/-- All kinds. -/
def all : List AggregateKind := [structType, enumType, classType, actorType]

/-- The kind that a word introduces. -/
def ofKeyword? (word : String) : Option AggregateKind :=
  all.find? (·.keyword == word)

end AggregateKind

/-- One payload of a case. The label is its first name, `bind` the second
one, where a payload has a label outside and another name inside. -/
structure Slot where
  label : Option String := none
  bind : Option String := none
  type : TypeExpr
  span : Span := {}
deriving DecidableEq

/-- What every declaration has: its place, its source text and its
attributes. -/
structure Site where
  span : Span := {}
  text : String := ""
  attributes : List Attribute := []
deriving DecidableEq

/-- The first attribute of a name. -/
def Site.attribute? (site : Site) (name : String) : Option Attribute :=
  site.attributes.find? (·.name == name)

/-- An aggregate apart from its members. -/
structure Aggregate where
  kind : AggregateKind
  name : String
  nameSpan : Span := {}
  modifiers : List String := []
  inherited : List TypeExpr := []
deriving DecidableEq

/-- A case of an enum. -/
structure EnumCase where
  name : String
  slots : List Slot := []
deriving DecidableEq

/-- A declaration with all that stands in it. -/
inductive Declaration where
  | aggregate (site : Site) (head : Aggregate) (members : List Declaration)
  | enumCase (site : Site) (head : EnumCase)
  /-- A declaration that is not looked into, such as a property. -/
  | other (site : Site)

namespace Declaration

instance : Inhabited Declaration := ⟨.other {}⟩

/-- The place, text and attributes of a declaration. -/
def site : Declaration → Site
  | .aggregate site _ _ => site
  | .enumCase site _ => site
  | .other site => site

/-- The declarations directly inside an aggregate; no other declaration has
any. -/
def members : Declaration → List Declaration
  | .aggregate _ _ members => members
  | _ => []

mutual

/-- The number of nodes of a declaration. -/
def count : Declaration → Nat
  | .aggregate _ _ members => countAll members + 1
  | .enumCase _ _ => 1
  | .other _ => 1

/-- The number of nodes of several declarations. -/
def countAll : List Declaration → Nat
  | [] => 0
  | d :: ds => d.count + countAll ds

end

theorem countAll_append (ds es : List Declaration) :
    countAll (ds ++ es) = countAll ds + countAll es := by
  induction ds with
  | nil => simp [countAll]
  | cons d ds ih => simp only [List.cons_append, countAll, ih]; omega

theorem count_eq (d : Declaration) : d.count = countAll d.members + 1 := by
  cases d <;> simp [count, members, countAll]

end Declaration

end ActionRelay
