import ActionRelay.Declaration.Basic
import ActionRelay.TypeExpr.Reader
/-!
# Declarations — building by hand

A declaration starts from its kind and name, with the source text that such
a declaration has when it is empty, and takes further parts one at a time.
A part that the declaration cannot hold is refused with a `Misuse`.
-/

namespace ActionRelay

namespace Declaration

/-- A part was added to a declaration that cannot hold it. -/
inductive Misuse where
  | nameSpan
  | modifier
  | inheritance
  | member
  | slot
deriving DecidableEq

/-- What a misuse says. -/
def Misuse.message : Misuse → String
  | nameSpan => "Only aggregates have a name span"
  | modifier => "Only aggregates have modifiers"
  | inheritance => "Only aggregates inherit types"
  | member => "Only aggregates have members"
  | slot => "Only cases have payload slots"

/-- An aggregate without members. -/
def emptyAggregate (kind : AggregateKind) (name : String) : Declaration :=
  .aggregate { text := kind.keyword ++ " " ++ name ++ " \x7b\x7d" } { kind, name } []

/-- A case without payloads. -/
def emptyCase (name : String) : Declaration :=
  .enumCase { text := "case " ++ name } { name }

/-- A declaration that is not looked into. -/
def ofSource (text : String) : Declaration :=
  .other { text }

/-- The declaration with another site. -/
def mapSite (f : Site → Site) : Declaration → Declaration
  | .aggregate site head members => .aggregate (f site) head members
  | .enumCase site head => .enumCase (f site) head
  | .other site => .other (f site)

/-- The declaration at another place. -/
def withSpan (span : Span) : Declaration → Declaration :=
  mapSite ({ · with span })

/-- The declaration with another source text. -/
def withText (text : String) : Declaration → Declaration :=
  mapSite ({ · with text })

/-- The declaration with one more attribute, the last one. -/
def addAttribute (added : Attribute) : Declaration → Declaration :=
  mapSite fun site => { site with attributes := site.attributes ++ [added] }

/-- The aggregate with another head, or a misuse if it is none. -/
def mapHead (misuse : Misuse) (f : Aggregate → Aggregate) :
    Declaration → Except Misuse Declaration
  | .aggregate site head members => .ok (.aggregate site (f head) members)
  | _ => .error misuse

/-- The aggregate with its name at another place. -/
def withNameSpan (nameSpan : Span) : Declaration → Except Misuse Declaration :=
  mapHead .nameSpan ({ · with nameSpan })

/-- The aggregate with one more modifier, the last one. -/
def addModifier (modifier : String) : Declaration → Except Misuse Declaration :=
  mapHead .modifier fun head => { head with modifiers := head.modifiers ++ [modifier] }

/-- The aggregate with one more inherited type, the last one. -/
def addInherited (type : TypeExpr) : Declaration → Except Misuse Declaration :=
  mapHead .inheritance fun head => { head with inherited := head.inherited ++ [type] }

/-- The aggregate with one more member, the last one. -/
def addMember (parent member : Declaration) : Except Misuse Declaration :=
  match parent with
  | .aggregate site head members => .ok (.aggregate site head (members ++ [member]))
  | _ => .error .member

/-- The case with one more payload, the last one. -/
def addSlot (slot : Slot) : Declaration → Except Misuse Declaration
  | .enumCase site head => .ok (.enumCase site { head with slots := head.slots ++ [slot] })
  | _ => .error .slot

end Declaration

end ActionRelay
