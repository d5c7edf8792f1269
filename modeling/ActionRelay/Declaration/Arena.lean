import ActionRelay.Declaration.Basic
/-!
# Declarations — the arena

An arena lists the declarations of a tree by number. The root has the
number 0 and the others are numbered level by level, from left to right; an
aggregate refers to its members by their numbers. A member is given its
number when its parent is visited, which is the number under which it is
listed later, since a queue hands declarations out in the order they were
put in.

`Arena.visit` walks an arena from given numbers on, level by level, and
passes a label down from each declaration to its members.
-/

namespace ActionRelay

/-- The number of a declaration in an arena. -/
abbrev DeclId := Nat

/-- What a listed declaration is. -/
inductive EntryKind where
  | aggregate (head : Aggregate) (members : List DeclId)
  | enumCase (head : EnumCase)
  | other
deriving DecidableEq

/-- A declaration of an arena. -/
structure Entry where
  id : DeclId
  site : Site
  kind : EntryKind
deriving DecidableEq

namespace Entry

/-- The head of an aggregate and the numbers of its members. -/
def aggregate? (entry : Entry) : Option (Aggregate × List DeclId) :=
  match entry.kind with
  | .aggregate head members => some (head, members)
  | _ => none

/-- The case that is listed. -/
def enumCase? (entry : Entry) : Option EnumCase :=
  match entry.kind with
  | .enumCase head => some head
  | _ => none

/-- The numbers of the members; only an aggregate has any. -/
def members (entry : Entry) : List DeclId :=
  match entry.kind with
  | .aggregate _ members => members
  | _ => []

end Entry

/-- The declaration as listed under `id` when its first member gets the
number `next`. -/
def Declaration.entry (d : Declaration) (id next : DeclId) : Entry :=
  match d with
  | .aggregate site head members => ⟨id, site, .aggregate head (List.range' next members.length)⟩
  | .enumCase site head => ⟨id, site, .enumCase head⟩
  | .other site => ⟨id, site, .other⟩

/-- Lists the queued declarations and all below them: the front one under
`id`, its members at the end of the queue under the numbers from `next`
on. -/
def Declaration.number (id next : DeclId) : (queue : List Declaration) → List Entry
  | [] => []
  | d :: queue =>
    d.entry id next ::
      Declaration.number (id + 1) (next + d.members.length) (queue ++ d.members)
termination_by queue => Declaration.countAll queue
decreasing_by
  simp only [Declaration.countAll, Declaration.countAll_append, Declaration.count_eq d]
  omega

/-- Declarations listed by number. -/
structure Arena where
  entries : Array Entry

namespace Arena

/-- The arena of a declaration and all that stands in it. -/
def ofDeclaration (d : Declaration) : Arena :=
  ⟨(Declaration.number 0 1 [d]).toArray⟩

/-- The number of the root. -/
def root : DeclId := 0

/-- The declaration with a number. -/
def get? (arena : Arena) (id : DeclId) : Option Entry :=
  arena.entries[id]?

/-- How many declarations there are. -/
def size (arena : Arena) : Nat :=
  arena.entries.size

/-- The declarations with the given numbers. -/
def lookup (arena : Arena) (ids : List DeclId) : List Entry :=
  ids.filterMap arena.get?

/-- Visits the queued declarations and all below them, at most `steps` of
them, in the order of the queue. Each one comes with the label it was queued
with, and its members are queued with the label that `pass` makes of it. -/
def visitWithin (arena : Arena) {β : Type} (pass : β → Entry → β) :
    (steps : Nat) → (queue : List (β × DeclId)) → List (β × Entry)
  | 0, _ => []
  | _ + 1, [] => []
  | steps + 1, (label, id) :: queue =>
    match arena.get? id with
    | none => visitWithin arena pass steps queue
    | some entry =>
      (label, entry) ::
        visitWithin arena pass steps (queue ++ entry.members.map (pass label entry, ·))

/-- Visits the declarations `ids` and all below them level by level, with
`label` for the first ones. A declaration is below one parent only, so there
are no more steps than declarations. -/
def visit (arena : Arena) {β : Type} (pass : β → Entry → β) (label : β) (ids : List DeclId) :
    List (β × Entry) :=
  visitWithin arena pass arena.size (ids.map (label, ·))

/-- A declaration and all below it, level by level. -/
def subtree (arena : Arena) (id : DeclId) : List Entry :=
  (arena.visit (fun _ _ => ()) () [id]).map Prod.snd

end Arena

end ActionRelay
