import ActionRelay.Declaration.Arena
import ActionRelay.Diagnostic
/-!
# Exclusion from dispatch

The exclusion attribute belongs on cases only. A pass looks for a misplaced
one in the whole declaration that it works on.
-/

namespace ActionRelay

/-- The fault of an entry that is no case and carries the attribute
`exclusion`. -/
def Entry.misplacedExclusion? (entry : Entry) (exclusion : String) : Option Diagnostic :=
  match entry.enumCase? with
  | some _ => none
  | none => (entry.site.attribute? exclusion).map (⟨.misplacedExclusion, ·.span⟩)

/-- The first misplaced exclusion attribute at `id` or below it, level by
level. -/
def Arena.misplacedExclusion? (arena : Arena) (id : DeclId) (exclusion : String) :
    Option Diagnostic :=
  (arena.subtree id).findSome? (·.misplacedExclusion? exclusion)

end ActionRelay
