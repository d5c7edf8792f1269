import ActionRelay.TypeExpr.Basic
/-!
# Type expressions — qualification

Types that are declared inside the action union are known outside by a
longer name. Qualification puts the name of the union in front of every path
whose dotted name is one of the nested names, at any depth; all else stays.
-/

namespace ActionRelay

mutual

/-- The type with `space` in front of every path to a nested type. -/
def TypeExpr.qualify (nested : List String) (space : String) : TypeExpr → TypeExpr
  | .named segments =>
    let inside := TypeExpr.qualifySegments nested space segments
    .named (if TypeExpr.dotted segments ∈ nested then ⟨space, []⟩ :: inside else inside)
  | .tuple elements => .tuple (TypeExpr.qualifyAll nested space elements)
  | .optional wrapped => .optional (wrapped.qualify nested space)
  | .array element => .array (element.qualify nested space)
  | .dictionary key value =>
    .dictionary (key.qualify nested space) (value.qualify nested space)
  | .verbatim text => .verbatim text

/-- The segment with its generic arguments qualified. -/
def Segment.qualify (nested : List String) (space : String) : Segment → Segment
  | ⟨name, arguments⟩ => ⟨name, TypeExpr.qualifyAll nested space arguments⟩

/-- Several types, each qualified. -/
def TypeExpr.qualifyAll (nested : List String) (space : String) : List TypeExpr → List TypeExpr
  | [] => []
  | t :: ts => t.qualify nested space :: TypeExpr.qualifyAll nested space ts

/-- The steps of a path, each with its generic arguments qualified. -/
def TypeExpr.qualifySegments (nested : List String) (space : String) :
    List Segment → List Segment
  | [] => []
  | s :: ss => s.qualify nested space :: TypeExpr.qualifySegments nested space ss

end

namespace TypeExpr

theorem qualifyAll_eq_map (nested : List String) (space : String) (ts : List TypeExpr) :
    qualifyAll nested space ts = ts.map (qualify nested space) := by
  induction ts with
  | nil => rfl
  | cons t ts ih => simp [qualifyAll, ih]

theorem qualifySegments_eq_map (nested : List String) (space : String) (ss : List Segment) :
    qualifySegments nested space ss = ss.map (Segment.qualify nested space) := by
  induction ss with
  | nil => rfl
  | cons s ss ih => simp [qualifySegments, ih]

end TypeExpr

end ActionRelay
