import ActionRelay.TypeExpr.Basic
/-!
# Type expressions — printing

The text of a type expression: names with dots between them, lists with a
comma and a space, the marks of optionals, arrays and dictionaries around
what they hold. `TypeExpr.pieces` cuts the same text where a line-oriented
writer receives it.
-/

namespace ActionRelay

mutual

/-- The text of a type expression. -/
def TypeExpr.text : TypeExpr → String
  | .named segments => String.intercalate "." (TypeExpr.segmentTexts segments)
  | .tuple elements => "(" ++ String.intercalate ", " (TypeExpr.texts elements) ++ ")"
  | .optional wrapped => wrapped.text ++ "?"
  | .array element => "[" ++ element.text ++ "]"
  | .dictionary key value => "[" ++ key.text ++ ": " ++ value.text ++ "]"
  | .verbatim text => text

/-- The text of one step of a path. -/
def Segment.text : Segment → String
  | ⟨name, arguments⟩ =>
    if arguments.isEmpty then name
    else name ++ "<" ++ String.intercalate ", " (TypeExpr.texts arguments) ++ ">"

/-- The texts of several type expressions. -/
def TypeExpr.texts : List TypeExpr → List String
  | [] => []
  | t :: ts => t.text :: TypeExpr.texts ts

/-- The texts of the steps of a path. -/
def TypeExpr.segmentTexts : List Segment → List String
  | [] => []
  | s :: ss => s.text :: TypeExpr.segmentTexts ss

end

namespace TypeExpr

theorem texts_eq_map (ts : List TypeExpr) : texts ts = ts.map text := by
  induction ts with
  | nil => rfl
  | cons t ts ih => simp [texts, ih]

theorem segmentTexts_eq_map (ss : List Segment) : segmentTexts ss = ss.map Segment.text := by
  induction ss with
  | nil => rfl
  | cons s ss ih => simp [segmentTexts, ih]

/-- The text of a type expression as it is handed to a writer: paths and
kept texts whole, every mark on its own. -/
def pieces : TypeExpr → List String
  | .tuple elements => ["(", String.intercalate ", " (texts elements), ")"]
  | .optional wrapped => wrapped.pieces ++ ["?"]
  | .array element => "[" :: element.pieces ++ ["]"]
  | .dictionary key value => "[" :: key.pieces ++ ": " :: value.pieces ++ ["]"]
  | t => [t.text]

end TypeExpr

end ActionRelay
