/-!
# Type expressions

The types that payloads and parameters have. Dotted paths with generic
arguments, tuples, optionals, arrays and dictionaries are understood; any
other text is kept as it stands. Equality of type expressions is decidable
(`TypeExpr.same_iff`).
-/

namespace ActionRelay

mutual

/-- The type of a payload or of a generated parameter. -/
inductive TypeExpr where
  /-- A dotted path, `Child.Action` or `Result<Int, Failure>`. -/
  | named (segments : List Segment)
  /-- A tuple, `(Int, Text)`. -/
  | tuple (elements : List TypeExpr)
  /-- A value that may be missing, `Int?`. -/
  | optional (wrapped : TypeExpr)
  /-- An array, `[Int]`. -/
  | array (element : TypeExpr)
  /-- A dictionary, `[Key: Value]`. -/
  | dictionary (key value : TypeExpr)
  /-- A text that is none of the above, kept as it stands. -/
  | verbatim (text : String)

/-- One step of a dotted path: a name and its generic arguments. -/
structure Segment where
  name : String
  arguments : List TypeExpr

end

namespace TypeExpr

/-- A dotted path without generic arguments. -/
def plain (names : List String) : TypeExpr :=
  .named (names.map (Segment.mk · []))

/-- The last name of a path; no other type has one. -/
def baseName? : TypeExpr → Option String
  | .named segments => segments.getLast?.map Segment.name
  | _ => none

/-- The names of a path with dots between them, generic arguments left
out. -/
def dotted (segments : List Segment) : String :=
  String.intercalate "." (segments.map Segment.name)

/-- The dotted name of a path; no other type has one. -/
def dottedName? : TypeExpr → Option String
  | .named segments => some (dotted segments)
  | _ => none

end TypeExpr

/-! ## Equality -/

mutual

/-- Whether two type expressions are the same. -/
def TypeExpr.same : TypeExpr → TypeExpr → Bool
  | .named a, .named b => TypeExpr.sameSegments a b
  | .tuple a, .tuple b => TypeExpr.sameAll a b
  | .optional a, .optional b => a.same b
  | .array a, .array b => a.same b
  | .dictionary k v, .dictionary k' v' => k.same k' && v.same v'
  | .verbatim a, .verbatim b => a == b
  | _, _ => false

/-- Whether two segments are the same. -/
def Segment.same : Segment → Segment → Bool
  | ⟨name, a⟩, ⟨name', b⟩ => name == name' && TypeExpr.sameAll a b

/-- Whether two lists of type expressions are the same. -/
def TypeExpr.sameAll : List TypeExpr → List TypeExpr → Bool
  | [], [] => true
  | a :: as, b :: bs => a.same b && TypeExpr.sameAll as bs
  | _, _ => false

/-- Whether two paths are the same. -/
def TypeExpr.sameSegments : List Segment → List Segment → Bool
  | [], [] => true
  | a :: as, b :: bs => a.same b && TypeExpr.sameSegments as bs
  | _, _ => false

end

mutual

theorem TypeExpr.same_iff : (a b : TypeExpr) → (a.same b = true ↔ a = b)
  | .named a, b => by
    cases b <;> simp [TypeExpr.same, TypeExpr.sameSegments_iff a]
  | .tuple a, b => by
    cases b <;> simp [TypeExpr.same, TypeExpr.sameAll_iff a]
  | .optional a, b => by
    cases b <;> simp [TypeExpr.same, TypeExpr.same_iff a]
  | .array a, b => by
    cases b <;> simp [TypeExpr.same, TypeExpr.same_iff a]
  | .dictionary k v, b => by
    cases b <;> simp [TypeExpr.same, TypeExpr.same_iff k, TypeExpr.same_iff v]
  | .verbatim a, b => by
    cases b <;> simp [TypeExpr.same]

theorem Segment.same_iff : (a b : Segment) → (a.same b = true ↔ a = b)
  | ⟨name, a⟩, ⟨name', b⟩ => by
    simp [Segment.same, TypeExpr.sameAll_iff a]

theorem TypeExpr.sameAll_iff : (a b : List TypeExpr) → (TypeExpr.sameAll a b = true ↔ a = b)
  | [], b => by
    cases b <;> simp [TypeExpr.sameAll]
  | a :: as, b => by
    cases b <;> simp [TypeExpr.sameAll, TypeExpr.same_iff a, TypeExpr.sameAll_iff as]

theorem TypeExpr.sameSegments_iff :
    (a b : List Segment) → (TypeExpr.sameSegments a b = true ↔ a = b)
  | [], b => by
    cases b <;> simp [TypeExpr.sameSegments]
  | a :: as, b => by
    cases b <;> simp [TypeExpr.sameSegments, Segment.same_iff a, TypeExpr.sameSegments_iff as]

end

instance : DecidableEq TypeExpr := fun a b =>
  decidable_of_iff _ (TypeExpr.same_iff a b)

instance : DecidableEq Segment := fun a b =>
  decidable_of_iff _ (Segment.same_iff a b)

instance : Inhabited TypeExpr := ⟨.named []⟩

end ActionRelay
