import ActionRelay.TypeExpr.Qualify
import ActionRelay.Proofs.TypeExpr.RoundTrip
/-!
# Type expressions — the paths in a type

Qualification works path by path. The paths of a qualified type are those
of the type, each qualified on its own (`paths_qualify`), wherever in the
type they stand; so what qualification does to a type can be said of its
paths. A type stays as it is exactly if none of them names a nested type
(`qualify_eq_self_iff`), and a second qualification meets the names that the
first one made (`qualify_qualify_eq_iff`).
-/

namespace ActionRelay

/-! ## Paths -/

mutual

/-- The paths that occur in a type at any depth: the type itself if it is a
path, and all that occur in the types it is made of. -/
def TypeExpr.paths : TypeExpr → List (List Segment)
  | .named segments => segments :: TypeExpr.pathsInSegments segments
  | .tuple elements => TypeExpr.pathsInAll elements
  | .optional wrapped => wrapped.paths
  | .array element => element.paths
  | .dictionary key value => key.paths ++ value.paths
  | .verbatim _ => []

/-- The paths that occur in the generic arguments of a segment. -/
def Segment.paths : Segment → List (List Segment)
  | ⟨_, arguments⟩ => TypeExpr.pathsInAll arguments

/-- The paths that occur in several types. -/
def TypeExpr.pathsInAll : List TypeExpr → List (List Segment)
  | [] => []
  | t :: ts => t.paths ++ TypeExpr.pathsInAll ts

/-- The paths that occur in the generic arguments of several segments. -/
def TypeExpr.pathsInSegments : List Segment → List (List Segment)
  | [] => []
  | s :: ss => s.paths ++ TypeExpr.pathsInSegments ss

end

/-- A path with steps, and with identifiers for names. -/
structure TypeExpr.ProperPath (path : List Segment) : Prop where
  ne_nil : path ≠ []
  isIdentifier : ∀ s ∈ path, Text.isIdentifier s.name = true

mutual

/-- In a proper type, every path is one. -/
theorem TypeExpr.properPath_of_isProper :
    (t : TypeExpr) → t.isProper = true → ∀ path ∈ t.paths, TypeExpr.ProperPath path
  | .named segments, h => by
    rw [TypeExpr.isProper, Bool.and_eq_true] at h
    obtain ⟨hnames, hinside⟩ := TypeExpr.properPath_of_allProperSegments segments h.2
    refine List.forall_mem_cons.2 ⟨⟨?_, hnames⟩, hinside⟩
    simpa using h.1
  | .tuple elements, h => TypeExpr.properPath_of_allProper elements h
  | .optional wrapped, h => TypeExpr.properPath_of_isProper wrapped h
  | .array element, h => TypeExpr.properPath_of_isProper element h
  | .dictionary key value, h => by
    rw [TypeExpr.isProper, Bool.and_eq_true] at h
    have hkey := TypeExpr.properPath_of_isProper key h.1
    have hvalue := TypeExpr.properPath_of_isProper value h.2
    exact List.forall_mem_append.2 ⟨hkey, hvalue⟩
  | .verbatim _, _ => List.forall_mem_nil _

theorem Segment.properPath_of_isProper :
    (s : Segment) → s.isProper = true →
      Text.isIdentifier s.name = true ∧ ∀ path ∈ s.paths, TypeExpr.ProperPath path
  | ⟨_, arguments⟩, h => by
    rw [Segment.isProper, Bool.and_eq_true] at h
    exact ⟨h.1, TypeExpr.properPath_of_allProper arguments h.2⟩

theorem TypeExpr.properPath_of_allProper :
    (ts : List TypeExpr) → TypeExpr.allProper ts = true →
      ∀ path ∈ TypeExpr.pathsInAll ts, TypeExpr.ProperPath path
  | [], _ => List.forall_mem_nil _
  | t :: ts, h => by
    rw [TypeExpr.allProper, Bool.and_eq_true] at h
    have hfirst := TypeExpr.properPath_of_isProper t h.1
    have hlater := TypeExpr.properPath_of_allProper ts h.2
    exact List.forall_mem_append.2 ⟨hfirst, hlater⟩

theorem TypeExpr.properPath_of_allProperSegments :
    (ss : List Segment) → TypeExpr.allProperSegments ss = true →
      (∀ s ∈ ss, Text.isIdentifier s.name = true) ∧
        ∀ path ∈ TypeExpr.pathsInSegments ss, TypeExpr.ProperPath path
  | [], _ => ⟨List.forall_mem_nil _, List.forall_mem_nil _⟩
  | s :: ss, h => by
    rw [TypeExpr.allProperSegments, Bool.and_eq_true] at h
    obtain ⟨hname, hfirst⟩ := Segment.properPath_of_isProper s h.1
    obtain ⟨hnames, hlater⟩ := TypeExpr.properPath_of_allProperSegments ss h.2
    exact ⟨List.forall_mem_cons.2 ⟨hname, hnames⟩, List.forall_mem_append.2 ⟨hfirst, hlater⟩⟩

end

namespace TypeExpr

/-- **The paths that are read** are proper; in a text that is kept, none are
read. -/
theorem properPath_of_mem_ofText {text : String} {path : List Segment}
    (h : path ∈ (ofText text).paths) : ProperPath path := by
  have hformed := wellFormed_ofText text
  generalize ofText text = t at h hformed
  cases hformed with
  | kept _ _ => cases h
  | understood hproper _ => exact properPath_of_isProper t hproper path h

/-! ## One path -/

variable {nested : List String} {space : String} {path : List Segment}

/-- The path with its generic arguments qualified, and with `space` in front
if it names a nested type. -/
def qualifyPath (nested : List String) (space : String) (path : List Segment) : List Segment :=
  if dotted path ∈ nested then ⟨space, []⟩ :: qualifySegments nested space path
  else qualifySegments nested space path

theorem qualify_named (path : List Segment) :
    (TypeExpr.named path).qualify nested space = .named (qualifyPath nested space path) :=
  rfl

theorem map_name_qualifySegments (path : List Segment) :
    (qualifySegments nested space path).map Segment.name = path.map Segment.name := by
  rw [qualifySegments_eq_map, List.map_map]
  refine List.map_congr_left fun s _ => ?_
  rcases s with ⟨name, arguments⟩
  rw [Function.comp_apply, Segment.qualify]

/-- The names of a qualified path: those of the path, behind the name that
was put in front, if any. -/
theorem map_name_qualifyPath (nested : List String) (space : String) (path : List Segment) :
    (qualifyPath nested space path).map Segment.name
      = if dotted path ∈ nested then space :: path.map Segment.name
        else path.map Segment.name := by
  rw [qualifyPath]
  split
  · rw [List.map_cons, map_name_qualifySegments]
  · exact map_name_qualifySegments path

theorem dotted_qualifyPath_of_notMem (h : dotted path ∉ nested) :
    dotted (qualifyPath nested space path) = dotted path := by
  rw [dotted, map_name_qualifyPath, if_neg h, dotted]

theorem dotted_qualifyPath_of_mem (h : dotted path ∈ nested) (hpath : path ≠ []) :
    dotted (qualifyPath nested space path) = space ++ "." ++ dotted path := by
  have hnames : path.map Segment.name ≠ [] := by simpa using hpath
  rw [dotted, map_name_qualifyPath, if_pos h, String.intercalate_cons_of_ne_nil hnames, dotted]

/-- A path to a nested type gets one step longer, so it does change. -/
theorem qualifyPath_ne_self (h : dotted path ∈ nested) : qualifyPath nested space path ≠ path := by
  intro hself
  have hnames := congrArg List.length (map_name_qualifyPath nested space path)
  rw [hself, if_pos h, List.length_cons] at hnames
  omega

end TypeExpr

/-! ## All paths -/

section Qualify

variable {nested : List String} {space : String}

mutual

/-- **The paths of a qualified type**: those of the type, each qualified. -/
theorem TypeExpr.paths_qualify :
    (t : TypeExpr) →
      (t.qualify nested space).paths = t.paths.map (TypeExpr.qualifyPath nested space)
  | .named path => by
    have hinside := TypeExpr.pathsInSegments_qualify path
    -- the step that is put in front has no arguments
    have hfront : TypeExpr.pathsInSegments (TypeExpr.qualifyPath nested space path)
        = TypeExpr.pathsInSegments (TypeExpr.qualifySegments nested space path) := by
      rw [TypeExpr.qualifyPath]
      split
      · rfl
      · rfl
    rw [TypeExpr.qualify_named, TypeExpr.paths, TypeExpr.paths, hfront, hinside, List.map_cons]
  | .tuple elements => TypeExpr.pathsInAll_qualify elements
  | .optional wrapped => TypeExpr.paths_qualify wrapped
  | .array element => TypeExpr.paths_qualify element
  | .dictionary key value => by
    rw [TypeExpr.qualify, TypeExpr.paths, TypeExpr.paths, TypeExpr.paths_qualify key,
      TypeExpr.paths_qualify value, List.map_append]
  | .verbatim _ => rfl

theorem Segment.paths_qualify :
    (s : Segment) → (s.qualify nested space).paths = s.paths.map (TypeExpr.qualifyPath nested space)
  | ⟨_, arguments⟩ => TypeExpr.pathsInAll_qualify arguments

theorem TypeExpr.pathsInAll_qualify :
    (ts : List TypeExpr) → TypeExpr.pathsInAll (TypeExpr.qualifyAll nested space ts)
      = (TypeExpr.pathsInAll ts).map (TypeExpr.qualifyPath nested space)
  | [] => rfl
  | t :: ts => by
    rw [TypeExpr.qualifyAll, TypeExpr.pathsInAll, TypeExpr.pathsInAll, TypeExpr.paths_qualify t,
      TypeExpr.pathsInAll_qualify ts, List.map_append]

theorem TypeExpr.pathsInSegments_qualify :
    (ss : List Segment) → TypeExpr.pathsInSegments (TypeExpr.qualifySegments nested space ss)
      = (TypeExpr.pathsInSegments ss).map (TypeExpr.qualifyPath nested space)
  | [] => rfl
  | s :: ss => by
    rw [TypeExpr.qualifySegments, TypeExpr.pathsInSegments, TypeExpr.pathsInSegments,
      Segment.paths_qualify s, TypeExpr.pathsInSegments_qualify ss, List.map_append]

end

mutual

/-- A type in which no path names a nested type stays as it is. -/
theorem TypeExpr.qualify_eq_self :
    (t : TypeExpr) → (∀ path ∈ t.paths, TypeExpr.dotted path ∉ nested) →
      t.qualify nested space = t
  | .named path, h => by
    obtain ⟨hpath, hinside⟩ := List.forall_mem_cons.1 h
    rw [TypeExpr.qualify_named, TypeExpr.qualifyPath, if_neg hpath,
      TypeExpr.qualifySegments_eq_self path hinside]
  | .tuple elements, h => by
    rw [TypeExpr.qualify, TypeExpr.qualifyAll_eq_self elements h]
  | .optional wrapped, h => by
    rw [TypeExpr.qualify, TypeExpr.qualify_eq_self wrapped h]
  | .array element, h => by
    rw [TypeExpr.qualify, TypeExpr.qualify_eq_self element h]
  | .dictionary key value, h => by
    obtain ⟨hkey, hvalue⟩ := List.forall_mem_append.1 h
    rw [TypeExpr.qualify, TypeExpr.qualify_eq_self key hkey, TypeExpr.qualify_eq_self value hvalue]
  | .verbatim _, _ => rfl

theorem Segment.qualify_eq_self :
    (s : Segment) → (∀ path ∈ s.paths, TypeExpr.dotted path ∉ nested) → s.qualify nested space = s
  | ⟨name, arguments⟩, h => by
    rw [Segment.qualify, TypeExpr.qualifyAll_eq_self arguments h]

theorem TypeExpr.qualifyAll_eq_self :
    (ts : List TypeExpr) → (∀ path ∈ TypeExpr.pathsInAll ts, TypeExpr.dotted path ∉ nested) →
      TypeExpr.qualifyAll nested space ts = ts
  | [], _ => rfl
  | t :: ts, h => by
    obtain ⟨hfirst, hlater⟩ := List.forall_mem_append.1 h
    rw [TypeExpr.qualifyAll, TypeExpr.qualify_eq_self t hfirst,
      TypeExpr.qualifyAll_eq_self ts hlater]

theorem TypeExpr.qualifySegments_eq_self :
    (ss : List Segment) → (∀ path ∈ TypeExpr.pathsInSegments ss, TypeExpr.dotted path ∉ nested) →
      TypeExpr.qualifySegments nested space ss = ss
  | [], _ => rfl
  | s :: ss, h => by
    obtain ⟨hfirst, hlater⟩ := List.forall_mem_append.1 h
    rw [TypeExpr.qualifySegments, Segment.qualify_eq_self s hfirst,
      TypeExpr.qualifySegments_eq_self ss hlater]

end

end Qualify

namespace TypeExpr

variable {nested : List String} {space : String} {t : TypeExpr}

/-- **A type stays as it is** exactly if no path in it names a nested
type. -/
theorem qualify_eq_self_iff :
    t.qualify nested space = t ↔ ∀ path ∈ t.paths, dotted path ∉ nested := by
  constructor
  · intro h path hpath hnested
    have hpaths : t.paths.map (qualifyPath nested space) = t.paths.map id := by
      rw [← paths_qualify, h, List.map_id]
    exact qualifyPath_ne_self hnested (List.map_inj_left.1 hpaths path hpath)
  · exact t.qualify_eq_self

/-- **A second qualification** changes nothing exactly if no path in the type
names a nested type that is one too with `space` in front. -/
theorem qualify_qualify_eq_iff (h : [] ∉ t.paths) :
    (t.qualify nested space).qualify nested space = t.qualify nested space ↔
      ∀ path ∈ t.paths, dotted path ∈ nested → space ++ "." ++ dotted path ∉ nested := by
  rw [qualify_eq_self_iff, paths_qualify, List.forall_mem_map]
  refine forall₂_congr fun path hpath => ?_
  have hsteps : path ≠ [] := fun hnil => h (hnil ▸ hpath)
  by_cases hnested : dotted path ∈ nested
  · rw [dotted_qualifyPath_of_mem hnested hsteps]
    simp only [hnested, true_imp_iff]
  · rw [dotted_qualifyPath_of_notMem hnested]
    simp only [hnested, false_imp_iff, not_false_eq_true]

/-- **Qualification touches exactly the paths to nested types.** A type stays
as it is exactly if it has none; no path to a nested type is left without
`space` in front; and of the names of a path nothing else changes. -/
theorem qualify_touches (nested : List String) (space : String) (t : TypeExpr) :
    (t.qualify nested space = t ↔ ∀ path ∈ t.paths, dotted path ∉ nested) ∧
      (∀ path ∈ (t.qualify nested space).paths, dotted path ∈ nested →
        path.head? = some ⟨space, []⟩) ∧
      (t.qualify nested space).paths.map (List.map Segment.name)
        = t.paths.map fun path =>
            if dotted path ∈ nested then space :: path.map Segment.name
            else path.map Segment.name := by
  refine ⟨qualify_eq_self_iff, ?_, ?_⟩
  · rw [paths_qualify, List.forall_mem_map]
    intro path _ hnested
    by_cases hbefore : dotted path ∈ nested
    · rw [qualifyPath, if_pos hbefore, List.head?_cons]
    · -- its name has not changed, so it would have been qualified
      rw [dotted_qualifyPath_of_notMem hbefore] at hnested
      exact absurd hnested hbefore
  · rw [paths_qualify, List.map_map]
    exact List.map_congr_left fun path _ => map_name_qualifyPath nested space path

example : (qualify ["A", "A.B"] "S" (.dictionary (.plain ["A", "C"])
    (.named [⟨"R", [.optional (.plain ["A", "B"])]⟩]))).text = "[A.C: R<S.A.B?>]" := by
  decide

end TypeExpr

end ActionRelay
