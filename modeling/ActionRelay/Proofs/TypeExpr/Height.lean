import ActionRelay.Proofs.TypeExpr.RoundTrip
import Mathlib.Order.MinMax
/-!
# Type expressions — how high a type that is read can be

Functions on types recur as deep as a type is high, and the levels of
nesting are limited for their sake. The levels bound the height, but they
are not the height: marks `?` are counted from the level at which they
stand, and what they are put on does not count for them. So what a mark is
put on can be as high as the whole of it may be deep, and the heights of
marks at different levels add up (`TypeExpr.height_le_add_roof`): a text of
128 levels can be 8384 high (`TypeExpr.exists_height_ofText_eq`), and no
higher (`TypeExpr.height_ofText_le`). Where marks are put on names alone,
height and levels are the same (`TypeExpr.budget_le_height`,
`TypeExpr.height_le_budget`).
-/

namespace ActionRelay

/-! ## Height -/

mutual

/-- **The height of a type**: a path without generic arguments has none,
and tuples, optionals, arrays, dictionaries and lists of generic arguments
are one higher than the highest type inside. -/
def TypeExpr.height : TypeExpr → ℕ
  | .named segments => TypeExpr.pathHeight segments
  | .tuple elements => TypeExpr.maxHeight elements + 1
  | .optional wrapped => wrapped.height + 1
  | .array element => element.height + 1
  | .dictionary key value => max key.height value.height + 1
  | .verbatim _ => 0

/-- The height of a segment. -/
def Segment.height : Segment → ℕ
  | ⟨_, arguments⟩ => if arguments.isEmpty then 0 else TypeExpr.maxHeight arguments + 1

/-- The height of the highest of several types. -/
def TypeExpr.maxHeight : List TypeExpr → ℕ
  | [] => 0
  | t :: ts => max t.height (TypeExpr.maxHeight ts)

/-- The height of the highest segment of a path. -/
def TypeExpr.pathHeight : List Segment → ℕ
  | [] => 0
  | s :: ss => max s.height (TypeExpr.pathHeight ss)

end

mutual

/-- Whether marks `?` are put on names alone, so that none follows a bracket
or a list of generic arguments. -/
def TypeExpr.marksNames : TypeExpr → Bool
  | .named segments => TypeExpr.pathMarksNames segments
  | .tuple elements => TypeExpr.allMarkNames elements
  | .optional wrapped => wrapped.height == wrapped.marks && wrapped.marksNames
  | .array element => element.marksNames
  | .dictionary key value => key.marksNames && value.marksNames
  | .verbatim _ => true

/-- Whether marks in the generic arguments of a segment are put on names
alone. -/
def Segment.marksNames : Segment → Bool
  | ⟨_, arguments⟩ => TypeExpr.allMarkNames arguments

/-- Whether marks in several types are put on names alone. -/
def TypeExpr.allMarkNames : List TypeExpr → Bool
  | [] => true
  | t :: ts => t.marksNames && TypeExpr.allMarkNames ts

/-- Whether marks in the segments of a path are put on names alone. -/
def TypeExpr.pathMarksNames : List Segment → Bool
  | [] => true
  | s :: ss => s.marksNames && TypeExpr.pathMarksNames ss

end

namespace TypeExpr

theorem height_wrapOptional (n : ℕ) (t : TypeExpr) :
    (wrapOptional n t).height = n + t.height := by
  induction n with
  | zero => rw [wrapOptional, Nat.zero_add]
  | succ n ih =>
    rw [wrapOptional, height, ih]
    omega

theorem marks_le_budget (t : TypeExpr) : t.marks ≤ t.budget := by
  cases t with
  | optional wrapped =>
    rw [marks, budget]
    exact le_max_left _ _
  | _ => simp [marks]

theorem marks_le_height (t : TypeExpr) : t.marks ≤ t.height := by
  fun_induction marks t with
  | case1 wrapped ih =>
    rw [height]
    omega
  | case2 => exact Nat.zero_le _

/-! ## The levels are no more than the height -/

end TypeExpr

mutual

/-- A type needs at most as many levels as it is high. -/
theorem TypeExpr.budget_le_height : (t : TypeExpr) → t.budget ≤ t.height
  | .named segments => TypeExpr.pathBudget_le_pathHeight segments
  | .tuple elements => Nat.succ_le_succ (TypeExpr.maxBudget_le_maxHeight elements)
  | .optional wrapped => by
    have hbudget := TypeExpr.budget_le_height wrapped
    have hmarks := wrapped.marks_le_height
    rw [TypeExpr.budget, TypeExpr.height]
    omega
  | .array element => Nat.succ_le_succ (TypeExpr.budget_le_height element)
  | .dictionary key value => by
    have hkey := TypeExpr.budget_le_height key
    have hvalue := TypeExpr.budget_le_height value
    rw [TypeExpr.budget, TypeExpr.height]
    omega
  | .verbatim _ => Nat.le_refl _

theorem Segment.budget_le_height : (s : Segment) → s.budget ≤ s.height
  | ⟨_, arguments⟩ => by
    have harguments := TypeExpr.maxBudget_le_maxHeight arguments
    rw [Segment.budget, Segment.height]
    split
    · exact Nat.le_refl _
    · exact Nat.succ_le_succ harguments

theorem TypeExpr.maxBudget_le_maxHeight :
    (ts : List TypeExpr) → TypeExpr.maxBudget ts ≤ TypeExpr.maxHeight ts
  | [] => Nat.le_refl _
  | t :: ts => max_le_max (TypeExpr.budget_le_height t) (TypeExpr.maxBudget_le_maxHeight ts)

theorem TypeExpr.pathBudget_le_pathHeight :
    (ss : List Segment) → TypeExpr.pathBudget ss ≤ TypeExpr.pathHeight ss
  | [] => Nat.le_refl _
  | s :: ss => max_le_max (Segment.budget_le_height s) (TypeExpr.pathBudget_le_pathHeight ss)

end

/-! ## The height that levels allow -/

/-- The height that `depth` levels allow a type without marks of its own: a
bracket takes one level, and on what stands inside there can be a mark for
each level that is left. -/
def TypeExpr.roof : (depth : ℕ) → ℕ
  | 0 => 0
  | depth + 1 => depth + TypeExpr.roof depth + 1

mutual

/-- **The levels bound the height.** What marks are put on is bounded by the
levels alone, and the marks come on top of it; so marks that stand at
different levels add up. -/
theorem TypeExpr.height_le_marks_add_roof :
    (t : TypeExpr) → (depth : ℕ) → t.budget ≤ depth → t.height ≤ t.marks + TypeExpr.roof depth
  | .named segments, depth, h => by
    simp only [TypeExpr.marks, Nat.zero_add]
    exact TypeExpr.pathHeight_le_roof segments depth h
  | .tuple elements, depth + 1, h => by
    have helements := TypeExpr.maxHeight_le_add_roof elements depth (Nat.le_of_succ_le_succ h)
    simp only [TypeExpr.height, TypeExpr.marks, TypeExpr.roof]
    omega
  | .optional wrapped, depth, h => by
    rw [TypeExpr.budget] at h
    have hwrapped := TypeExpr.height_le_marks_add_roof wrapped depth (by omega)
    rw [TypeExpr.height, TypeExpr.marks]
    omega
  | .array element, depth + 1, h => by
    have hbudget : element.budget ≤ depth := Nat.le_of_succ_le_succ h
    have helement := TypeExpr.height_le_marks_add_roof element depth hbudget
    have hmarks := element.marks_le_budget
    simp only [TypeExpr.height, TypeExpr.marks, TypeExpr.roof]
    omega
  | .dictionary key value, depth + 1, h => by
    rw [TypeExpr.budget] at h
    have hkey := TypeExpr.height_le_marks_add_roof key depth (by omega)
    have hvalue := TypeExpr.height_le_marks_add_roof value depth (by omega)
    have hmarks := key.marks_le_budget
    have hmarks' := value.marks_le_budget
    simp only [TypeExpr.height, TypeExpr.marks, TypeExpr.roof]
    omega
  | .verbatim _, _, _ => Nat.zero_le _

theorem Segment.height_le_roof :
    (s : Segment) → (depth : ℕ) → s.budget ≤ depth → s.height ≤ TypeExpr.roof depth
  | ⟨_, []⟩, _, _ => Nat.zero_le _
  | ⟨_, t :: ts⟩, depth + 1, h => by
    have harguments := TypeExpr.maxHeight_le_add_roof (t :: ts) depth (Nat.le_of_succ_le_succ h)
    rw [TypeExpr.roof]
    exact Nat.succ_le_succ harguments

theorem TypeExpr.maxHeight_le_add_roof :
    (ts : List TypeExpr) → (depth : ℕ) → TypeExpr.maxBudget ts ≤ depth →
      TypeExpr.maxHeight ts ≤ depth + TypeExpr.roof depth
  | [], _, _ => Nat.zero_le _
  | t :: ts, depth, h => by
    rw [TypeExpr.maxBudget] at h
    have hfirst := TypeExpr.height_le_marks_add_roof t depth (by omega)
    have hlater := TypeExpr.maxHeight_le_add_roof ts depth (by omega)
    have hmarks := t.marks_le_budget
    rw [TypeExpr.maxHeight]
    omega

theorem TypeExpr.pathHeight_le_roof :
    (ss : List Segment) → (depth : ℕ) → TypeExpr.pathBudget ss ≤ depth →
      TypeExpr.pathHeight ss ≤ TypeExpr.roof depth
  | [], _, _ => Nat.zero_le _
  | s :: ss, depth, h => by
    rw [TypeExpr.pathBudget] at h
    have hfirst := Segment.height_le_roof s depth (by omega)
    have hlater := TypeExpr.pathHeight_le_roof ss depth (by omega)
    rw [TypeExpr.pathHeight]
    omega

end

mutual

/-- **Where marks are put on names alone**, a type is no higher than the
levels that it needs. -/
theorem TypeExpr.height_le_budget : (t : TypeExpr) → t.marksNames = true → t.height ≤ t.budget
  | .named segments, h => TypeExpr.pathHeight_le_pathBudget segments h
  | .tuple elements, h => Nat.succ_le_succ (TypeExpr.maxHeight_le_maxBudget elements h)
  | .optional wrapped, h => by
    rw [TypeExpr.marksNames, Bool.and_eq_true, beq_iff_eq] at h
    rw [TypeExpr.height, TypeExpr.budget, h.1]
    exact le_max_left _ _
  | .array element, h => Nat.succ_le_succ (TypeExpr.height_le_budget element h)
  | .dictionary key value, h => by
    rw [TypeExpr.marksNames, Bool.and_eq_true] at h
    have hkey := TypeExpr.height_le_budget key h.1
    have hvalue := TypeExpr.height_le_budget value h.2
    rw [TypeExpr.height, TypeExpr.budget]
    exact Nat.succ_le_succ (max_le_max hkey hvalue)
  | .verbatim _, _ => Nat.le_refl _

theorem Segment.height_le_budget : (s : Segment) → s.marksNames = true → s.height ≤ s.budget
  | ⟨_, arguments⟩, h => by
    have harguments := TypeExpr.maxHeight_le_maxBudget arguments h
    rw [Segment.height, Segment.budget]
    split
    · exact Nat.le_refl _
    · exact Nat.succ_le_succ harguments

theorem TypeExpr.maxHeight_le_maxBudget :
    (ts : List TypeExpr) → TypeExpr.allMarkNames ts = true →
      TypeExpr.maxHeight ts ≤ TypeExpr.maxBudget ts
  | [], _ => Nat.le_refl _
  | t :: ts, h => by
    rw [TypeExpr.allMarkNames, Bool.and_eq_true] at h
    exact max_le_max (TypeExpr.height_le_budget t h.1) (TypeExpr.maxHeight_le_maxBudget ts h.2)

theorem TypeExpr.pathHeight_le_pathBudget :
    (ss : List Segment) → TypeExpr.pathMarksNames ss = true →
      TypeExpr.pathHeight ss ≤ TypeExpr.pathBudget ss
  | [], _ => Nat.le_refl _
  | s :: ss, h => by
    rw [TypeExpr.pathMarksNames, Bool.and_eq_true] at h
    exact max_le_max (Segment.height_le_budget s h.1) (TypeExpr.pathHeight_le_pathBudget ss h.2)

end

namespace TypeExpr

/-- The height that `depth` levels allow, marks included. -/
theorem height_le_add_roof {t : TypeExpr} {depth : ℕ} (h : t.budget ≤ depth) :
    t.height ≤ depth + roof depth := by
  have hheight := t.height_le_marks_add_roof depth h
  have hmarks := t.marks_le_budget
  omega

/-! ## Types as high as the levels allow -/

/-- A name in `depth` pairs of brackets, with `marks k` marks behind the pair
that has `k` pairs inside. -/
def tower (marks : ℕ → ℕ) : (depth : ℕ) → TypeExpr
  | 0 => .plain ["Int"]
  | depth + 1 => wrapOptional (marks depth) (.array (tower marks depth))

variable {marks : ℕ → ℕ}

theorem isProper_tower (depth : ℕ) : (tower marks depth).isProper = true := by
  induction depth with
  | zero =>
    rw [tower]
    decide
  | succ depth ih => rw [tower, isProper_wrapOptional, isProper, ih]

theorem isStructural_tower (depth : ℕ) : (tower marks depth).isStructural = true := by
  rcases depth with - | depth
  · rfl
  · exact isStructural_wrapOptional (marks depth) rfl

/-- As many marks as there are pairs, the one in front of them included,
need no levels of their own. -/
theorem budget_tower_le (hmarks : ∀ k, marks k ≤ k + 1) (depth : ℕ) :
    (tower marks depth).budget ≤ depth := by
  induction depth with
  | zero => exact Nat.le_refl 0
  | succ depth ih =>
    have hfirst := hmarks depth
    rw [tower, budget_wrapOptional rfl, budget]
    omega

/-- So such a type is read back from its text. -/
theorem ofText_tower (hmarks : ∀ k, marks k ≤ k + 1) :
    ofText (tower marks 128).text = tower marks 128 :=
  (WellFormed.understood (isProper_tower 128) (budget_tower_le hmarks 128)).ofText_text

theorem height_tower_succ (depth : ℕ) :
    (tower marks (depth + 1)).height = marks depth + (tower marks depth).height + 1 := by
  rw [tower, height_wrapOptional, height, Nat.add_assoc]

theorem height_tower_unmarked {depth : ℕ} (hmarks : ∀ k < depth, marks k = 0) :
    (tower marks depth).height = depth := by
  induction depth with
  | zero => rfl
  | succ depth ih =>
    have hinside := ih fun k hk => hmarks k (by omega)
    rw [height_tower_succ, hmarks depth (by omega), hinside, Nat.zero_add]

theorem height_tower_marked (depth : ℕ) :
    (tower (· + 1) depth).height = depth + roof depth := by
  induction depth with
  | zero => rfl
  | succ depth ih =>
    rw [height_tower_succ, ih, roof]
    omega

/-! ## The height of what is read -/

/-- One mark, behind 128 pairs of brackets. -/
def lastMark (k : ℕ) : ℕ :=
  if k = 127 then 1 else 0

/-- **A type that is read can be higher than 128**: the mark behind 128 pairs
of brackets is counted as one level, and not as one more than the
brackets. -/
theorem height_ofText_lastMark :
    (ofText (tower lastMark 128).text).isStructural = true ∧
      (ofText (tower lastMark 128).text).height = 129 := by
  have hmarks : ∀ k, lastMark k ≤ k + 1 := by
    intro k
    rw [lastMark]
    split <;> omega
  have hinside : (tower lastMark 127).height = 127 :=
    height_tower_unmarked fun k hk => if_neg (by omega)
  rw [ofText_tower hmarks]
  refine ⟨isStructural_tower 128, ?_⟩
  rw [height_tower_succ, hinside]
  rfl

/-- **The highest types that are read**: with as many marks behind each pair
of brackets as levels are left. -/
theorem exists_height_ofText_eq :
    ∃ text, (ofText text).isStructural = true ∧ (ofText text).height = 8384 := by
  have hroof : 128 + roof 128 = 8384 := by decide +kernel
  refine ⟨(tower (· + 1) 128).text, ?_⟩
  rw [ofText_tower fun _ => Nat.le_refl _]
  exact ⟨isStructural_tower 128, by rw [height_tower_marked, hroof]⟩

/-- What is read has at most 128 levels, and is spelled by the text. -/
theorem spelling_of_isStructural {text : String} (h : (ofText text).isStructural = true) :
    Spelling text (ofText text) ∧ (ofText text).budget ≤ 128 := by
  obtain ⟨t, hread, hof, -⟩ | ⟨-, hof⟩ := ofText_cases text
  · rw [hof]
    exact read?_eq_some_iff.1 hread
  · rw [hof] at h
    cases h

/-- And whatever the text spells is read if it has at most 128 levels. -/
theorem ofText_of_spelling {text : String} {t : TypeExpr} (h : Spelling text t)
    (hbudget : t.budget ≤ 128) : ofText text = t := by
  rw [ofText, read?_eq_some_iff.2 ⟨h, hbudget⟩, Option.getD_some]

/-- **How high a type that is read can be**: at most 128 exactly where the
text spells no type that is higher but has no more than 128 levels, as where
marks are put on names alone; and at most 8384 in any case. Nothing that is
at most 128 high is lost, and what is higher than the bound is kept as
text. -/
theorem height_ofText_le (text : String) :
    (((ofText text).isStructural = true → (ofText text).height ≤ 128) ↔
      ∀ t, Spelling text t → t.budget ≤ 128 → t.height ≤ 128) ∧
    ((ofText text).isStructural = true → (ofText text).height ≤ 8384 ∧
      ((ofText text).marksNames = true → (ofText text).height ≤ 128)) ∧
    ∀ t, Spelling text t →
      (t.height ≤ 128 → ofText text = t) ∧
      (8384 < t.height ∨ t.marksNames = true ∧ 128 < t.height →
        ofText text = .verbatim (Text.trim text)) := by
  have hroof : 128 + roof 128 = 8384 := by decide +kernel
  refine ⟨⟨fun h t hspelling hbudget => ?_, fun h hstructural => ?_⟩, fun hstructural => ?_,
    fun t hspelling => ⟨fun hheight => ?_, fun hhigh => ?_⟩⟩
  · rw [ofText_of_spelling hspelling hbudget] at h
    obtain ⟨tokens, -, hderives⟩ := hspelling
    exact h hderives.isStructural
  · obtain ⟨hspelling, hbudget⟩ := spelling_of_isStructural hstructural
    exact h _ hspelling hbudget
  · obtain ⟨-, hbudget⟩ := spelling_of_isStructural hstructural
    refine ⟨hroof ▸ height_le_add_roof hbudget, fun hnames => ?_⟩
    exact Nat.le_trans ((ofText text).height_le_budget hnames) hbudget
  · exact ofText_of_spelling hspelling (Nat.le_trans t.budget_le_height hheight)
  · obtain ⟨u, hread, -⟩ | ⟨-, hof⟩ := ofText_cases text
    · obtain ⟨hspelling', hbudget⟩ := read?_eq_some_iff.1 hread
      obtain rfl := hspelling.unique hspelling'
      have hheight := height_le_add_roof hbudget
      rcases hhigh with hhigh | ⟨hnames, hhigh⟩
      · rw [maxDepth, hroof] at hheight
        omega
      · have hlevels := t.height_le_budget hnames
        rw [maxDepth] at hbudget
        omega
    · exact hof

end TypeExpr

end ActionRelay
