import ActionRelay.Proofs.Declaration.Copy
import ActionRelay.Proofs.Survey
import Mathlib.Logic.Function.Iterate
/-!
# Declarations — levels

A queue hands out all of one level before anything of the next, since the
members of a level are put behind what is left of it (`walk_append`). So a
walk is the levels one after the other, from left to right
(`walk_eq_levels`), and so are the declarations of an arena by number
(`Arena.levelOrder_ofDeclaration`) and the names of nested types
(`nestedTypes_eq_levels`).
-/

namespace ActionRelay

namespace Declaration

variable {β : Type} (pass : β → Declaration → β) {queue : List (β × Declaration)}

/-! ## A walk, level by level -/

/-- The members of a level, with the labels that `pass` makes for them. -/
def nextLevel (level : List (β × Declaration)) :
    List (β × Declaration) :=
  level.flatMap fun x => x.2.members.map (pass x.1 x.2, ·)

/-- What is queued comes first, and leaves its members at the end of the
queue. -/
theorem walk_append (queue later : List (β × Declaration)) :
    walk pass (queue ++ later) = queue ++ walk pass (later ++ nextLevel pass queue) := by
  induction queue generalizing later with
  | nil => simp [nextLevel]
  | cons x queue ih =>
    obtain ⟨label, d⟩ := x
    rw [List.cons_append, walk, List.append_assoc, ih, List.append_assoc, List.cons_append]
    rfl

theorem walk_eq_append (queue : List (β × Declaration)) :
    walk pass queue = queue ++ walk pass (nextLevel pass queue) := by
  have happend := walk_append pass queue []
  rwa [List.append_nil, List.nil_append] at happend

/-- The declarations of the next level, without their labels. -/
theorem map_snd_nextLevel (level : List (β × Declaration)) :
    (nextLevel pass level).map Prod.snd = (level.map Prod.snd).flatMap members := by
  rw [nextLevel, List.map_flatMap, List.flatMap_map]
  refine List.flatMap_congr fun x _ => ?_
  simp [Function.comp_def]

/-- A level takes its own declarations with it. -/
theorem countAll_nextLevel (queue : List (β × Declaration)) :
    countAll ((nextLevel pass queue).map Prod.snd) + queue.length
      = countAll (queue.map Prod.snd) := by
  rw [map_snd_nextLevel, ← countAll_flatMap_members (queue.map Prod.snd), List.length_map]

/-- **A walk is its levels**, one after the other; there are no more levels
than declarations. -/
theorem walk_eq_levels {levels : ℕ} (h : countAll (queue.map Prod.snd) ≤ levels) :
    walk pass queue = (List.range levels).flatMap fun k => (nextLevel pass)^[k] queue := by
  induction levels generalizing queue with
  | zero =>
    have hcount := countAll_nextLevel pass queue
    obtain rfl : queue = [] := List.eq_nil_of_length_eq_zero (by omega)
    rw [walk]
    rfl
  | succ levels ih =>
    -- an empty level is followed by an empty one, and any other takes a declaration with it
    have hnext : countAll ((nextLevel pass queue).map Prod.snd) ≤ levels := by
      have hcount := countAll_nextLevel pass queue
      rcases queue with - | ⟨x, queue⟩
      · exact Nat.zero_le _
      · rw [List.length_cons] at hcount
        omega
    rw [walk_eq_append pass queue, ih hnext, List.range_succ_eq_map, List.flatMap_cons,
      List.flatMap_map]
    rfl

/-! ## A declaration, level by level -/

/-- The declarations that stand `depth` levels below a declaration, from left
to right: the members of those one level above, one list after the other. -/
def level (n : Declaration) : (depth : ℕ) → List Declaration
  | 0 => [n]
  | depth + 1 => (n.level depth).flatMap members

/-- Labels left out, the levels of a walk are those of the declaration. -/
theorem map_snd_iterate_nextLevel (label : β) (n : Declaration) (depth : ℕ) :
    ((nextLevel pass)^[depth] [(label, n)]).map Prod.snd = n.level depth := by
  induction depth with
  | zero => rfl
  | succ depth ih => rw [Function.iterate_succ_apply', map_snd_nextLevel, ih, level]

/-- **What a declaration lists** is its levels, one after the other. -/
theorem listing_eq_levels {n : Declaration} {levels : ℕ} (h : n.count ≤ levels) :
    n.listing = (List.range levels).flatMap n.level := by
  have hcount : countAll ([((), n)].map Prod.snd) ≤ levels := h
  rw [← map_snd_walk_singleton (fun _ _ => ()) () n, walk_eq_levels _ hcount, List.map_flatMap]
  simp only [map_snd_iterate_nextLevel]

/-! ## Nested types, level by level -/

/-- The dotted names of the aggregates that stand `level` levels below `ds`,
from left to right, where `parent` is the name of what `ds` stand in. -/
def nestedAt : (level : ℕ) → (parent : Option String) → (ds : List Declaration) → List String
  | 0, parent, ds => ds.filterMap (nestedName? parent)
  | level + 1, parent, ds => ds.flatMap fun d => nestedAt level (d.nestedName? parent) d.members

theorem nestedAt_eq_flatMap (level : ℕ) (parent : Option String) (ds : List Declaration) :
    nestedAt level parent ds = ds.flatMap fun d => nestedAt level parent [d] := by
  rcases level with - | level
  · simp [nestedAt, List.filterMap_eq_flatMap_toList]
  · simp [nestedAt]

/-- The names on a level of a walk, each found below its own label. -/
theorem filterMap_level (level : ℕ) (queue : List (Option String × Declaration)) :
    ((nextLevel fun parent d => d.nestedName? parent)^[level] queue).filterMap
        (fun x => x.2.nestedName? x.1)
      = queue.flatMap fun x => nestedAt level x.1 [x.2] := by
  induction level generalizing queue with
  | zero =>
    rw [Function.iterate_zero_apply, List.filterMap_eq_flatMap_toList]
    refine List.flatMap_congr fun x _ => ?_
    rcases hname : x.2.nestedName? x.1 with - | name <;> simp [nestedAt, hname]
  | succ level ih =>
    rw [Function.iterate_succ_apply, ih, nextLevel, List.flatMap_assoc]
    refine List.flatMap_congr fun x _ => ?_
    rw [List.flatMap_map, nestedAt, List.flatMap_singleton]
    exact (nestedAt_eq_flatMap level _ _).symm

/-- **Nested types are listed level by level**, however many levels more are
looked at than there are declarations. -/
theorem nestedTypes_eq_levels_of_le {ds : List Declaration} {levels : ℕ}
    (h : countAll ds ≤ levels) :
    nestedTypes ds = (List.range levels).flatMap (nestedAt · none ds) := by
  have hcount : countAll ((ds.map ((none : Option String), ·)).map Prod.snd) ≤ levels := by
    simpa [Function.comp_def] using h
  rw [nestedTypes, walk_eq_levels _ hcount, List.filterMap_flatMap]
  refine List.flatMap_congr fun level _ => ?_
  rw [filterMap_level, List.flatMap_map]
  exact (nestedAt_eq_flatMap level none ds).symm

theorem nestedTypes_eq_levels (ds : List Declaration) :
    nestedTypes ds = (List.range (countAll ds)).flatMap (nestedAt · none ds) :=
  nestedTypes_eq_levels_of_le (Nat.le_refl _)

end Declaration

/-! ## An arena, level by level -/

namespace Arena

open Declaration

/-- **Numbers are given out level by level.** The declarations of an arena in
the order of their numbers are the root, then its members, then the members
of these from left to right, and so on, however many levels more are looked
at than there are declarations. -/
theorem levelOrder_ofDeclaration (n : Declaration) :
    (ofDeclaration n).entries.toList.map Entry.id = List.range n.count ∧
      ∀ levels, n.count ≤ levels →
        (ofDeclaration n).entries.toList.map (fun entry => (ofDeclaration n).declaration? entry.id)
          = ((List.range levels).flatMap n.level).map some := by
  refine ⟨map_id_ofDeclaration n, fun levels hlevels => ?_⟩
  rw [← listing_eq_levels hlevels]
  refine List.ext_getElem? fun i => ?_
  have hentry := get?_ofDeclaration n i
  rw [get?, ← Array.getElem?_toList] at hentry
  rw [List.getElem?_map, hentry, List.getElem?_map, Option.map_map]
  simp only [Function.comp_def, id_entry, declaration?_ofDeclaration]
  rcases n.listing[i]? with - | d <;> rfl

end Arena

open Arena

/-- The state of a shop, with one declaration in it. -/
def shopState : Declaration :=
  .aggregate {} { kind := .structType, name := "State" } [.other {}]

/-- Its actions. -/
def shopAction : Declaration :=
  .aggregate {} { kind := .enumType, name := "Action" }
    [.enumCase {} { name := "opened" }, .enumCase {} { name := "closed" }]

/-- A struct with both. -/
def shopDeclaration : Declaration :=
  .aggregate {} { kind := .structType, name := "Shop" } [shopState, shopAction]

theorem shop_levelOrder :
    shopDeclaration.count ≤ 6 ∧
      (ofDeclaration shopDeclaration).entries.toList.map Entry.id = [0, 1, 2, 3, 4, 5] ∧
      (ofDeclaration shopDeclaration).entries.toList.map
          (fun entry => (ofDeclaration shopDeclaration).declaration? entry.id)
        = [some shopDeclaration, some shopState, some shopAction, some (.other {}),
          some (.enumCase {} { name := "opened" }), some (.enumCase {} { name := "closed" })] := by
  have hcount : shopDeclaration.count ≤ 6 := by decide
  obtain ⟨hids, hlevels⟩ := levelOrder_ofDeclaration shopDeclaration
  exact ⟨hcount, hids, hlevels 6 hcount⟩

end ActionRelay
