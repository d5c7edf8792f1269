import ActionRelay.Proofs.Declaration.Numbering
import Mathlib.Data.List.Nodup
/-!
# Declarations — an arena is a faithful copy

An arena can be read back: the declaration with a number is what is listed
there, with the numbers of its members replaced by the declarations they
stand for (`Arena.declaration?`). `Arena.copies_ofDeclaration` says that the
arena of a declaration is a copy of it: nothing is lost or added, every
number stands for one declaration with one parent, and reading the arena
back from its root gives the declaration again.
-/

namespace ActionRelay

/-! ## Reading back -/

namespace Arena

/-- The declaration with a number, if it has at most `levels` levels. -/
def readWithin (arena : Arena) : (levels : Nat) → DeclId → Option Declaration
  | 0, _ => none
  | levels + 1, id =>
    match arena.get? id with
    | none => none
    | some entry =>
      match entry.kind with
      | .aggregate head members =>
        (members.mapM (arena.readWithin levels)).map (.aggregate entry.site head)
      | .enumCase head => some (.enumCase entry.site head)
      | .other => some (.other entry.site)

/-- The declaration with a number. No declaration has more levels than the
arena has entries. -/
def declaration? (arena : Arena) (id : DeclId) : Option Declaration :=
  arena.readWithin arena.size id

end Arena

theorem mapM_eq_some_of_forall₂ {α β : Type} {f : α → Option β} {as : List α} {bs : List β}
    (h : List.Forall₂ (fun a b => f a = some b) as bs) : as.mapM f = some bs := by
  induction h with
  | nil => rfl
  | cons hfirst _ ih => simp [List.mapM_cons, hfirst, ih]

open Declaration

variable {n d : Declaration} {i : DeclId} {levels : ℕ}

/-- A member has fewer nodes than the aggregate it stands in. -/
theorem Declaration.count_lt_of_mem_members {member : Declaration} (h : member ∈ d.members) :
    member.count < d.count := by
  obtain ⟨before, after, hsplit⟩ := List.append_of_mem h
  rw [count_eq d, hsplit, countAll_append, countAll]
  omega

namespace Arena

/-- **Each number reads back** as the declaration that was listed under it,
provided that enough levels are read. -/
theorem readWithin_ofDeclaration (h : n.listing[i]? = some d) (hlevels : d.count ≤ levels) :
    (ofDeclaration n).readWithin levels i = some d := by
  -- members have fewer nodes, so one level less is enough for each of them
  induction levels generalizing i d with
  | zero =>
    rw [count_eq] at hlevels
    omega
  | succ levels ih =>
    rw [readWithin, get?_ofDeclaration, h, Option.map_some]
    rcases d with ⟨site, head, members⟩ | ⟨site, head⟩ | ⟨site⟩
    · have hmembers : (List.range' (n.memberStart i) members.length).mapM
          ((ofDeclaration n).readWithin levels) = some members := by
        obtain ⟨hlen, hlisted⟩ := List.forall₂_iff_zip.1 (forall₂_members h)
        refine mapM_eq_some_of_forall₂ (List.forall₂_iff_zip.2 ⟨hlen, fun hpair => ?_⟩)
        have hcount := count_lt_of_mem_members (d := .aggregate site head members)
          (List.of_mem_zip hpair).2
        exact ih (hlisted hpair) (by omega)
      simp only [entry, hmembers, Option.map_some]
    · rfl
    · rfl

/-- **The declaration with a number** is the one listed under it. -/
theorem declaration?_ofDeclaration (n : Declaration) (i : DeclId) :
    (ofDeclaration n).declaration? i = n.listing[i]? := by
  rw [declaration?, size_ofDeclaration]
  rcases h : n.listing[i]? with - | d
  · rw [count_eq n, readWithin, get?_ofDeclaration, h, Option.map_none]
  · exact readWithin_ofDeclaration h (count_le_of_getElem?_listing h)

/-! ## The copy -/

/-- What it means that an arena is a copy of a declaration. -/
structure Copies (arena : Arena) (d : Declaration) : Prop where
  /-- There are as many numbers as nodes. -/
  size_eq : arena.size = d.count
  /-- Each number stands for one entry, which knows it. -/
  id_eq : ∀ i < arena.size, ∃ entry, arena.get? i = some entry ∧ entry.id = i
  /-- The members of a declaration are in the arena, behind it. -/
  members_lt : ∀ i entry, arena.get? i = some entry →
    ∀ member ∈ entry.members, i < member ∧ member < arena.size
  /-- The root is no member, and every other declaration is one once. -/
  count_members : ∀ i : ℕ, (arena.entries.toList.flatMap Entry.members).count i
    = if 0 < i ∧ i < arena.size then 1 else 0
  /-- Nothing of the declaration is changed. -/
  declaration?_root : arena.declaration? Arena.root = some d

/-- **The arena of a declaration is a faithful copy of it.** -/
theorem copies_ofDeclaration (n : Declaration) : (ofDeclaration n).Copies n where
  size_eq := size_ofDeclaration n
  id_eq := by
    intro i hi
    rw [size_ofDeclaration, ← length_listing] at hi
    refine ⟨n.listing[i].entry i (n.memberStart i), ?_, id_entry⟩
    rw [get?_ofDeclaration, List.getElem?_eq_getElem hi, Option.map_some]
  members_lt := by
    intro i entry hentry member hmember
    rw [size_ofDeclaration]
    exact lt_of_mem_members hentry hmember
  count_members := by
    intro i
    have hmem : i ∈ List.range' 1 (n.count - 1) ↔ 0 < i ∧ i < n.count := by
      rw [List.mem_range'_1]
      omega
    rw [flatMap_members_ofDeclaration, size_ofDeclaration]
    split
    case isTrue h => exact List.count_eq_one_of_mem List.nodup_range' (hmem.2 h)
    case isFalse h => exact List.count_eq_zero.2 fun hi => h (hmem.1 hi)
  declaration?_root := by
    rw [declaration?_ofDeclaration]
    exact getElem?_listing_zero n

end Arena

end ActionRelay
