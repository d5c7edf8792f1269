import ActionRelay.Proofs.ParameterNames
/-!
# Parameter names — the search for a free one

Where a payload cannot keep a declared name, names are tried one after
another: the base, then the base with the next number behind it, and again
as long as the name is in use. `NameSearch.Ends` is this loop without any
bound on its rounds. It ends, with what `freeName` returns
(`NameSearch.ends_freeName`), and it ends with the first free name
(`NameSearch.Ends.firstFree`).

The payloads are named in their order, and what is in use changes with each
of them. `namesBefore_succ` is one round of that loop, and
`namesBefore_firstFree` says which name the round gives.
-/

namespace ActionRelay

variable {used reserved given names : List String} {base name caseName : String}
variable {number index : ℕ} {naming : Naming} {slot : Slot} {slots : List Slot}

/-! ## One search -/

/-- The state of a search: the name that is tried, and the number that comes
next. -/
structure NameSearch where
  name : String
  number : ℕ

namespace NameSearch

/-- One round: the number is put behind the base. -/
def next (base : String) (search : NameSearch) : NameSearch where
  name := base ++ Nat.repr search.number
  number := search.number + 1

/-- **How a search ends** among the names `used`. -/
inductive Ends (used : List String) (base : String) : NameSearch → String → Prop
  /-- A free name is taken. -/
  | free {search : NameSearch} : search.name ∉ used → Ends used base search search.name
  /-- After a name in use the next one is tried. -/
  | inUse {search : NameSearch} {name : String} :
      search.name ∈ used → Ends used base (search.next base) name → Ends used base search name

/-- **The first free name** from a number on: the base, or else the base with
the least number behind it that makes it free. -/
inductive FirstFree (used : List String) (base : String) (number : ℕ) : String → Prop
  | base : base ∉ used → FirstFree used base number base
  | numbered {least : ℕ} : base ∈ used → number ≤ least → base ++ Nat.repr least ∉ used →
      (∀ other, number ≤ other → other < least → base ++ Nat.repr other ∈ used) →
      FirstFree used base number (base ++ Nat.repr least)

/-- A search ends with one name. -/
theorem Ends.unique {search : NameSearch} {name' : String} (h : Ends used base search name)
    (h' : Ends used base search name') : name = name' := by
  induction h with
  | free hfree =>
    cases h' with
    | free _ => rfl
    | inUse hused _ => exact absurd hused hfree
  | inUse hused _ ih =>
    cases h' with
    | free hfree => exact absurd hused hfree
    | inUse _ hlater => exact ih hlater

/-- A search goes past numbers in use up to the first one that is not. -/
theorem ends_of_inUse {k : ℕ} (hused : ∀ j < k, base ++ Nat.repr (number + j) ∈ used)
    (hfree : base ++ Nat.repr (number + k) ∉ used) :
    Ends used base ⟨base ++ Nat.repr number, number + 1⟩ (base ++ Nat.repr (number + k)) := by
  induction k generalizing number with
  | zero => exact .free hfree
  | succ k ih =>
    have hshift : ∀ j, number + 1 + j = number + (j + 1) := fun j => by omega
    have hlater := @ih (number + 1) (fun j hj => hshift j ▸ hused (j + 1) (by omega))
      (hshift k ▸ hfree)
    rw [hshift k] at hlater
    exact .inUse (hused 0 (by omega)) hlater

/-- **Every search ends**, with the name that `freeName` returns. -/
theorem ends_freeName (used : List String) (base : String) (number : ℕ) :
    Ends used base ⟨base, number⟩ (freeName used base number) := by
  rw [freeName]
  split
  case isTrue hbase =>
    obtain ⟨k, heq, hfree, hused⟩ := numberedName_first used base number
    rw [heq]
    exact .inUse hbase (ends_of_inUse hused hfree)
  case isFalse hbase => exact .free hbase

/-- From a numbered name on, a search ends with the least number that makes
the name free. -/
theorem Ends.exists_least {search : NameSearch} (h : Ends used base search name)
    (hsearch : search = ⟨base ++ Nat.repr number, number + 1⟩) :
    ∃ least, number ≤ least ∧ name = base ++ Nat.repr least ∧ name ∉ used ∧
      ∀ other, number ≤ other → other < least → base ++ Nat.repr other ∈ used := by
  induction h generalizing number with
  | free hfree =>
    subst hsearch
    exact ⟨number, le_rfl, rfl, hfree, fun other hle hlt => by omega⟩
  | inUse hused _ ih =>
    subst hsearch
    obtain ⟨least, hle, hname, hfree, hothers⟩ := @ih (number + 1) rfl
    refine ⟨least, by omega, hname, hfree, fun other hother hlt => ?_⟩
    rcases eq_or_lt_of_le hother with rfl | hlater
    · exact hused
    · exact hothers other hlater hlt

/-- **A search ends with the first free name.** -/
theorem Ends.firstFree (h : Ends used base ⟨base, number⟩ name) :
    FirstFree used base number name := by
  cases h with
  | free hfree => exact .base hfree
  | inUse hused hlater =>
    obtain ⟨least, hle, rfl, hfree, hothers⟩ := hlater.exists_least rfl
    exact .numbered hused hle hfree hothers

end NameSearch

open NameSearch

/-! ## All payloads -/

/-- The names of the payloads before the position `index`, where the kept
names of all payloads are in use. -/
def namesBefore (caseName : String) (slots : List Slot) (naming : Naming) (reserved : List String)
    (index : ℕ) : Except Diagnostic (List String) :=
  nameSlots caseName naming reserved (keptNames reserved slots) 0 [] (slots.take index)

theorem namesBefore_length (caseName : String) (slots : List Slot) (naming : Naming)
    (reserved : List String) :
    namesBefore caseName slots naming reserved slots.length
      = parameterNames caseName slots naming reserved := by
  rw [namesBefore, List.take_length, parameterNames]

/-- Payloads are named after those before them. -/
theorem nameSlots_append {kept taken : List String} (later : List Slot)
    (h : nameSlots caseName naming reserved kept index taken slots = .ok given) :
    nameSlots caseName naming reserved kept index taken (slots ++ later)
      = (nameSlots caseName naming reserved kept (index + slots.length) (taken ++ given) later).map
          (given ++ ·) := by
  induction slots generalizing index taken given with
  | nil =>
    obtain rfl := Except.ok.inj h
    rw [List.nil_append, List.length_nil, Nat.add_zero, List.append_nil]
    rcases nameSlots caseName naming reserved kept index taken later with d | names <;> rfl
  | cons slot slots ih =>
    rw [nameSlots] at h
    rcases hname : slot.parameterName? index naming reserved kept taken with - | name
    · simp [hname] at h
    simp only [hname] at h
    rcases hrest : nameSlots caseName naming reserved kept (index + 1) (taken ++ [name]) slots
      with d | rest
    · simp [hrest, Except.map] at h
    · simp only [hrest, Except.map, Except.ok.injEq] at h
      subst h
      rw [List.cons_append, nameSlots, hname]
      simp only [ih hrest, List.length_cons, List.append_assoc, List.singleton_append,
        Nat.add_assoc, Nat.add_comm 1]
      rcases nameSlots caseName naming reserved kept (index + (slots.length + 1))
        (taken ++ name :: rest) later with d | names <;> rfl

/-- **One round**: the payload at `index` gets its name after those before
it. -/
theorem namesBefore_succ (hslot : slots[index]? = some slot)
    (hgiven : namesBefore caseName slots naming reserved index = .ok given)
    (hname : slot.parameterName? index naming reserved (keptNames reserved slots) given
      = some name) :
    namesBefore caseName slots naming reserved (index + 1) = .ok (given ++ [name]) := by
  have hlt := (List.getElem?_eq_some_iff.1 hslot).1
  rw [namesBefore, List.take_add_one, hslot, Option.toList_some, nameSlots_append [slot] hgiven,
    List.length_take, Nat.min_eq_left hlt.le, Nat.zero_add, List.nil_append, nameSlots, hname]
  rfl

/-- The names of the first payloads come first among all names. -/
theorem prefix_of_parameterNames
    (hgiven : namesBefore caseName slots naming reserved index = .ok given)
    (h : parameterNames caseName slots naming reserved = .ok names) : given <+: names := by
  have happend := nameSlots_append (slots.drop index) hgiven
  rw [List.take_append_drop, ← parameterNames, h] at happend
  rcases hlater : nameSlots caseName naming reserved (keptNames reserved slots)
    (0 + (slots.take index).length) ([] ++ given) (slots.drop index) with d | later
  · rw [hlater] at happend
    cases happend
  · rw [hlater] at happend
    exact ⟨later, (Except.ok.inj happend).symm⟩

/-- **A payload gets the first free name**, unless it keeps a declared one.
Whenever the payloads before the position `index` have been named, with the
names `given`, and the payload there has a name by itself, it is named too:
a declared name that is not reserved is kept; for any other name the search
ends, and it ends with the first name that is neither reserved nor kept by
any payload of the case nor given before. -/
theorem namesBefore_firstFree (hslot : slots[index]? = some slot)
    (hgiven : namesBefore caseName slots naming reserved index = .ok given)
    (hbase : slot.name? index naming = some base) :
    ∃ name, namesBefore caseName slots naming reserved (index + 1) = .ok (given ++ [name]) ∧
      (∀ declared, slot.declaredName? = some declared → declared ∉ reserved → name = declared) ∧
      ((∀ declared, slot.declaredName? = some declared → declared ∈ reserved) →
        Ends (reserved ++ keptNames reserved slots ++ given) base ⟨base, index⟩ name ∧
        FirstFree (reserved ++ keptNames reserved slots ++ given) base index name) ∧
      ∀ names, parameterNames caseName slots naming reserved = .ok names →
        given ++ [name] <+: names := by
  rcases hname : slot.parameterName? index naming reserved (keptNames reserved slots) given
    with - | name
  · cases hbase.symm.trans (Slot.parameterName?_eq_none.1 hname)
  have hnext := namesBefore_succ hslot hgiven hname
  refine ⟨name, hnext, ?_, ?_, fun names h => prefix_of_parameterNames hnext h⟩
  · intro declared hdeclared hfree
    have hkept := Slot.keptName?_eq_some.2 ⟨hdeclared, hfree⟩
    rcases Slot.parameterName?_eq_some hname with hkept' | ⟨hnone, -⟩
    · exact Option.some.inj (hkept'.symm.trans hkept)
    · cases hnone.symm.trans hkept
  · intro hreserved
    rcases Slot.parameterName?_eq_some hname with hkept | ⟨-, base', hbase', rfl⟩
    · obtain ⟨hdeclared, hfree⟩ := Slot.keptName?_eq_some.1 hkept
      exact absurd (hreserved name hdeclared) hfree
    · obtain rfl := Option.some.inj (hbase.symm.trans hbase')
      have hends := ends_freeName (reserved ++ keptNames reserved slots ++ given) base index
      exact ⟨hends, hends.firstFree⟩

/-- The third payload is of a type whose name is in use, and so it gets its
position as a number. -/
theorem sharingSlots_firstFree :
    namesBefore "load" sharingSlots .typeDerived ["state", "actionDelegate"] 2
        = .ok ["state0", "int"] ∧
      FirstFree (["state", "actionDelegate"] ++ ["id", "id"] ++ ["state0", "int"]) "int" 2
        "int2" := by
  have hgiven : namesBefore "load" sharingSlots .typeDerived ["state", "actionDelegate"] 2
      = .ok ["state0", "int"] := by cbv
  have hslot : sharingSlots[2]? = some { type := .plain ["Int"] } := rfl
  have hbase : Slot.name? { type := .plain ["Int"] } 2 .typeDerived = some "int" := by cbv
  obtain ⟨name, hnext, -, hsearch, -⟩ := namesBefore_firstFree hslot hgiven hbase
  have hthree : namesBefore "load" sharingSlots .typeDerived ["state", "actionDelegate"] 3
      = .ok ["state0", "int", "int2"] := by cbv
  obtain rfl : name = "int2" := by simpa [hthree] using hnext.symm
  exact ⟨hgiven, (hsearch (by simp [Slot.declaredName?])).2⟩

end ActionRelay
