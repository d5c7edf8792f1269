import ActionRelay.ParameterNames
import Mathlib
/-!
# Parameter names — no two payloads share one

A name that has to be made is found by trying numbers, and more numbers
are tried than there are names in use, so what `freeName` returns is free
(`freeName_notMem`). Read slot by slot (`getElem?_parameterNames`), the
names of a case are the declared names that are kept, and free names for
all other payloads; hence two payloads share a name only where both declare
it (`keptName?_of_parameterNames_eq`), and exactly where both do and it is
kept (`getElem?_parameterNames_eq_iff`). `NamesFit` puts all of this into one
statement. A case has names unless some payload has neither a declared nor a
derived one (`parameterNames_isOk_iff`).
-/

namespace ActionRelay

variable {used reserved kept taken names : List String} {base name caseName : String}
variable {tries number index : ℕ} {naming : Naming} {slot : Slot} {slots : List Slot}

/-! ## Numbered names -/

/-- Different numbers make different names. -/
theorem append_repr_injective (base : String) :
    Function.Injective fun n : ℕ => base ++ Nat.repr n := by
  intro m n h
  have hdigits : Nat.toDigits 10 m = Nat.toDigits 10 n := by
    simpa using congrArg String.toList h
  have hread := congrArg (Nat.ofDigitChars 10 · 0) hdigits
  simpa only [Nat.ofDigitChars_ten_toDigits] using hread

/-- The search stops at the first number whose name is not in use, or
after `tries` numbers. -/
theorem exists_numberedName_eq (used : List String) (base : String) (tries number : ℕ) :
    ∃ k ≤ tries, numberedName used base tries number = base ++ Nat.repr (number + k) ∧
      (∀ j < k, base ++ Nat.repr (number + j) ∈ used) ∧
      (k < tries → base ++ Nat.repr (number + k) ∉ used) := by
  induction tries generalizing number with
  | zero => exact ⟨0, Nat.le_refl _, rfl, by simp, by simp⟩
  | succ tries ih =>
    by_cases hmem : base ++ Nat.repr number ∈ used
    · obtain ⟨k, hk, heq, hused, hfree⟩ := ih (number + 1)
      refine ⟨k + 1, by omega, ?_, ?_, ?_⟩
      · rw [numberedName, if_pos hmem, heq, show number + 1 + k = number + (k + 1) by omega]
      · intro j hj
        rcases j with - | j
        · exact hmem
        · rw [show number + (j + 1) = number + 1 + j by omega]
          exact hused j (by omega)
      · intro hlt
        rw [show number + (k + 1) = number + 1 + k by omega]
        exact hfree (by omega)
    · exact ⟨0, by omega, by rw [numberedName, if_neg hmem]; rfl, by simp, fun _ => hmem⟩

/-- Among `used.length + 1` numbered names one is not in use. -/
theorem exists_numbered_notMem (used : List String) (base : String) (number : ℕ) :
    ∃ k ≤ used.length, base ++ Nat.repr (number + k) ∉ used := by
  by_contra hall
  push Not at hall
  have hnodup : ((List.range (used.length + 1)).map
      fun k => base ++ Nat.repr (number + k)).Nodup := by
    refine List.Nodup.map_on ?_ List.nodup_range
    intro k _ l _ h
    have := append_repr_injective base h
    omega
  have hsub : ((List.range (used.length + 1)).map
      fun k => base ++ Nat.repr (number + k)) ⊆ used := by
    intro name hname
    obtain ⟨k, hk, rfl⟩ := List.mem_map.1 hname
    exact hall k (by have := List.mem_range.1 hk; omega)
  have hlen := hnodup.length_le_of_subset hsub
  simp only [List.length_map, List.length_range] at hlen
  omega

/-- **The search finds the first free number.** As many numbers are tried
as there are names in use, and the one after them is free if they are
all taken. -/
theorem numberedName_first (used : List String) (base : String) (number : ℕ) :
    ∃ k, numberedName used base used.length number = base ++ Nat.repr (number + k) ∧
      base ++ Nat.repr (number + k) ∉ used ∧
      ∀ j < k, base ++ Nat.repr (number + j) ∈ used := by
  obtain ⟨k, hk, heq, hused, hfree⟩ := exists_numberedName_eq used base used.length number
  refine ⟨k, heq, ?_, hused⟩
  obtain ⟨l, hl, hnot⟩ := exists_numbered_notMem used base number
  rcases Nat.lt_or_ge k used.length with hlt | hge
  · exact hfree hlt
  · -- all numbers below `k` are taken, so the free one is `k` itself
    have hkl : ¬ l < k := fun hlt => hnot (hused l hlt)
    rwa [show k = l by omega]

/-- A free name is free. -/
theorem freeName_notMem (used : List String) (base : String) (number : ℕ) :
    freeName used base number ∉ used := by
  rw [freeName]
  split
  · obtain ⟨k, heq, hnot, -⟩ := numberedName_first used base number
    rwa [heq]
  · assumption

/-! ## The name of one payload -/

/-- The declared name of a payload, where it is kept. -/
def Slot.keptName? (reserved : List String) (slot : Slot) : Option String :=
  slot.declaredName?.filter (· ∉ reserved)

theorem Slot.keptName?_eq_some :
    slot.keptName? reserved = some name ↔ slot.declaredName? = some name ∧ name ∉ reserved := by
  simp [keptName?, Option.filter_eq_some_iff]

theorem mem_keptNames :
    name ∈ keptNames reserved slots ↔ ∃ slot ∈ slots, slot.keptName? reserved = some name := by
  simp only [keptNames, List.mem_filter, List.mem_filterMap, decide_eq_true_eq,
    Slot.keptName?_eq_some]
  constructor
  · rintro ⟨⟨slot, hslot, hname⟩, hres⟩
    exact ⟨slot, hslot, hname, hres⟩
  · rintro ⟨slot, hslot, hname, hres⟩
    exact ⟨⟨slot, hslot, hname⟩, hres⟩

/-- **A payload keeps its declared name or gets a free one.** -/
theorem Slot.parameterName?_eq_some
    (h : slot.parameterName? index naming reserved kept taken = some name) :
    slot.keptName? reserved = some name ∨
      slot.keptName? reserved = none ∧ ∃ base, slot.name? index naming = some base ∧
        name = freeName (reserved ++ kept ++ taken) base index := by
  rw [parameterName?] at h
  rcases hdecl : slot.declaredName? with - | declared
  · simp only [hdecl, Option.map_eq_some_iff] at h
    obtain ⟨base, hbase, rfl⟩ := h
    exact Or.inr ⟨by rw [keptName?, hdecl]; rfl, base, by rw [name?, hdecl]; exact hbase, rfl⟩
  · simp only [hdecl, Option.some.injEq] at h
    by_cases hres : declared ∈ reserved
    · rw [if_pos hres] at h
      exact Or.inr ⟨by simp [keptName?, hdecl, hres], declared, by rw [name?, hdecl]; rfl, h.symm⟩
    · rw [if_neg hres] at h
      exact Or.inl (keptName?_eq_some.2 ⟨by rw [hdecl, h], h ▸ hres⟩)

/-- Only a payload without a name of its own has no parameter name. -/
theorem Slot.parameterName?_eq_none :
    slot.parameterName? index naming reserved kept taken = none ↔
      slot.name? index naming = none := by
  rw [parameterName?, name?]
  rcases slot.declaredName? with - | declared <;> simp

/-! ## The names of all payloads -/

/-- **The names, slot by slot.** There is one per payload, and each is the
name that its payload gets after the names before it. -/
theorem getElem?_nameSlots
    (h : nameSlots caseName naming reserved kept index taken slots = .ok names) :
    names.length = slots.length ∧
      ∀ (i : ℕ) (slot : Slot) (name : String), slots[i]? = some slot → names[i]? = some name →
        slot.parameterName? (index + i) naming reserved kept (taken ++ names.take i)
          = some name := by
  induction slots generalizing index taken names with
  | nil =>
    simp only [nameSlots, Except.ok.injEq] at h
    subst h
    exact ⟨rfl, by simp⟩
  | cons slot slots ih =>
    rw [nameSlots] at h
    rcases hname : slot.parameterName? index naming reserved kept taken with - | first
    · simp [hname] at h
    · simp only [hname] at h
      rcases hlater : nameSlots caseName naming reserved kept (index + 1) (taken ++ [first]) slots
        with d | later
      · simp [hlater, Except.map] at h
      · simp only [hlater, Except.map, Except.ok.injEq] at h
        subst h
        obtain ⟨hlen, hstep⟩ := ih hlater
        refine ⟨by simp [hlen], ?_⟩
        rintro (- | i) slot' name' hslot' hname'
        · simp only [List.getElem?_cons_zero, Option.some.injEq] at hslot' hname'
          subst hslot' hname'
          simpa using hname
        · simp only [List.getElem?_cons_succ] at hslot' hname'
          have := hstep i slot' name' hslot' hname'
          rwa [List.append_assoc, List.singleton_append, ← List.take_succ_cons,
            show index + 1 + i = index + (i + 1) by omega] at this

/-- Payloads can be named as long as each has a name by itself. -/
theorem nameSlots_isOk_iff :
    (∃ names, nameSlots caseName naming reserved kept index taken slots = .ok names) ↔
      ∀ (i : ℕ) (slot : Slot), slots[i]? = some slot → slot.name? (index + i) naming ≠ none := by
  induction slots generalizing index taken with
  | nil => simp [nameSlots]
  | cons slot slots ih =>
    rw [nameSlots]
    rcases hname : slot.parameterName? index naming reserved kept taken with - | first
    · simp only [reduceCtorEq, exists_false, false_iff]
      intro hall
      exact hall 0 slot rfl (Slot.parameterName?_eq_none.1 hname)
    · have hslot : slot.name? index naming ≠ none := by
        intro hnone
        simpa using hname.symm.trans (Slot.parameterName?_eq_none.2 hnone)
      have hmap : (∃ names, (nameSlots caseName naming reserved kept (index + 1)
            (taken ++ [first]) slots).map (first :: ·) = .ok names) ↔
          ∃ names, nameSlots caseName naming reserved kept (index + 1) (taken ++ [first]) slots
            = .ok names := by
        rcases nameSlots caseName naming reserved kept (index + 1) (taken ++ [first]) slots
          with d | later <;> simp [Except.map]
      rw [hmap, ih]
      constructor
      · rintro hall (- | i) slot' hslot'
        · simp only [List.getElem?_cons_zero, Option.some.injEq] at hslot'
          exact hslot' ▸ hslot
        · rw [show index + (i + 1) = index + 1 + i by omega]
          exact hall i slot' hslot'
      · intro hall i slot' hslot'
        rw [show index + 1 + i = index + (i + 1) by omega]
        exact hall (i + 1) slot' hslot'

/-- Whether some payload has no name by itself: it declares none, and none
can be made from its type. -/
def Unnameable (naming : Naming) (slots : List Slot) : Prop :=
  ∃ (index : ℕ) (slot : Slot), slots[index]? = some slot ∧ slot.name? index naming = none

/-- **A case has names unless a payload is unnameable.** Collisions never
stand in the way. -/
theorem parameterNames_isOk_iff :
    (∃ names, parameterNames caseName slots naming reserved = .ok names) ↔
      ¬ Unnameable naming slots := by
  simp [parameterNames, nameSlots_isOk_iff, Unnameable]

theorem length_parameterNames (h : parameterNames caseName slots naming reserved = .ok names) :
    names.length = slots.length :=
  (getElem?_nameSlots h).1

/-- A payload's name is the declared one where that is kept, and else a
name that is not reserved, not kept anywhere in the case and not given
before. -/
theorem getElem?_parameterNames (h : parameterNames caseName slots naming reserved = .ok names)
    {i : ℕ} (hslot : slots[i]? = some slot) (hname : names[i]? = some name) :
    slot.keptName? reserved = some name ∨
      slot.keptName? reserved = none ∧ name ∉ reserved ∧ name ∉ keptNames reserved slots ∧
        name ∉ names.take i := by
  have hgiven := (getElem?_nameSlots h).2 i slot name hslot hname
  refine (Slot.parameterName?_eq_some hgiven).imp_right ?_
  rintro ⟨hkept, base, -, rfl⟩
  have hfree := freeName_notMem (reserved ++ keptNames reserved slots ++ ([] ++ names.take i)) base
    (0 + i)
  simp only [List.mem_append, not_or] at hfree
  exact ⟨hkept, hfree.1.1, hfree.1.2, hfree.2.2⟩

/-- No payload has a reserved name. -/
theorem parameterNames_notMem_reserved
    (h : parameterNames caseName slots naming reserved = .ok names) (hname : name ∈ names) :
    name ∉ reserved := by
  obtain ⟨i, hi⟩ := List.mem_iff_getElem?.1 hname
  have hlt : i < slots.length := by
    rw [← length_parameterNames h]
    exact (List.getElem?_eq_some_iff.1 hi).1
  rcases getElem?_parameterNames h (List.getElem?_eq_getElem hlt) hi with hkept | hfree
  · exact (Slot.keptName?_eq_some.1 hkept).2
  · exact hfree.2.1

/-- Where a later payload has the name of an earlier one, both declare it:
a free name is none of those given before, and a kept one is no free
one. -/
theorem keptName?_of_parameterNames_eq
    (h : parameterNames caseName slots naming reserved = .ok names) {i j : ℕ} (hij : i < j)
    {first second : Slot} (hfirst : slots[i]? = some first) (hsecond : slots[j]? = some second)
    (hi : names[i]? = some name) (hj : names[j]? = some name) :
    first.keptName? reserved = some name ∧ second.keptName? reserved = some name := by
  rcases getElem?_parameterNames h hsecond hj with hkept | ⟨-, -, -, hfree⟩
  · refine ⟨?_, hkept⟩
    rcases getElem?_parameterNames h hfirst hi with hkept' | ⟨-, -, hfree, -⟩
    · exact hkept'
    · exact absurd (mem_keptNames.2 ⟨second, List.mem_of_getElem? hsecond, hkept⟩) hfree
  · exact absurd (List.mem_iff_getElem?.2 ⟨i, by rw [List.getElem?_take_of_lt hij, hi]⟩) hfree

/-- A name that is kept is given. -/
theorem getElem?_of_keptName? (h : parameterNames caseName slots naming reserved = .ok names)
    {i : ℕ} (hslot : slots[i]? = some slot) (hkept : slot.keptName? reserved = some name) :
    names[i]? = some name := by
  have hi : i < names.length :=
    length_parameterNames h ▸ (List.getElem?_eq_some_iff.1 hslot).1
  have hname := List.getElem?_eq_getElem hi
  rcases getElem?_parameterNames h hslot hname with hkept' | ⟨hnone, -⟩
  · rw [hname, ← hkept', hkept]
  · cases hnone.symm.trans hkept

/-- **Two payloads share a name if and only if both keep it.** -/
theorem getElem?_parameterNames_eq_iff
    (h : parameterNames caseName slots naming reserved = .ok names) {i j : ℕ} (hij : i ≠ j)
    {first second : Slot} (hfirst : slots[i]? = some first) (hsecond : slots[j]? = some second) :
    names[i]? = names[j]? ↔
      ∃ name, first.keptName? reserved = some name ∧ second.keptName? reserved = some name := by
  have hlen := length_parameterNames h
  have hi : i < names.length := hlen ▸ (List.getElem?_eq_some_iff.1 hfirst).1
  have hj : j < names.length := hlen ▸ (List.getElem?_eq_some_iff.1 hsecond).1
  have hnamei := List.getElem?_eq_getElem hi
  have hnamej := List.getElem?_eq_getElem hj
  constructor
  · intro heq
    rcases Nat.lt_or_gt_of_ne hij with hlt | hlt
    · exact ⟨_, keptName?_of_parameterNames_eq h hlt hfirst hsecond (heq.trans hnamej) hnamej⟩
    · obtain ⟨hkeptj, hkepti⟩ :=
        keptName?_of_parameterNames_eq h hlt hsecond hfirst (heq.symm.trans hnamei) hnamei
      exact ⟨_, hkepti, hkeptj⟩
  · rintro ⟨name, hkepti, hkeptj⟩
    rw [getElem?_of_keptName? h hfirst hkepti, getElem?_of_keptName? h hsecond hkeptj]

theorem keptNames_eq_filterMap :
    keptNames reserved slots = slots.filterMap (Slot.keptName? reserved) :=
  List.filter_filterMap

/-- **Names are distinct where the kept ones are.** -/
theorem nodup_parameterNames_iff (h : parameterNames caseName slots naming reserved = .ok names) :
    names.Nodup ↔ (keptNames reserved slots).Nodup := by
  have hlen := length_parameterNames h
  have heq : ∀ (i j : ℕ) (hi : i < slots.length) (hj : j < slots.length), i < j →
      (names[i]? = names[j]? ↔ ∃ name, slots[i].keptName? reserved = some name ∧
        slots[j].keptName? reserved = some name) := by
    intro i j hi hj hij
    exact getElem?_parameterNames_eq_iff h (Nat.ne_of_lt hij) (List.getElem?_eq_getElem hi)
      (List.getElem?_eq_getElem hj)
  rw [keptNames_eq_filterMap, List.nodup_iff_pairwise_ne, List.nodup_iff_pairwise_ne,
    List.pairwise_filterMap, List.pairwise_iff_getElem, List.pairwise_iff_getElem]
  constructor
  · intro hdistinct i j hi hj hij name hname name' hname' hsame
    subst hsame
    have hgiven := (heq i j hi hj hij).2 ⟨name, hname, hname'⟩
    rw [List.getElem?_eq_getElem (hlen ▸ hi), List.getElem?_eq_getElem (hlen ▸ hj),
      Option.some.injEq] at hgiven
    exact hdistinct i j (hlen ▸ hi) (hlen ▸ hj) hij hgiven
  · intro hkept i j hi hj hij hsame
    have hgiven : names[i]? = names[j]? := by
      rw [List.getElem?_eq_getElem hi, List.getElem?_eq_getElem hj, hsame]
    obtain ⟨name, hname, hname'⟩ := (heq i j (hlen ▸ hi) (hlen ▸ hj) hij).1 hgiven
    exact hkept i j (hlen ▸ hi) (hlen ▸ hj) hij name hname name hname' rfl

/-- So they are where all declared names are. -/
theorem nodup_parameterNames (h : parameterNames caseName slots naming reserved = .ok names)
    (hdeclared : (slots.filterMap Slot.declaredName?).Nodup) : names.Nodup :=
  (nodup_parameterNames_iff h).2 (hdeclared.filter _)

/-! ## Names that fit their payloads -/

/-- **What the names of a case promise** to whoever binds the payloads under
them. -/
structure NamesFit (reserved : List String) (slots : List Slot) (names : List String) : Prop where
  /-- There is one for each payload. -/
  length_eq : names.length = slots.length
  notMem_reserved : ∀ name ∈ names, name ∉ reserved
  /-- A declared name is given to its payload, unless it is reserved. -/
  getElem?_eq : ∀ (i : ℕ) (slot : Slot) (name : String), slots[i]? = some slot →
    slot.declaredName? = some name → name ∉ reserved → names[i]? = some name
  /-- Two payloads have the same name only by declaring it. -/
  eq_iff : ∀ (i j : ℕ) (first second : Slot), i ≠ j → slots[i]? = some first →
    slots[j]? = some second →
    (names[i]? = names[j]? ↔ ∃ name, first.declaredName? = some name ∧
      second.declaredName? = some name ∧ name ∉ reserved)
  nodup_iff : names.Nodup ↔ (keptNames reserved slots).Nodup

/-- **The names of a case fit its payloads**, however they are declared and
whatever is reserved. -/
theorem namesFit_parameterNames
    (h : parameterNames caseName slots naming reserved = .ok names) :
    NamesFit reserved slots names where
  length_eq := length_parameterNames h
  notMem_reserved := fun _ hname => parameterNames_notMem_reserved h hname
  getElem?_eq := by
    intro i slot name hslot hdeclared hfree
    exact getElem?_of_keptName? h hslot (Slot.keptName?_eq_some.2 ⟨hdeclared, hfree⟩)
  eq_iff := by
    intro i j first second hij hfirst hsecond
    rw [getElem?_parameterNames_eq_iff h hij hfirst hsecond]
    simp only [Slot.keptName?_eq_some]
    constructor
    · rintro ⟨name, ⟨hdeclared, hfree⟩, hdeclared', -⟩
      exact ⟨name, hdeclared, hdeclared', hfree⟩
    · rintro ⟨name, hdeclared, hdeclared', hfree⟩
      exact ⟨name, ⟨hdeclared, hfree⟩, hdeclared', hfree⟩
  nodup_iff := nodup_parameterNames_iff h

/-- The payloads of a case: one declares a reserved name, two declare none
and have one type, and two declare the same name. -/
def sharingSlots : List Slot :=
  [{ label := some "state", type := .plain ["Int"] }, { type := .plain ["Int"] },
    { type := .plain ["Int"] }, { label := some "of", bind := some "id", type := .plain ["Text"] },
    { label := some "id", type := .tuple [] }]

theorem sharingSlots_namesFit :
    parameterNames "load" sharingSlots .typeDerived ["state", "actionDelegate"]
      = .ok ["state0", "int", "int2", "id", "id"] ∧
    NamesFit ["state", "actionDelegate"] sharingSlots ["state0", "int", "int2", "id", "id"] := by
  have hnames : parameterNames "load" sharingSlots .typeDerived ["state", "actionDelegate"]
      = .ok ["state0", "int", "int2", "id", "id"] := by cbv
  exact ⟨hnames, namesFit_parameterNames hnames⟩

end ActionRelay
