import ActionRelay.Proofs.Declaration.Copy
import ActionRelay.Proofs.Declaration.Levels
import Mathlib
/-!
# Declarations — chains of nested aggregates

A nested aggregate is known by the chain that leads to it: the aggregates
that it stands in, one inside the other (`Chain`). The chains of one length,
from left to right, are one level of the nested types
(`nestedAt_eq_map_chains`), so the nested types of a declaration are the
dotted names of its chains, the shorter ones first
(`Arena.nestedTypes_eq_chains`).
-/

namespace ActionRelay

namespace Declaration

/-! ## Chains -/

/-- The name of an aggregate; no other declaration has one. -/
def aggregateName? : Declaration → Option String
  | .aggregate _ head _ => some head.name
  | _ => none

theorem nestedName?_eq_map (parent : Option String) (d : Declaration) :
    d.nestedName? parent = d.aggregateName?.map (nestedName parent) := by
  cases d <;> rfl

/-- **A chain below a declaration**: from one member to a member of it, by
their positions, through aggregates of the given names. -/
inductive Chain : (d : Declaration) → (positions : List ℕ) → (names : List String) → Prop
  | nil (d : Declaration) : Chain d [] []
  | cons {d member : Declaration} {k : ℕ} {name : String} {positions : List ℕ}
      {names : List String} :
      d.members[k]? = some member → member.aggregateName? = some name →
      Chain member positions names → Chain d (k :: positions) (name :: names)

/-- The chains of a length below a declaration, from left to right. -/
def chains : (length : ℕ) → (d : Declaration) → List (List ℕ × List String)
  | 0, _ => [([], [])]
  | length + 1, d =>
    d.members.zipIdx.flatMap fun (member, k) =>
      member.aggregateName?.toList.flatMap fun name =>
        (chains length member).map fun (positions, names) => (k :: positions, name :: names)

variable {d : Declaration} {positions : List ℕ} {names : List String} {length : ℕ}

theorem Chain.length_eq (h : d.Chain positions names) : positions.length = names.length := by
  induction h with
  | nil => rfl
  | cons _ _ _ ih => rw [List.length_cons, List.length_cons, ih]

/-- **All chains of the length are listed**, and nothing else. -/
theorem mem_chains_iff :
    (positions, names) ∈ d.chains length ↔ positions.length = length ∧ d.Chain positions names := by
  induction length generalizing d positions names with
  | zero =>
    rw [chains, List.mem_singleton, Prod.mk.injEq, List.length_eq_zero_iff]
    constructor
    · rintro ⟨rfl, rfl⟩
      exact ⟨rfl, .nil d⟩
    · rintro ⟨rfl, hchain⟩
      cases hchain
      exact ⟨rfl, rfl⟩
  | succ length ih =>
    simp only [chains, List.mem_flatMap, List.mem_map, Option.mem_toList]
    constructor
    · rintro ⟨⟨member, k⟩, hmember, name, hname, ⟨positions', names'⟩, hinside, heq⟩
      obtain ⟨rfl, rfl⟩ := Prod.mk.inj heq
      obtain ⟨hlength, hchain⟩ := ih.1 hinside
      rw [List.mem_zipIdx_iff_getElem?] at hmember
      exact ⟨by rw [List.length_cons, hlength], .cons hmember hname hchain⟩
    · rintro ⟨hlength, hchain⟩
      cases hchain with
      | nil => cases hlength
      | @cons _ member k name positions names hmember hname hchain =>
        have hinside := ih.2 ⟨Nat.succ.inj hlength, hchain⟩
        exact ⟨(member, k), List.mem_zipIdx_iff_getElem?.2 hmember, name, hname,
          (positions, names), hinside, rfl⟩

/-- **Chains are listed from left to right**: the first position in which two
of them differ decides. -/
theorem pairwise_chains (length : ℕ) (d : Declaration) :
    (d.chains length).Pairwise fun c c' => c.1 < c'.1 := by
  induction length generalizing d with
  | zero => exact List.pairwise_singleton _ _
  | succ length ih =>
    have hascending : d.members.zipIdx.Pairwise fun x y => x.2 < y.2 := by
      rw [← List.pairwise_map, List.zipIdx_map_snd]
      exact List.pairwise_lt_range' 1
    rw [chains, List.pairwise_flatMap]
    constructor
    · rintro ⟨member, k⟩ -
      rcases hname : member.aggregateName? with - | name
      · simp [hname]
      · simp only [hname, Option.toList_some, List.flatMap_singleton, List.pairwise_map]
        refine (ih member).imp fun hlt => ?_
        exact List.cons_lt_cons_iff.2 (Or.inr ⟨rfl, hlt⟩)
    · refine hascending.imp ?_
      rintro ⟨member, k⟩ ⟨member', k'⟩ hlt c hc c' hc'
      simp only [List.mem_flatMap, List.mem_map] at hc hc'
      obtain ⟨name, -, inside, -, rfl⟩ := hc
      obtain ⟨name', -, inside', -, rfl⟩ := hc'
      exact List.cons_lt_cons_iff.2 (Or.inl hlt)

/-! ## Chains and levels -/

/-- The name of what the names lead to, below `parent` if there is one. -/
def dottedBelow (parent : Option String) (names : List String) : String :=
  String.intercalate "." (parent.toList ++ names)

/-- The first name of a chain can be counted with the parent. -/
theorem dottedBelow_nestedName (parent : Option String) (name : String) (names : List String) :
    dottedBelow (some (nestedName parent name)) names = dottedBelow parent (name :: names) := by
  rcases parent with - | parent
  · rfl
  · simp [dottedBelow, nestedName]

/-- Positions left out, the chains go through the members one by one. -/
theorem map_snd_chains_succ (length : ℕ) (d : Declaration) :
    (d.chains (length + 1)).map Prod.snd = d.members.flatMap fun member =>
      member.aggregateName?.toList.flatMap fun name =>
        ((member.chains length).map Prod.snd).map (name :: ·) := by
  conv_rhs => rw [← List.zipIdx_map_fst 0 d.members, List.flatMap_map]
  simp only [chains, List.map_flatMap, List.map_map]
  rfl

/-- **A level of the nested types** is made of the chains of one length. -/
theorem nestedAt_eq_map_chains (level : ℕ) (parent : Option String) (d : Declaration) :
    nestedAt level parent d.members
      = ((d.chains (level + 1)).map Prod.snd).map (dottedBelow parent) := by
  induction level generalizing parent d with
  | zero =>
    rw [nestedAt, map_snd_chains_succ, List.filterMap_eq_flatMap_toList, List.map_flatMap]
    refine List.flatMap_congr fun member _ => ?_
    rw [nestedName?_eq_map]
    rcases member.aggregateName? with - | name
    · rfl
    · have hlast := dottedBelow_nestedName parent name []
      simpa [chains, dottedBelow] using hlast
  | succ level ih =>
    rw [nestedAt, map_snd_chains_succ, List.map_flatMap]
    refine List.flatMap_congr fun member _ => ?_
    rw [ih, nestedName?_eq_map]
    rcases hname : member.aggregateName? with - | name
    · -- only an aggregate has members
      have hmembers : member.members = [] := by
        cases member with
        | aggregate => cases hname
        | _ => rfl
      simp [map_snd_chains_succ, hmembers]
    · simp only [Option.map_some, Option.toList_some, List.flatMap_singleton, List.map_map]
      refine List.map_congr_left fun c _ => ?_
      exact dottedBelow_nestedName parent name c.2

/-! ## The names of chains -/

/-- **The nested types of a declaration** are the names of its chains, the
shorter ones first. -/
theorem nestedTypes_eq_flatMap_chains {levels : ℕ} (h : d.count ≤ levels) :
    nestedTypes d.members = (List.range levels).flatMap fun k =>
      (d.chains (k + 1)).map fun c => String.intercalate "." c.2 := by
  have hcount := d.count_eq
  rw [nestedTypes_eq_levels_of_le (by omega : countAll d.members ≤ levels)]
  refine List.flatMap_congr fun level _ => ?_
  rw [nestedAt_eq_map_chains, List.map_map]
  rfl

/-- There are as many names as there are aggregates among all that stands in
a declaration. -/
theorem length_nestedTypes (ds : List Declaration) :
    (nestedTypes ds).length = ((breadthFirst ds).filterMap aggregateName?).length := by
  have hds : (ds.map ((none : Option String), ·)).map Prod.snd = ds := by
    simp [Function.comp_def]
  have hwalk := map_snd_walk (fun parent d => d.nestedName? parent) (ds.map (none, ·))
  rw [hds] at hwalk
  rw [nestedTypes, List.length_filterMap_eq_countP, List.length_filterMap_eq_countP, ← hwalk,
    List.countP_map]
  refine List.countP_congr fun x _ => ?_
  simp [nestedName?_eq_map]

end Declaration

namespace Arena

open Declaration

/-! ## Nested aggregates -/

/-- Whether the declaration number `inner` is an aggregate with the given
head that stands in the one number `id`, at any depth. -/
structure Nests (arena : Arena) (id inner : DeclId) (head : Aggregate) : Prop where
  below : arena.Below id inner
  ne : inner ≠ id
  found : ∃ entry members, arena.get? inner = some entry ∧ entry.aggregate? = some (head, members)

variable {n d : Declaration} {i inner : DeclId} {entry : Entry} {head : Aggregate}

/-- Apart from the declaration itself, its subtree lists what stands in
it. -/
theorem exists_subtree_eq_cons (hd : n.listing[i]? = some d) :
    ∃ first rest, (ofDeclaration n).subtree i = first :: rest ∧ first.id = i ∧
      List.Forall₂ n.Lists rest (breadthFirst d.members) := by
  have hlists := forall₂_subtree hd
  rw [listing, breadthFirst, List.nil_append] at hlists
  obtain ⟨first, rest, -, hrest, hsubtree⟩ := List.forall₂_cons_right_iff.1 hlists
  have hids := map_id_subtree hd
  rw [hsubtree, List.map_cons] at hids
  exact ⟨first, rest, hsubtree, (List.cons.inj hids).1, hrest⟩

/-- A nested aggregate is an entry of the subtree, behind the first. -/
theorem nests_iff_mem {first : Entry} {rest : List Entry} (hd : n.listing[i]? = some d)
    (hsubtree : (ofDeclaration n).subtree i = first :: rest) (hfirst : first.id = i) :
    (∃ head, (ofDeclaration n).Nests i inner head) ↔
      inner ∈ (rest.filter fun entry => entry.aggregate?.isSome).map Entry.id := by
  constructor
  · rintro ⟨head, hbelow, hne, entry, members, hget, hhead⟩
    obtain ⟨d', -, hentry⟩ := exists_listing_of_get? hget
    obtain rfl : entry.id = inner := by rw [hentry, id_entry]
    have hmem := (mem_subtree_iff hd).2 ⟨hget, hbelow⟩
    rw [hsubtree] at hmem
    rcases List.mem_cons.1 hmem with rfl | hmem
    · exact absurd hfirst hne
    · have hsome : entry.aggregate?.isSome = true := by rw [hhead, Option.isSome_some]
      exact List.mem_map_of_mem (List.mem_filter.2 ⟨hmem, hsome⟩)
  · intro h
    obtain ⟨entry, hfound, rfl⟩ := List.mem_map.1 h
    obtain ⟨hmem, hsome⟩ := List.mem_filter.1 hfound
    obtain ⟨⟨head, members⟩, hhead⟩ := Option.isSome_iff_exists.1 hsome
    have hascending := pairwise_id_subtree hd
    rw [hsubtree] at hascending
    have hlt : first.id < entry.id := List.rel_of_pairwise_cons hascending hmem
    have hsub : entry ∈ (ofDeclaration n).subtree i := hsubtree ▸ List.mem_cons_of_mem first hmem
    obtain ⟨hget, hbelow⟩ := (mem_subtree_iff hd).1 hsub
    exact ⟨head, hbelow, Nat.ne_of_gt (hfirst ▸ hlt), entry, members, hget, hhead⟩

/-- **The nested aggregates are as many as the nested types.** -/
theorem ncard_nests (hd : n.listing[i]? = some d) :
    {inner | ∃ head, (ofDeclaration n).Nests i inner head}.ncard
      = (Declaration.nestedTypes d.members).length := by
  obtain ⟨first, rest, hsubtree, hfirst, hrest⟩ := exists_subtree_eq_cons hd
  have hascending := pairwise_id_subtree hd
  rw [hsubtree] at hascending
  have hnodup : ((rest.filter fun entry => entry.aggregate?.isSome).map Entry.id).Nodup := by
    rw [List.nodup_iff_pairwise_ne, List.pairwise_map]
    exact (hascending.of_cons.filter _).imp Nat.ne_of_lt
  have hset : {inner | ∃ head, (ofDeclaration n).Nests i inner head}
      = ((rest.filter fun entry => entry.aggregate?.isSome).map Entry.id).toFinset := by
    ext inner
    rw [Set.mem_ofPred_eq, nests_iff_mem hd hsubtree hfirst, List.coe_toFinset, Set.mem_ofPred_eq]
  have hnames : rest.filterMap (fun entry => entry.aggregate?.map (·.1.name))
      = (breadthFirst d.members).filterMap aggregateName? := by
    refine filterMap_eq_of_forall₂ hrest ?_
    rintro _ d ⟨k, -, rfl⟩
    cases d <;> rfl
  rw [hset, Set.ncard_coe_finset, List.toFinset_card_of_nodup hnodup, length_nestedTypes, ← hnames,
    List.length_map, ← List.countP_eq_length_filter, List.length_filterMap_eq_countP]
  simp only [Option.isSome_map]

/-! ## The nested types of a number -/

/-- **What a number lists as nested** is read off the declaration with that
number. -/
theorem nestedTypes_members (hd : n.listing[i]? = some d) :
    (ofDeclaration n).nestedTypes (d.entry i (n.memberStart i)).members
      = Declaration.nestedTypes d.members := by
  have hcount := count_le_of_getElem?_listing hd
  rw [count_eq] at hcount
  rw [members_entry]
  exact nestedTypes_ofDeclaration (forall₂_members hd) (by omega)

/-- **Every nested aggregate is listed once, under its full chain, level by
level.** The nested types of a declaration are the dotted names of the
chains of aggregates below it: those of length one, then those of length
two, and so on, those of one length from left to right. So there are as many
as there are aggregates below it. -/
theorem nestedTypes_eq_chains (n : Declaration) {i : DeclId} {entry : Entry}
    (h : (ofDeclaration n).get? i = some entry) :
    ∃ u, (ofDeclaration n).declaration? i = some u ∧
      (∀ levels, u.count ≤ levels →
        (ofDeclaration n).nestedTypes entry.members = (List.range levels).flatMap fun k =>
          (u.chains (k + 1)).map fun c => String.intercalate "." c.2) ∧
      (∀ length positions names, (positions, names) ∈ u.chains length ↔
        positions.length = length ∧ u.Chain positions names) ∧
      (∀ length, (u.chains length).Pairwise fun c c' => c.1 < c'.1) ∧
      ((ofDeclaration n).nestedTypes entry.members).length
        = {inner | ∃ head, (ofDeclaration n).Nests i inner head}.ncard := by
  obtain ⟨u, hu, rfl⟩ := exists_listing_of_get? h
  refine ⟨u, by rw [declaration?_ofDeclaration, hu], ?_, ?_, ?_, ?_⟩
  · intro levels hlevels
    rw [nestedTypes_members hu, nestedTypes_eq_flatMap_chains hlevels]
  · intro length positions names
    exact mem_chains_iff
  · intro length
    exact pairwise_chains length u
  · rw [nestedTypes_members hu, ncard_nests hu]

end Arena

open Arena

/-- An enum of actions with types nested in each other, and cases between
them. -/
def signAction : Declaration :=
  .aggregate {} { kind := .enumType, name := "Action" }
    [.aggregate {} { kind := .enumType, name := "Alert" }
      [.enumCase {} { name := "shown" },
        .aggregate {} { kind := .structType, name := "Button" }
          [.aggregate {} { kind := .classType, name := "Style" } []]],
      .enumCase {} { name := "alert" },
      .aggregate {} { kind := .structType, name := "Payload" } []]

/-- A struct with that enum in it, behind another declaration. -/
def signDeclaration : Declaration :=
  .aggregate {} { kind := .structType, name := "Sign" } [.other {}, signAction]

/-- The enum as it is listed there. -/
def signEntry : Entry :=
  ⟨2, {}, .aggregate { kind := .enumType, name := "Action" } [3, 4, 5]⟩

theorem get?_signDeclaration : (ofDeclaration signDeclaration).get? 2 = some signEntry := by
  cbv

theorem declaration?_signDeclaration :
    (ofDeclaration signDeclaration).declaration? 2 = some signAction := by
  cbv

theorem sign_nestedTypes_eq_chains :
    (ofDeclaration signDeclaration).get? 2 = some signEntry ∧
      (ofDeclaration signDeclaration).nestedTypes signEntry.members
        = ["Alert", "Payload", "Alert.Button", "Alert.Button.Style"] ∧
      {inner | ∃ head, (ofDeclaration signDeclaration).Nests 2 inner head}.ncard = 4 := by
  obtain ⟨u, hu, hnested, -, -, hlength⟩ :=
    nestedTypes_eq_chains signDeclaration get?_signDeclaration
  obtain rfl := Option.some.inj (declaration?_signDeclaration.symm.trans hu)
  have hnames := hnested 7 (by decide)
  have hchains : (List.range 7).flatMap
      (fun k => (signAction.chains (k + 1)).map fun c => String.intercalate "." c.2)
        = ["Alert", "Payload", "Alert.Button", "Alert.Button.Style"] := by
    cbv
  rw [hchains] at hnames
  rw [← hlength, hnames]
  exact ⟨get?_signDeclaration, rfl, rfl⟩

end ActionRelay
