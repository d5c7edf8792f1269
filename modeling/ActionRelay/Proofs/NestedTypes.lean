import ActionRelay.Proofs.Declaration.Chains
import ActionRelay.Proofs.Rendering.Separators
import ActionRelay.Proofs.TypeExpr.Paths
/-!
# Nested types — names and what they stand for

Qualification asks whether the dotted name of a path is among the nested
types, which is a question about texts. It is the right question: where no
aggregate has a dot in its name, a text can be taken apart at its dots in
one way only, so the answer is that of a search which goes from aggregate to
aggregate, one name at a time (`Arena.mem_nestedTypes_iff_finds`). The names
of nested types also decide whether a second qualification changes anything
(`TypeExpr.qualify_idempotent_iff`).
-/

namespace ActionRelay

/-! ## Dots -/

namespace Text

variable {names names' : List String} {front rest : String}

/-- Names without dots can be read off their dotted name. -/
theorem splitOn_dots (hnames : names ≠ []) (hdots : ∀ name ∈ names, '.' ∉ name.toList) :
    (String.intercalate "." names).toList.splitOn '.' = names.map String.toList := by
  rw [String.toList_intercalate]
  exact List.splitOn_intercalate '.' (by simpa using hdots) (by simpa using hnames)

/-- **Different names have different dotted names.** -/
theorem intercalate_dot_inj (hnames : names ≠ []) (hdots : ∀ name ∈ names, '.' ∉ name.toList)
    (hnames' : names' ≠ []) (hdots' : ∀ name ∈ names', '.' ∉ name.toList)
    (h : String.intercalate "." names = String.intercalate "." names') : names = names' := by
  have hsplit := splitOn_dots hnames hdots
  rw [h, splitOn_dots hnames' hdots'] at hsplit
  exact (List.map_injective_iff.2 (fun _ _ => String.toList_injective) hsplit).symm

/-- What stands in front of a dot in a dotted name is the dotted name of some
of the names, from the first one on. -/
theorem exists_append_of_intercalate_eq (hdots : ∀ name ∈ names, '.' ∉ name.toList)
    (h : String.intercalate "." names = front ++ "." ++ rest) :
    ∃ before after, names = before ++ after ∧ before ≠ [] ∧
      String.intercalate "." before = front := by
  have hnames : names ≠ [] := by
    rintro rfl
    simpa using congrArg String.toList h
  have hsplit : names.map String.toList
      = front.toList.splitOn '.' ++ rest.toList.splitOn '.' := by
    rw [← splitOn_dots hnames hdots, h]
    simp [List.splitOn_append_cons_self]
  obtain ⟨before, after, rfl, hbefore, -⟩ := List.map_eq_append_iff.1 hsplit
  refine ⟨before, after, rfl, ?_, ?_⟩
  · rintro rfl
    exact List.splitOn_ne_nil _ _ hbefore.symm
  · rw [← String.toList_inj, String.toList_intercalate, hbefore]
    exact List.intercalate_splitOn '.'

end Text

/-! ## Looking names up -/

namespace Declaration

/-- Whether the names lead from a declaration to an aggregate in it: the
first name is that of an aggregate among its members, in which the other
names are looked up in turn. Members of the same name are all tried. -/
def finds : (names : List String) → (d : Declaration) → Bool
  | [], _ => true
  | name :: names, d =>
    d.members.any fun member => member.aggregateName? == some name && finds names member

variable {d : Declaration} {names names' : List String} {text : String}

/-- Names are found where a chain has them. -/
theorem finds_iff_exists_chain : d.finds names = true ↔ ∃ positions, d.Chain positions names := by
  induction names generalizing d with
  | nil => exact ⟨fun _ => ⟨[], .nil d⟩, fun _ => rfl⟩
  | cons name names ih =>
    simp only [finds, List.any_eq_true, Bool.and_eq_true, beq_iff_eq]
    constructor
    · rintro ⟨member, hmember, hname, hlater⟩
      obtain ⟨k, hk⟩ := List.getElem?_of_mem hmember
      obtain ⟨positions, hchain⟩ := ih.1 hlater
      exact ⟨k :: positions, .cons hk hname hchain⟩
    · rintro ⟨_, hchain⟩
      cases hchain with
      | @cons _ member k _ positions _ hk hname hchain =>
        exact ⟨member, List.mem_of_getElem? hk, hname, ih.2 ⟨positions, hchain⟩⟩

/-- Where names are found, those in front are found. -/
theorem finds_of_finds_append (h : d.finds (names ++ names') = true) : d.finds names = true := by
  induction names generalizing d with
  | nil => rfl
  | cons name names ih =>
    simp only [List.cons_append, finds, List.any_eq_true, Bool.and_eq_true] at h ⊢
    obtain ⟨member, hmember, hname, hlater⟩ := h
    exact ⟨member, hmember, hname, ih hlater⟩

/-- **A text is a nested type** if it is the dotted name of names that are
found. -/
theorem mem_nestedTypes_iff :
    text ∈ nestedTypes d.members ↔
      ∃ names, names ≠ [] ∧ d.finds names = true ∧ String.intercalate "." names = text := by
  constructor
  · intro h
    rw [nestedTypes_eq_flatMap_chains (Nat.le_refl d.count), List.mem_flatMap] at h
    obtain ⟨k, -, hk⟩ := h
    obtain ⟨⟨positions, names⟩, hmem, rfl⟩ := List.mem_map.1 hk
    obtain ⟨hlength, hchain⟩ := mem_chains_iff.1 hmem
    have hnames := hchain.length_eq
    refine ⟨names, ?_, finds_iff_exists_chain.2 ⟨positions, hchain⟩, rfl⟩
    rintro rfl
    rw [hlength] at hnames
    cases hnames
  · rintro ⟨names, hne, hfinds, rfl⟩
    obtain ⟨positions, hchain⟩ := finds_iff_exists_chain.1 hfinds
    have hlength := hchain.length_eq
    have hpos : 0 < names.length := List.length_pos_iff.2 hne
    -- more levels than are needed do no harm, so as many as there are names are looked at
    have hlevels : d.count ≤ d.count + names.length := Nat.le_add_right _ _
    rw [nestedTypes_eq_flatMap_chains hlevels, List.mem_flatMap]
    have hmem : (positions, names) ∈ d.chains (names.length - 1 + 1) :=
      mem_chains_iff.2 ⟨by omega, hchain⟩
    refine ⟨names.length - 1, List.mem_range.2 (by omega), ?_⟩
    exact List.mem_map.2 ⟨(positions, names), hmem, rfl⟩

end Declaration

namespace Arena

open Declaration

variable {n d : Declaration} {i j k : DeclId} {entry : Entry} {head : Aggregate}

/-! ## Chains and numbers -/

/-- What is nested in a declaration below another one is nested in that
one. -/
theorem Nests.of_below (hbelow : (ofDeclaration n).Below i j)
    (h : (ofDeclaration n).Nests j k head) : (ofDeclaration n).Nests i k head where
  below := hbelow.trans h.below
  ne := by
    have hlt : j < k := Nat.lt_of_le_of_ne h.below.le h.ne.symm
    exact Nat.ne_of_gt (Nat.lt_of_le_of_lt hbelow.le hlt)
  found := h.found

/-- **The names in a chain are those of nested aggregates.** -/
theorem exists_nests_of_chain {positions : List ℕ} {names : List String}
    (h : d.Chain positions names) (hd : n.listing[i]? = some d) :
    ∀ name ∈ names, ∃ inner head, (ofDeclaration n).Nests i inner head ∧ head.name = name := by
  induction h generalizing i with
  | nil => exact List.forall_mem_nil _
  | @cons d member position name positions names hmember hname _ ih =>
    have hlisted := getElem?_listing_member hd hmember
    have hbelow := below_member hd (List.getElem?_eq_some_iff.1 hmember).1
    have hget := get?_ofDeclaration n (n.memberStart i + position)
    rw [hlisted, Option.map_some] at hget
    have hlt := Nat.lt_of_lt_of_le (lt_memberStart hd) (Nat.le_add_right _ position)
    refine List.forall_mem_cons.2 ⟨?_, ?_⟩
    · cases member with
      | aggregate site head members =>
        exact ⟨_, head, ⟨hbelow, Nat.ne_of_gt hlt, _, _, hget, rfl⟩, Option.some.inj hname⟩
      | enumCase _ _ => cases hname
      | other _ => cases hname
    · intro name hname
      obtain ⟨inner, head, hnests, hhead⟩ := ih hlisted name hname
      exact ⟨inner, head, hnests.of_below hbelow, hhead⟩

/-- So no name that is found has a dot, if no nested aggregate has one. -/
theorem notMem_of_finds {names : List String} (hd : n.listing[i]? = some d)
    (hdots : ∀ inner head, (ofDeclaration n).Nests i inner head → '.' ∉ head.name.toList)
    (h : d.finds names = true) : ∀ name ∈ names, '.' ∉ name.toList := by
  intro name hname
  obtain ⟨positions, hchain⟩ := finds_iff_exists_chain.1 h
  obtain ⟨inner, head, hnests, rfl⟩ := exists_nests_of_chain hchain hd name hname
  exact hdots inner head hnests

/-! ## The names of paths -/

/-- **Asking for the dotted name of a path is looking its names up.** Where
no nested aggregate has a dot in its name, the dotted name of a path that was
read is among the nested types of a declaration exactly if the names of its
steps, one after the other, lead to an aggregate in the declaration. -/
theorem mem_nestedTypes_iff_finds (n : Declaration) {i : DeclId} {entry : Entry}
    (h : (ofDeclaration n).get? i = some entry)
    (hdots : ∀ inner head, (ofDeclaration n).Nests i inner head → '.' ∉ head.name.toList)
    {text : String} {path : List Segment} (hpath : path ∈ (TypeExpr.ofText text).paths) :
    ∃ u, (ofDeclaration n).declaration? i = some u ∧
      (TypeExpr.dotted path ∈ (ofDeclaration n).nestedTypes entry.members ↔
        u.finds (path.map Segment.name) = true) := by
  obtain ⟨u, hu, rfl⟩ := exists_listing_of_get? h
  obtain ⟨hsteps, hidentifiers⟩ := TypeExpr.properPath_of_mem_ofText hpath
  have hpathNames : path.map Segment.name ≠ [] := by simpa using hsteps
  have hpathDots : ∀ name ∈ path.map Segment.name, '.' ∉ name.toList := by
    rw [List.forall_mem_map]
    intro s hs
    exact Text.notMem_of_isIdentifier (hidentifiers s hs) (by decide)
  refine ⟨u, by rw [declaration?_ofDeclaration, hu], ?_⟩
  rw [nestedTypes_members hu, mem_nestedTypes_iff]
  constructor
  · rintro ⟨names, hnames, hfinds, hdotted⟩
    have hsame : names = path.map Segment.name :=
      Text.intercalate_dot_inj hnames (notMem_of_finds hu hdots hfinds) hpathNames hpathDots hdotted
    exact hsame ▸ hfinds
  · intro hfinds
    exact ⟨path.map Segment.name, hpathNames, hfinds, rfl⟩

/-- No aggregate in the sample enum has a dot in its name. -/
theorem notMem_of_nests_signDeclaration (inner : DeclId) (head : Aggregate)
    (h : (ofDeclaration signDeclaration).Nests 2 inner head) : '.' ∉ head.name.toList := by
  obtain ⟨entry, members, hget, hhead⟩ := h.found
  have hall : (ofDeclaration signDeclaration).entries.toList.all (fun entry =>
      entry.aggregate?.all fun x => !x.1.name.toList.contains '.') = true := by
    cbv
  have hmem : entry ∈ (ofDeclaration signDeclaration).entries.toList :=
    Array.mem_toList_iff.2 (Array.mem_of_getElem? hget)
  have hentry := List.all_eq_true.1 hall entry hmem
  simpa [hhead] using hentry

/-- In the sample enum, a type is found by its full name only. -/
theorem sign_mem_nestedTypes_iff_finds :
    "Alert.Button" ∈ (ofDeclaration signDeclaration).nestedTypes signEntry.members ∧
      "Button" ∉ (ofDeclaration signDeclaration).nestedTypes signEntry.members := by
  have hfull : [⟨"Alert", []⟩, ⟨"Button", []⟩]
      ∈ (TypeExpr.ofText (TypeExpr.plain ["Alert", "Button"]).text).paths := by
    rw [TypeExpr.WellFormed.ofText_text (.understood (by decide) (by decide))]
    exact List.mem_cons_self
  have hlast : [⟨"Button", []⟩] ∈ (TypeExpr.ofText (TypeExpr.plain ["Button"]).text).paths := by
    rw [TypeExpr.WellFormed.ofText_text (.understood (by decide) (by decide))]
    exact List.mem_cons_self
  obtain ⟨u, hu, hfound⟩ := mem_nestedTypes_iff_finds signDeclaration get?_signDeclaration
    notMem_of_nests_signDeclaration hfull
  obtain ⟨u', hu', hfound'⟩ := mem_nestedTypes_iff_finds signDeclaration get?_signDeclaration
    notMem_of_nests_signDeclaration hlast
  obtain rfl := Option.some.inj (declaration?_signDeclaration.symm.trans hu)
  obtain rfl := Option.some.inj (declaration?_signDeclaration.symm.trans hu')
  exact ⟨hfound.2 (by decide), fun h => absurd (hfound'.1 h) (by decide)⟩

/-- Nested types come with the types that they are nested in: what stands in
front of a dot in their names is a nested type too. -/
theorem mem_nestedTypes_of_append {space rest : String}
    (h : (ofDeclaration n).get? i = some entry)
    (hdots : ∀ inner head, (ofDeclaration n).Nests i inner head → '.' ∉ head.name.toList)
    (hmem : space ++ "." ++ rest ∈ (ofDeclaration n).nestedTypes entry.members) :
    space ∈ (ofDeclaration n).nestedTypes entry.members := by
  obtain ⟨u, hu, rfl⟩ := exists_listing_of_get? h
  rw [nestedTypes_members hu, mem_nestedTypes_iff] at hmem ⊢
  obtain ⟨names, -, hfinds, hdotted⟩ := hmem
  have hnamesDots := notMem_of_finds hu hdots hfinds
  obtain ⟨before, after, rfl, hbefore, hspace⟩ :=
    Text.exists_append_of_intercalate_eq hnamesDots hdotted
  exact ⟨before, hbefore, finds_of_finds_append hfinds, hspace⟩

end Arena

open Arena

/-! ## Qualifying twice -/

/-- **When a second qualification changes nothing**: exactly if no path in
the type names a nested type that is one too with `space` in front. Types
that were read have no empty path, for which this would not hold. So
qualification is idempotent unless the name of a nested type goes on from
`space`; and where no aggregate has a dot in its name, unless `space` itself
is the name of a nested type. -/
theorem TypeExpr.qualify_idempotent_iff (space : String) :
    (∀ (nested : List String) (t : TypeExpr), [] ∉ t.paths →
      ((t.qualify nested space).qualify nested space = t.qualify nested space ↔
        ¬ ∃ path ∈ t.paths, dotted path ∈ nested ∧ space ++ "." ++ dotted path ∈ nested)) ∧
    (∀ text, [] ∉ (ofText text).paths) ∧
    (∀ nested : List String, (∀ rest, space ++ "." ++ rest ∉ nested) →
      ∀ t : TypeExpr, [] ∉ t.paths →
        (t.qualify nested space).qualify nested space = t.qualify nested space) ∧
    ∀ (n : Declaration) (i : DeclId) (entry : Entry),
      (ofDeclaration n).get? i = some entry →
      (∀ inner head, (ofDeclaration n).Nests i inner head → '.' ∉ head.name.toList) →
      space ∉ (ofDeclaration n).nestedTypes entry.members →
      ∀ t : TypeExpr, [] ∉ t.paths →
        (t.qualify ((ofDeclaration n).nestedTypes entry.members) space).qualify
            ((ofDeclaration n).nestedTypes entry.members) space
          = t.qualify ((ofDeclaration n).nestedTypes entry.members) space := by
  have hsettles : ∀ nested : List String, (∀ rest, space ++ "." ++ rest ∉ nested) →
      ∀ t : TypeExpr, [] ∉ t.paths →
        (t.qualify nested space).qualify nested space = t.qualify nested space := by
    intro nested hspace t ht
    exact (qualify_qualify_eq_iff ht).2 fun path _ _ => hspace (dotted path)
  refine ⟨fun nested t ht => ?_, fun text hnil => ?_, hsettles, ?_⟩
  · rw [qualify_qualify_eq_iff ht]
    simp only [not_exists, not_and]
  · exact (properPath_of_mem_ofText hnil).ne_nil rfl
  · intro n i entry hget hdots hspace
    exact hsettles _ fun rest hrest => hspace (mem_nestedTypes_of_append hget hdots hrest)

/-- The types of the sample enum are qualified once and for all; names that
go on from the name in front are not. -/
theorem sign_qualify_idempotent_iff :
    (∀ t : TypeExpr, [] ∉ t.paths →
      (t.qualify ((ofDeclaration signDeclaration).nestedTypes signEntry.members)
            "Action").qualify
          ((ofDeclaration signDeclaration).nestedTypes signEntry.members) "Action"
        = t.qualify ((ofDeclaration signDeclaration).nestedTypes signEntry.members) "Action") ∧
      ((TypeExpr.ofText "[Alert]").qualify ["Alert", "Action.Alert"] "Action").qualify
          ["Alert", "Action.Alert"] "Action"
        ≠ (TypeExpr.ofText "[Alert]").qualify ["Alert", "Action.Alert"] "Action" := by
  obtain ⟨hiff, hread, -, hdeclaration⟩ := TypeExpr.qualify_idempotent_iff "Action"
  have haction : "Action" ∉ (ofDeclaration signDeclaration).nestedTypes signEntry.members := by
    have hnested : (ofDeclaration signDeclaration).nestedTypes signEntry.members
        = ["Alert", "Payload", "Alert.Button", "Alert.Button.Style"] := by
      cbv
    rw [hnested]
    decide
  refine ⟨hdeclaration signDeclaration 2 signEntry get?_signDeclaration
    notMem_of_nests_signDeclaration haction, ?_⟩
  have hpaths : (TypeExpr.ofText "[Alert]").paths = [[⟨"Alert", []⟩]] := by
    cbv
  intro h
  refine (hiff _ _ (hread "[Alert]")).1 h ⟨[⟨"Alert", []⟩], ?_, ?_⟩
  · rw [hpaths]
    exact List.mem_singleton_self _
  · decide

/-- An enum of actions with no type called `Action` in it, but with one that
has a dot in its name. -/
def dottedDeclaration : Declaration :=
  .aggregate {} { kind := .enumType, name := "Action" }
    [.aggregate {} { kind := .structType, name := "Alert" } [],
      .aggregate {} { kind := .structType, name := "Action.Alert" } []]

/-- The enum as it is listed. -/
def dottedEntry : Entry :=
  ⟨0, {}, .aggregate { kind := .enumType, name := "Action" } [1, 2]⟩

theorem get?_dottedDeclaration : (ofDeclaration dottedDeclaration).get? 0 = some dottedEntry := by
  cbv

/-- So it takes more than that no type is called like the name in front: here
a second qualification puts it in front once more. -/
theorem dotted_qualify_qualify :
    (ofDeclaration dottedDeclaration).get? 0 = some dottedEntry ∧
    "Action" ∉ (ofDeclaration dottedDeclaration).nestedTypes dottedEntry.members ∧
    [] ∉ (TypeExpr.ofText "Alert").paths ∧
    (TypeExpr.ofText "Alert").qualify
        ((ofDeclaration dottedDeclaration).nestedTypes dottedEntry.members) "Action"
      = .plain ["Action", "Alert"] ∧
    ((TypeExpr.ofText "Alert").qualify
        ((ofDeclaration dottedDeclaration).nestedTypes dottedEntry.members) "Action").qualify
        ((ofDeclaration dottedDeclaration).nestedTypes dottedEntry.members) "Action"
      = .plain ["Action", "Action", "Alert"] := by
  have hnested : (ofDeclaration dottedDeclaration).nestedTypes dottedEntry.members
      = ["Alert", "Action.Alert"] := by
    cbv
  have hread : TypeExpr.ofText "Alert" = .plain ["Alert"] := by cbv
  have honce : (TypeExpr.plain ["Alert"]).qualify ["Alert", "Action.Alert"] "Action"
      = .plain ["Action", "Alert"] := by
    rfl
  have htwice : (TypeExpr.plain ["Action", "Alert"]).qualify ["Alert", "Action.Alert"] "Action"
      = .plain ["Action", "Action", "Alert"] := by
    rfl
  rw [hnested, hread, honce, htwice]
  exact ⟨get?_dottedDeclaration, by decide, by decide, rfl, rfl⟩

end ActionRelay
