import ActionRelay.Proofs.Agreement
import ActionRelay.Proofs.Declaration.Copy
import ActionRelay.Proofs.Nameless
import ActionRelay.Proofs.Survey
/-!
# First faults — how a pass fails

`Target.FirstFault` says of a target and of what is declared there, without
following the steps of a pass, which fault comes first: there is no such
declaration, it is no struct, it does not count as a reducer, it holds no
only enum of actions, an exclusion attribute is misplaced in it, or a
payload is nameless. A fault counts only where none of an earlier kind
applies, and of each kind the first one counts: in the order of members, of
numbers, or of cases and payloads.

`Target.generation_fails_iff` says that a pass fails with the first fault,
and with no other, and succeeds where there is none.
-/

namespace ActionRelay

open Declaration

/-! ## The faults -/

namespace Declaration

/-- Whether the text of the declaration has `actionType` between spaces, as
a stretch of it. -/
def Mentions (actionType : String) (d : Declaration) : Prop :=
  (" " ++ actionType ++ " ").toList <:+: d.site.text.toList

/-- Where it is shown that there is no only enum of actions among the
members. -/
inductive LacksAction (actionType : String) (anchor : Span) (members : List Declaration) :
    Span → Prop
  /-- There is a second one. -/
  | second {first second : Declaration} {later : List Declaration} :
      members.filter (isAction actionType) = first :: second :: later →
      LacksAction actionType anchor members second.site.span
  /-- There is none, but this is the first member whose text has the name. -/
  | mentioned {before after : List Declaration} {member : Declaration} :
      (∀ m ∈ members, m.isAction actionType = false) →
      members = before ++ member :: after → (∀ m ∈ before, ¬ m.Mentions actionType) →
      member.Mentions actionType → LacksAction actionType anchor members member.site.span
  /-- There is none, and the name is in no text. -/
  | unmentioned :
      (∀ m ∈ members, m.isAction actionType = false) →
      (∀ m ∈ members, ¬ m.Mentions actionType) → LacksAction actionType anchor members anchor

/-- Whether the declaration is no case and `mark` is its first attribute
called `exclusion`. -/
def Misplaces (exclusion : String) (d : Declaration) (mark : Attribute) : Prop :=
  d.isCase = false ∧ ∃ earlier later, d.site.attributes = earlier ++ mark :: later ∧
    mark.name = exclusion ∧ ∀ a ∈ earlier, a.name ≠ exclusion

end Declaration

/-- Whether `mark` is misplaced at the number `id`. -/
def Arena.MisplacesAt (arena : Arena) (exclusion : String) (id : DeclId) (mark : Attribute) :
    Prop :=
  ∃ d, arena.declaration? id = some d ∧ d.Misplaces exclusion mark

namespace Target

/-- Whether the target is a struct, with the given entry, head and
members. -/
structure IsStruct (target : Target) (entry : Entry) (host : Aggregate)
    (members : List Declaration) : Prop where
  get?_eq : target.arena.get? target.id = some entry
  declaration?_eq :
    ∃ site, target.arena.declaration? target.id = some (.aggregate site host members)
  kind_eq : host.kind = .structType

/-- Whether the target counts as a reducer, with the given members. -/
def IsReducer (target : Target) (settings : Settings) (members : List Declaration) : Prop :=
  ∃ entry host, target.IsStruct entry host members ∧ settings.isReducer entry host = true

/-- Whether the target counts as a reducer, and `action` is the only enum of
actions in it. -/
def HasAction (target : Target) (settings : Settings) (action : Declaration) : Prop :=
  ∃ members, target.IsReducer settings members ∧
    members.filter (isAction settings.conventions.actionType) = [action]

/-- **The first fault** of a target. -/
inductive FirstFault (target : Target) (settings : Settings) : Diagnostic → Prop
  /-- No declaration has the number. -/
  | notListed :
      target.arena.size ≤ target.id →
      FirstFault target settings
        ⟨.unknown ("declaration #" ++ Nat.repr target.id ++ " not found"), target.anchor⟩
  /-- The declaration is no struct. -/
  | notStruct :
      target.id < target.arena.size →
      (∀ entry host members, ¬ target.IsStruct entry host members) →
      FirstFault target settings ⟨.notStruct, target.anchor⟩
  /-- The struct does not count as a reducer. -/
  | notReducer {entry : Entry} {host : Aggregate} {members : List Declaration} :
      target.IsStruct entry host members → settings.isReducer entry host = false →
      FirstFault target settings ⟨.notReducer, host.nameSpan⟩
  /-- The reducer has no only enum of actions. -/
  | lacksAction {members : List Declaration} {span : Span} :
      target.IsReducer settings members →
      LacksAction settings.conventions.actionType target.anchor members span →
      FirstFault target settings ⟨.actionRequired, span⟩
  /-- At the smallest number where one is, an exclusion attribute is
  misplaced. -/
  | misplacedExclusion {action : Declaration} {id : DeclId} {mark : Attribute} :
      target.HasAction settings action → target.arena.Below target.id id →
      target.arena.MisplacesAt settings.conventions.exclusion id mark →
      (∀ smaller, target.arena.Below target.id smaller → smaller < id →
        ∀ a, ¬ target.arena.MisplacesAt settings.conventions.exclusion smaller a) →
      FirstFault target settings ⟨.misplacedExclusion, mark.span⟩
  /-- In the first case that lacks a name, and is not to be dropped, this is
  said of the first nameless payload. -/
  | unnamedPayload {action : Declaration} {before after : List CaseMember} {c : CaseMember}
      {diagnostic : Diagnostic} :
      target.HasAction settings action →
      (∀ id, target.arena.Below target.id id →
        ∀ a, ¬ target.arena.MisplacesAt settings.conventions.exclusion id a) →
      settings.unnamed = .abort → action.caseMembers = before ++ c :: after →
      (∀ b ∈ before, ¬ b.LacksName settings) → c.Lacks settings diagnostic →
      FirstFault target settings diagnostic

end Target

/-! ## The enum of actions -/

variable {actionType : String} {anchor span : Span} {members : List Declaration}

theorem occursIn_iff {needle text : List Char} : occursIn needle text = true ↔ needle <:+: text := by
  induction text with
  | nil => simp [occursIn]
  | cons c rest ih => simp [occursIn, ih, List.infix_cons_iff]

namespace Declaration

theorem mentions_iff {d : Declaration} : d.mentions actionType = true ↔ d.Mentions actionType :=
  occursIn_iff

theorem find?_mentions_eq_some {member : Declaration} :
    members.find? (mentions actionType) = some member ↔
      member.Mentions actionType ∧ ∃ before after, members = before ++ member :: after ∧
        ∀ m ∈ before, ¬ m.Mentions actionType := by
  simp only [List.find?_eq_some_iff_append, Bool.not_eq_true', Bool.eq_false_iff, ne_eq,
    mentions_iff]

theorem find?_mentions_eq_none :
    members.find? (mentions actionType) = none ↔ ∀ m ∈ members, ¬ m.Mentions actionType := by
  simp only [List.find?_eq_none, mentions_iff]

theorem filter_isAction_eq_nil :
    members.filter (isAction actionType) = [] ↔ ∀ m ∈ members, m.isAction actionType = false := by
  simp [List.filter_eq_nil_iff]

/-- **The search fails** where there is no only enum of actions. -/
theorem onlyAction_eq_error {diagnostic : Diagnostic} :
    onlyAction actionType anchor members = .error diagnostic ↔
      ∃ span, LacksAction actionType anchor members span ∧ diagnostic = ⟨.actionRequired, span⟩ := by
  constructor
  · intro h
    rw [onlyAction] at h
    split at h
    case h_1 => cases h
    case h_2 first second later heq =>
      exact ⟨_, LacksAction.second heq, (Except.error.inj h).symm⟩
    case h_3 heq =>
      have hnone := filter_isAction_eq_nil.1 heq
      refine ⟨_, ?_, (Except.error.inj h).symm⟩
      rcases hfind : members.find? (mentions actionType) with - | member
      · exact LacksAction.unmentioned hnone (find?_mentions_eq_none.1 hfind)
      · obtain ⟨hmember, before, after, hsplit, hbefore⟩ := find?_mentions_eq_some.1 hfind
        exact LacksAction.mentioned hnone hsplit hbefore hmember
  · rintro ⟨span, hlacks, rfl⟩
    rw [onlyAction]
    cases hlacks with
    | second heq => rw [heq]
    | mentioned hnone hsplit hbefore hmember =>
      rw [filter_isAction_eq_nil.2 hnone,
        find?_mentions_eq_some.2 ⟨hmember, _, _, hsplit, hbefore⟩]
      rfl
    | unmentioned hnone hunmentioned =>
      rw [filter_isAction_eq_nil.2 hnone, find?_mentions_eq_none.2 hunmentioned]
      rfl

end Declaration

/-! ## Misplaced attributes -/

section Misplaced

variable {n d : Declaration} {i : ℕ} {exclusion : String} {mark : Attribute}

theorem Site.attribute?_eq_some {site : Site} {name : String} :
    site.attribute? name = some mark ↔
      ∃ earlier later, site.attributes = earlier ++ mark :: later ∧ mark.name = name ∧
        ∀ a ∈ earlier, a.name ≠ name := by
  simp only [attribute?, List.find?_eq_some_iff_append, beq_iff_eq, Bool.not_eq_true',
    beq_eq_false_iff_ne]
  constructor
  · rintro ⟨hname, earlier, later, hsplit, hearlier⟩
    exact ⟨earlier, later, hsplit, hname, hearlier⟩
  · rintro ⟨earlier, later, hsplit, hname, hearlier⟩
    exact ⟨hname, earlier, later, hsplit, hearlier⟩

theorem Declaration.misplacedExclusion?_eq_some {diagnostic : Diagnostic} :
    d.misplacedExclusion? exclusion = some diagnostic ↔
      ∃ mark, d.Misplaces exclusion mark ∧ diagnostic = ⟨.misplacedExclusion, mark.span⟩ := by
  simp only [Misplaces, ← Site.attribute?_eq_some, misplacedExclusion?]
  rcases d.isCase with - | -
  · rw [if_neg (by decide), Option.map_eq_some_iff]
    constructor
    · rintro ⟨mark, hmark, rfl⟩
      exact ⟨mark, ⟨rfl, hmark⟩, rfl⟩
    · rintro ⟨mark, ⟨-, hmark⟩, rfl⟩
      exact ⟨mark, hmark, rfl⟩
  · simp

/-- What is listed under a number is at fault if an attribute is misplaced
there. -/
theorem Arena.misplacedExclusion?_of_get? {entry : Entry} {id : ℕ} {diagnostic : Diagnostic}
    (h : (ofDeclaration n).get? id = some entry) :
    entry.misplacedExclusion? exclusion = some diagnostic ↔
      ∃ mark, (ofDeclaration n).MisplacesAt exclusion id mark ∧
        diagnostic = ⟨.misplacedExclusion, mark.span⟩ := by
  obtain ⟨m, hm, rfl⟩ := exists_listing_of_get? h
  rw [misplacedExclusion?_entry, Declaration.misplacedExclusion?_eq_some]
  simp [MisplacesAt, declaration?_ofDeclaration, hm]

theorem Arena.misplacedExclusion?_eq_none_of_get? {entry : Entry} {id : ℕ}
    (h : (ofDeclaration n).get? id = some entry) :
    entry.misplacedExclusion? exclusion = none ↔
      ∀ mark, ¬ (ofDeclaration n).MisplacesAt exclusion id mark := by
  constructor
  · intro hnone mark hmark
    have hfault := (misplacedExclusion?_of_get? h).2 ⟨mark, hmark, rfl⟩
    cases hnone.symm.trans hfault
  · intro hno
    rcases hfault : entry.misplacedExclusion? exclusion with - | diagnostic
    · rfl
    · obtain ⟨mark, hmark, -⟩ := (misplacedExclusion?_of_get? h).1 hfault
      exact absurd hmark (hno mark)

/-- Where keys grow along a list, the first value found is the one of the
smallest key. -/
theorem findSome?_eq_some_of_pairwise {α β : Type} {l : List α} {f : α → Option β} {b : β}
    {key : α → ℕ} (h : l.Pairwise fun x y => key x < key y) :
    l.findSome? f = some b ↔ ∃ a ∈ l, f a = some b ∧ ∀ x ∈ l, key x < key a → f x = none := by
  rw [List.findSome?_eq_some_iff]
  constructor
  · rintro ⟨earlier, a, later, rfl, ha, hearlier⟩
    refine ⟨a, by simp, ha, fun x hx hlt => ?_⟩
    rw [List.mem_append, List.mem_cons] at hx
    rcases hx with hx | rfl | hx
    · exact hearlier x hx
    · omega
    · have hgreater := (List.pairwise_cons.1 (List.pairwise_append.1 h).2.1).1 x hx
      omega
  · rintro ⟨a, hmem, ha, hsmaller⟩
    obtain ⟨earlier, later, rfl⟩ := List.append_of_mem hmem
    refine ⟨earlier, a, later, rfl, ha, fun x hx => hsmaller x (by simp [hx]) ?_⟩
    exact (List.pairwise_append.1 h).2.2 x hx a List.mem_cons_self

/-- **The first misplaced attribute** is the one at the smallest number. -/
theorem Arena.misplacedExclusion?_eq_some {diagnostic : Diagnostic}
    (hd : n.listing[i]? = some d) :
    (ofDeclaration n).misplacedExclusion? i exclusion = some diagnostic ↔
      ∃ id mark, (ofDeclaration n).Below i id ∧ (ofDeclaration n).MisplacesAt exclusion id mark ∧
        (∀ smaller, (ofDeclaration n).Below i smaller → smaller < id →
          ∀ a, ¬ (ofDeclaration n).MisplacesAt exclusion smaller a) ∧
        diagnostic = ⟨.misplacedExclusion, mark.span⟩ := by
  -- numbers ascend along a subtree, so that the first there is the one of the smallest number
  rw [misplacedExclusion?, findSome?_eq_some_of_pairwise (pairwise_id_subtree hd)]
  constructor
  · rintro ⟨entry, hentry, hfault, hsmaller⟩
    obtain ⟨hget, hbelow⟩ := (mem_subtree_iff hd).1 hentry
    obtain ⟨mark, hmark, rfl⟩ := (misplacedExclusion?_of_get? hget).1 hfault
    refine ⟨entry.id, mark, hbelow, hmark, fun smaller hbelow' hlt => ?_, rfl⟩
    obtain ⟨entry', hentry', rfl⟩ := List.mem_map.1 (mem_map_id_subtree_of_below hd hbelow')
    have hget' := ((mem_subtree_iff hd).1 hentry').1
    exact (misplacedExclusion?_eq_none_of_get? hget').1 (hsmaller entry' hentry' hlt)
  · rintro ⟨id, mark, hbelow, hmark, hsmaller, rfl⟩
    obtain ⟨entry, hentry, rfl⟩ := List.mem_map.1 (mem_map_id_subtree_of_below hd hbelow)
    have hget := ((mem_subtree_iff hd).1 hentry).1
    refine ⟨entry, hentry, (misplacedExclusion?_of_get? hget).2 ⟨mark, hmark, rfl⟩, ?_⟩
    intro entry' hentry' hlt
    obtain ⟨hget', hbelow'⟩ := (mem_subtree_iff hd).1 hentry'
    exact (misplacedExclusion?_eq_none_of_get? hget').2 (hsmaller entry'.id hbelow' hlt)

theorem Arena.misplacedExclusion?_eq_none (hd : n.listing[i]? = some d) :
    (ofDeclaration n).misplacedExclusion? i exclusion = none ↔
      ∀ id, (ofDeclaration n).Below i id →
        ∀ mark, ¬ (ofDeclaration n).MisplacesAt exclusion id mark := by
  rw [misplacedExclusion?, List.findSome?_eq_none_iff]
  constructor
  · intro hnone id hbelow
    obtain ⟨entry, hentry, rfl⟩ := List.mem_map.1 (mem_map_id_subtree_of_below hd hbelow)
    have hget := ((mem_subtree_iff hd).1 hentry).1
    exact (misplacedExclusion?_eq_none_of_get? hget).1 (hnone entry hentry)
  · intro hno entry hentry
    obtain ⟨hget, hbelow⟩ := (mem_subtree_iff hd).1 hentry
    exact (misplacedExclusion?_eq_none_of_get? hget).2 (hno entry.id hbelow)

end Misplaced

/-! ## The steps of a pass -/

namespace Target

variable {n : Declaration} {target : Target} {settings : Settings} {diagnostic : Diagnostic}
variable {entry : Entry} {host : Aggregate} {action : Declaration}

theorem fails_of_notListed (h : target.arena.size ≤ target.id) :
    (target.generation settings).outcome = .error
      ⟨.unknown ("declaration #" ++ Nat.repr target.id ++ " not found"), target.anchor⟩ := by
  have hget : target.arena.get? target.id = none := by
    rw [Arena.get?]
    exact Array.getElem?_eq_none h
  rw [outcome_generation, reducer, struct, hget]

section Steps

variable (htarget : target.arena = .ofDeclaration n)
include htarget

theorem fails_of_notStruct (hlt : target.id < target.arena.size)
    (h : ∀ entry host members, ¬ target.IsStruct entry host members) :
    (target.generation settings).outcome = .error ⟨.notStruct, target.anchor⟩ := by
  obtain ⟨arena, id, anchor⟩ := target
  subst htarget
  simp only [Arena.size_ofDeclaration, ← length_listing] at hlt
  have hd := List.getElem?_eq_getElem hlt
  generalize n.listing[id] = d at hd
  have hyields := yields_survey hd anchor settings
  rcases d with ⟨site, host, members⟩ | ⟨site, head⟩ | ⟨site⟩
  · have hkind : host.kind ≠ .structType := by
      intro hkind
      have hget := Arena.get?_ofDeclaration n id
      rw [hd, Option.map_some] at hget
      exact h _ host members ⟨hget, ⟨site, by rw [Arena.declaration?_ofDeclaration, hd]⟩, hkind⟩
    simpa [survey, hkind] using hyields
  · exact hyields
  · exact hyields

/-- A pass on a struct ends as the survey of the struct says. -/
theorem yields_of_isStruct (settings : Settings) (h : target.IsStruct entry host members) :
    ∃ site, n.listing[target.id]? = some (.aggregate site host members) ∧
      Survey.Yields settings (target.generation settings).outcome
        ((Declaration.aggregate site host members).survey (settings.isReducer entry) target.anchor
          settings.conventions) := by
  obtain ⟨arena, id, anchor⟩ := target
  subst htarget
  obtain ⟨hget, ⟨site, hd⟩, -⟩ := h
  rw [Arena.declaration?_ofDeclaration] at hd
  rw [Arena.get?_ofDeclaration, hd, Option.map_some, Option.some.injEq] at hget
  refine ⟨site, hd, ?_⟩
  rw [← hget]
  exact yields_survey hd anchor settings

theorem fails_of_notReducer (h : target.IsStruct entry host members)
    (hrejects : settings.isReducer entry host = false) :
    (target.generation settings).outcome = .error ⟨.notReducer, host.nameSpan⟩ := by
  obtain ⟨site, -, hyields⟩ := yields_of_isStruct htarget settings h
  simpa [survey, h.kind_eq, hrejects] using hyields

theorem fails_of_lacksAction (h : target.IsReducer settings members)
    (hlacks : LacksAction settings.conventions.actionType target.anchor members span) :
    (target.generation settings).outcome = .error ⟨.actionRequired, span⟩ := by
  obtain ⟨entry, host, hstruct, haccepts⟩ := h
  obtain ⟨site, -, hyields⟩ := yields_of_isStruct htarget settings hstruct
  have honly := onlyAction_eq_error.2 ⟨span, hlacks, rfl⟩
  simpa [survey, hstruct.kind_eq, haccepts, honly] using hyields

/-- A pass on a reducer with an only enum of actions fails with the first
misplaced attribute, or goes on to the cases of the enum. -/
theorem yields_of_hasAction (h : target.HasAction settings action) :
    ∃ d host, n.listing[target.id]? = some d ∧
      Survey.Yields settings (target.generation settings).outcome
        (match target.arena.misplacedExclusion? target.id settings.conventions.exclusion with
          | some diagnostic => .error diagnostic
          | none => .ok ⟨host, action.actionUnion settings.conventions⟩) := by
  obtain ⟨members, ⟨entry, host, hstruct, haccepts⟩, honly⟩ := h
  obtain ⟨site, hd, hyields⟩ := yields_of_isStruct htarget settings hstruct
  refine ⟨_, host, hd, ?_⟩
  rw [htarget, Arena.misplacedExclusion?_ofDeclaration hd]
  simp only [survey, hstruct.kind_eq, haccepts, onlyAction_eq_ok.2 honly, if_true] at hyields
  exact hyields

theorem fails_of_misplacedExclusion (h : target.HasAction settings action)
    (hfault : target.arena.misplacedExclusion? target.id settings.conventions.exclusion
      = some diagnostic) :
    (target.generation settings).outcome = .error diagnostic := by
  obtain ⟨d, host, -, hyields⟩ := yields_of_hasAction htarget h
  simpa [hfault] using hyields

theorem fails_iff_resolveAll_fails (h : target.HasAction settings action)
    (hnone : target.arena.misplacedExclusion? target.id settings.conventions.exclusion = none) :
    (target.generation settings).outcome = .error diagnostic ↔
      (resolveAll settings (action.caseMembers.map
        (CaseMember.actionCase settings.conventions.exclusion))).outcome = .error diagnostic := by
  obtain ⟨d, host, -, hyields⟩ := yields_of_hasAction htarget h
  rw [hnone] at hyields
  obtain ⟨reducer, -, houtcome⟩ := hyields
  rw [houtcome, Reducer.generated, actionUnion]
  rcases (resolveAll settings _).outcome with d | resolved <;> simp [Except.map]

end Steps

/-- **A pass fails with the first fault.** -/
theorem fails_of_firstFault (htarget : target.arena = .ofDeclaration n)
    (h : target.FirstFault settings diagnostic) :
    (target.generation settings).outcome = .error diagnostic := by
  cases h with
  | notListed hle => exact fails_of_notListed hle
  | notStruct hlt hno => exact fails_of_notStruct htarget hlt hno
  | notReducer hstruct hrejects => exact fails_of_notReducer htarget hstruct hrejects
  | lacksAction hreducer hlacks => exact fails_of_lacksAction htarget hreducer hlacks
  | misplacedExclusion haction hbelow hmark hsmaller =>
    obtain ⟨d, -, hd, -⟩ := yields_of_hasAction htarget haction
    refine fails_of_misplacedExclusion htarget haction ?_
    rw [htarget] at hbelow hmark hsmaller ⊢
    exact (Arena.misplacedExclusion?_eq_some hd).2 ⟨_, _, hbelow, hmark, hsmaller, rfl⟩
  | unnamedPayload haction hno habort hsplit hbefore hlacks =>
    obtain ⟨d, -, hd, -⟩ := yields_of_hasAction htarget haction
    refine (fails_iff_resolveAll_fails htarget haction ?_).2
      (outcome_resolveAll_eq_error.2 ⟨habort, _, _, _, hsplit, hbefore, hlacks⟩)
    rw [htarget] at hno ⊢
    exact (Arena.misplacedExclusion?_eq_none hd).2 hno

/-- **There is a first fault** wherever a pass fails. -/
theorem exists_firstFault (htarget : target.arena = .ofDeclaration n)
    (h : (target.generation settings).outcome = .error diagnostic) :
    ∃ fault, target.FirstFault settings fault := by
  -- the cases follow the checks in their order: each is made if all before it passed
  by_cases hlisted : target.arena.size ≤ target.id
  · exact ⟨_, FirstFault.notListed hlisted⟩
  by_cases hstruct : ∃ entry host members, target.IsStruct entry host members
  case neg =>
    simp only [not_exists] at hstruct
    exact ⟨_, FirstFault.notStruct (Nat.lt_of_not_le hlisted) hstruct⟩
  obtain ⟨entry, host, members, hstruct⟩ := hstruct
  rcases haccepts : settings.isReducer entry host with - | -
  · exact ⟨_, FirstFault.notReducer hstruct haccepts⟩
  have hreducer : target.IsReducer settings members := ⟨entry, host, hstruct, haccepts⟩
  rcases honly : onlyAction settings.conventions.actionType target.anchor members with d | action
  · obtain ⟨span, hlacks, -⟩ := onlyAction_eq_error.1 honly
    exact ⟨_, FirstFault.lacksAction hreducer hlacks⟩
  have haction : target.HasAction settings action := ⟨members, hreducer, onlyAction_eq_ok.1 honly⟩
  obtain ⟨d, -, hd, -⟩ := yields_of_hasAction htarget haction
  rcases hmisplaced : target.arena.misplacedExclusion? target.id settings.conventions.exclusion
    with - | fault
  · have hresolve := (fails_iff_resolveAll_fails htarget haction hmisplaced).1 h
    obtain ⟨habort, before, c, after, hsplit, hbefore, hlacks⟩ :=
      outcome_resolveAll_eq_error.1 hresolve
    rw [htarget, Arena.misplacedExclusion?_eq_none hd, ← htarget] at hmisplaced
    exact ⟨_, FirstFault.unnamedPayload haction hmisplaced habort hsplit hbefore hlacks⟩
  · rw [htarget, Arena.misplacedExclusion?_eq_some hd, ← htarget] at hmisplaced
    obtain ⟨id, mark, hbelow, hmark, hsmaller, -⟩ := hmisplaced
    exact ⟨_, FirstFault.misplacedExclusion haction hbelow hmark hsmaller⟩

/-- **How a pass fails**: with the first fault and with no other, and it
succeeds where there is none. -/
theorem generation_fails_iff (n : Declaration) (id : DeclId) (anchor : Span)
    (settings : Settings) :
    (∀ diagnostic,
      ((Target.mk (.ofDeclaration n) id anchor).generation settings).outcome
          = .error diagnostic ↔
        (Target.mk (.ofDeclaration n) id anchor).FirstFault settings diagnostic) ∧
    ((∃ generated,
      ((Target.mk (.ofDeclaration n) id anchor).generation settings).outcome = .ok generated) ↔
        ∀ diagnostic, ¬ (Target.mk (.ofDeclaration n) id anchor).FirstFault settings diagnostic) := by
  have hfails : ∀ diagnostic,
      ((Target.mk (.ofDeclaration n) id anchor).generation settings).outcome
          = .error diagnostic ↔
        (Target.mk (.ofDeclaration n) id anchor).FirstFault settings diagnostic := by
    refine fun diagnostic => ⟨fun h => ?_, fails_of_firstFault rfl⟩
    -- a pass fails once, so the first fault that there is must be this one
    obtain ⟨fault, hfault⟩ := exists_firstFault rfl h
    obtain rfl := Except.error.inj ((fails_of_firstFault rfl hfault).symm.trans h)
    exact hfault
  refine ⟨hfails, ?_⟩
  simp only [← hfails]
  rcases ((Target.mk (.ofDeclaration n) id anchor).generation settings).outcome
    with d | generated <;> simp

end Target

/-- The sample reducer fails where no case is dropped, for the payload of
its last case. -/
theorem loader_generation_fails :
    (loader.generation { loaderSettings with unnamed := .abort }).outcome
      = .error ⟨.unnamedPayload "finish" 0, {}⟩ ∧
    loader.FirstFault { loaderSettings with unnamed := .abort }
      ⟨.unnamedPayload "finish" 0, {}⟩ ∧
    ∀ diagnostic, ¬ loader.FirstFault loaderSettings diagnostic := by
  have hfails : (loader.generation { loaderSettings with unnamed := .abort }).outcome
      = .error ⟨.unnamedPayload "finish" 0, {}⟩ := by cbv
  have hok : ∃ generated, (loader.generation loaderSettings).outcome = .ok generated :=
    ⟨_, by cbv⟩
  exact ⟨hfails, ((Target.generation_fails_iff loaderDeclaration Arena.root {} _).1 _).1 hfails,
    (Target.generation_fails_iff loaderDeclaration Arena.root {} loaderSettings).2.1 hok⟩

end ActionRelay
