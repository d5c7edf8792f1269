import ActionRelay.Proofs.Declaration.Storable
import ActionRelay.Proofs.FirstFault
import ActionRelay.Proofs.TypeExpr.QualifiedText
/-!
# Parameter types — where they come from, and that they are read back

Each parameter of a generated method stands for a payload of a case, and its
type is the payload's, qualified with the name of the enum of actions
(`Target.exists_slot_of_mem_parameters`). The types of a declaration that has
been read come from texts, and qualified they are still types that a text
can give; so the type that the interface has for a parameter is read back
from its text (`Target.qualifiedTypes_readBack`).
-/

namespace ActionRelay

open Declaration

variable {settings : Settings} {conventions : Conventions} {union : ActionUnion}
variable {generated : Generated} {method : Signature} {parameter : Parameter}

/-! ## From payloads to parameters -/

/-- A case among the members is one that they list. -/
theorem Declaration.mem_caseMembers {d : Declaration} {c : CaseMember} :
    c ∈ d.caseMembers ↔ .enumCase c.site c.head ∈ d.members := by
  rw [caseMembers, List.mem_filterMap]
  constructor
  · rintro ⟨member, hmember, hcase⟩
    cases member with
    | enumCase site head =>
      obtain rfl := Option.some.inj hcase
      exact hmember
    | aggregate _ _ _ => cases hcase
    | other _ => cases hcase
  · exact fun hmember => ⟨_, hmember, rfl⟩

/-- The parameters of a resolved case are its payloads, each with its type
qualified. -/
theorem CaseMember.exists_slot_of_resolves {c : CaseMember} {r : ResolvedCase}
    (h : c.Resolves settings r) (hmethod : r.signature? conventions union = some method)
    (hparameter : parameter ∈ method.parameters) :
    ∃ slot ∈ c.head.slots, parameter.type = slot.type.qualify union.nested union.name := by
  cases r with
  | skipped action => cases hmethod
  | forwarded action names =>
    obtain ⟨-, hslots, -, -⟩ := h
    rw [← hslots]
    obtain rfl := Option.some.inj hmethod
    obtain ⟨i, hi, rfl⟩ := List.mem_iff_getElem.1 hparameter
    have hslot : i < action.slots.length := by
      rw [List.length_zipWith] at hi
      omega
    refine ⟨action.slots[i], List.getElem_mem hslot, ?_⟩
    rw [List.getElem_zipWith, ResolvedCase.parameter]

/-- The parameters of what is made of a reducer are the payloads of the cases
of its union. -/
theorem Reducer.exists_slot_of_generated {reducer : Reducer} {cases : List CaseMember}
    (hcases : union.cases = cases.map (CaseMember.actionCase settings.conventions.exclusion))
    (h : reducer.generated settings union = .ok generated)
    (hmethod : method ∈ generated.interface.methods) (hparameter : parameter ∈ method.parameters) :
    ∃ c ∈ cases, ∃ slot ∈ c.head.slots,
      parameter.type = slot.type.qualify union.nested union.name := by
  rw [Reducer.generated, hcases] at h
  rcases hresolved : (resolveAll settings
    (cases.map (CaseMember.actionCase settings.conventions.exclusion))).outcome with d | resolved
  · rw [hresolved] at h
    cases h
  · rw [hresolved] at h
    obtain rfl := Except.ok.inj h
    obtain ⟨r, hr, hsignature⟩ := List.mem_filterMap.1 hmethod
    obtain ⟨c, hc, hresolves⟩ :=
      exists_mem_of_forall₂ (forall₂_of_resolveAll hresolved).flip r hr
    exact ⟨c, hc, c.exists_slot_of_resolves hresolves hsignature hparameter⟩

/-- **Where the parameters come from.** A pass that succeeds was pointed at a
declaration with one enum of actions, and each parameter of the interface
has the type of a payload of one of its cases, qualified. -/
theorem Target.exists_slot_of_mem_parameters {n : Declaration} {i : DeclId} {anchor : Span}
    (h : ((Target.mk (.ofDeclaration n) i anchor).generation settings).outcome = .ok generated) :
    ∃ host action, n.listing[i]? = some host ∧
      host.members.filter (isAction settings.conventions.actionType) = [action] ∧
      ∀ method ∈ generated.interface.methods, ∀ parameter ∈ method.parameters,
        ∃ c ∈ action.caseMembers, ∃ slot ∈ c.head.slots,
          parameter.type = slot.type.qualify (nestedTypes action.members)
            settings.conventions.actionType := by
  have hlt : i < n.listing.length := by
    by_contra hge
    rw [length_listing, ← Arena.size_ofDeclaration] at hge
    rw [fails_of_notListed (Nat.le_of_not_lt hge)] at h
    cases h
  have hd := List.getElem?_eq_getElem hlt
  have hyields := yields_survey hd anchor settings
  rcases hsurvey : n.listing[i].survey (settings.isReducer (n.listing[i].entry i (n.memberStart i)))
    anchor settings.conventions with d | survey
  · rw [hsurvey, Survey.yields_error, h] at hyields
    cases hyields
  · rw [hsurvey] at hyields
    obtain ⟨reducer, -, houtcome⟩ := hyields
    obtain ⟨site, head, members, action, hhost, -, -, haction, hunion⟩ := survey_eq_ok hsurvey
    refine ⟨n.listing[i], action, hd, by rwa [hhost], ?_⟩
    intro method hmethod parameter hparameter
    rw [h, hunion] at houtcome
    exact Reducer.exists_slot_of_generated rfl houtcome.symm hmethod hparameter

/-! ## Reading back -/

/-- The types of payloads that can be stored are types that a text can
give. -/
theorem Declaration.Storable.wellFormed_slot {d : Declaration} (h : d.Storable) {c : CaseMember}
    (hc : c ∈ d.caseMembers) {slot : Slot} (hslot : slot ∈ c.head.slots) :
    slot.type.WellFormed := by
  cases h.of_mem_members (mem_caseMembers.1 hc) with
  | enumCase _ hhead =>
    obtain ⟨text, htext⟩ := (hhead slot hslot).type
    exact htext ▸ TypeExpr.wellFormed_ofText text

/-- **Qualified types are read back.** A type given by a text and then
qualified with an identifier is read from its own text as it is; and so is
the type of every parameter that a pass generates for a declaration that has
been read, if the enum of actions is called by an identifier. -/
theorem Target.qualifiedTypes_readBack :
    (∀ (text : String) (nested : List String) (space : String),
      Text.isIdentifier space = true →
        TypeExpr.ofText ((TypeExpr.ofText text).qualify nested space).text
          = (TypeExpr.ofText text).qualify nested space) ∧
      ∀ (json : Json) (n : Declaration) (i : DeclId) (anchor : Span) (settings : Settings)
        (generated : Generated),
        Declaration.ofJson? json = some n →
        Text.isIdentifier settings.conventions.actionType = true →
        ((Target.mk (.ofDeclaration n) i anchor).generation settings).outcome = .ok generated →
        ∀ method ∈ generated.interface.methods, ∀ parameter ∈ method.parameters,
          TypeExpr.ofText parameter.type.text = parameter.type := by
  refine ⟨fun text nested space hspace => TypeExpr.ofText_text_qualify text hspace, ?_⟩
  intro json n i anchor settings generated hjson hname h method hmethod parameter hparameter
  obtain ⟨host, action, hhost, haction, hparameters⟩ := exists_slot_of_mem_parameters h
  obtain ⟨c, hc, slot, hslot, htype⟩ := hparameters method hmethod parameter hparameter
  have hmember : action ∈ host.members := by
    have hmem : action ∈ host.members.filter (isAction settings.conventions.actionType) := by
      rw [haction]
      exact List.mem_singleton_self action
    exact List.mem_of_mem_filter hmem
  have hstorable : action.Storable :=
    ((n.storable_of_ofJson? json hjson).of_mem_listing (List.mem_of_getElem? hhost)).of_mem_members
      hmember
  rw [htype]
  exact ((hstorable.wellFormed_slot hc hslot).qualify hname).ofText_text

/-- A reducer whose only action carries values of a type declared among the
actions. -/
def pickerDeclaration : Declaration :=
  .aggregate {} { kind := .structType, name := "Picker", inherited := [.ofText "Reducer"] }
    [.aggregate {} { kind := .enumType, name := "Action" }
      [.enumCase {}
          { name := "pick", slots := [{ bind := some "items", type := .ofText "[Item ?]" }] },
        .aggregate {} { kind := .structType, name := "Item" } []]]

theorem ofJson?_toJson_pickerDeclaration :
    Declaration.ofJson? pickerDeclaration.toJson = some pickerDeclaration := by
  have hsite : Site.Storable {} := ⟨Span.storable_default, List.forall_mem_nil _⟩
  have hplain : ∀ kind name, Aggregate.Storable { kind, name } :=
    fun _ _ => ⟨Span.storable_default, List.forall_mem_nil _⟩
  have hpick : EnumCase.Storable
      { name := "pick", slots := [{ bind := some "items", type := .ofText "[Item ?]" }] } :=
    List.forall_mem_singleton.2 ⟨⟨_, rfl⟩, Span.storable_default⟩
  have hpicker : Aggregate.Storable
      { kind := .structType, name := "Picker", inherited := [.ofText "Reducer"] } :=
    ⟨Span.storable_default, List.forall_mem_singleton.2 ⟨_, rfl⟩⟩
  refine ofJson?_toJson_aggregate hsite hpicker (ofJsons?_toJsons (List.forall_mem_singleton.2 ?_))
  refine ofJson?_toJson_aggregate hsite (hplain _ _) (ofJsons?_toJsons ?_)
  rw [List.forall_mem_cons, List.forall_mem_singleton]
  exact ⟨ofJson?_toJson_enumCase hsite hpick,
    ofJson?_toJson_aggregate hsite (hplain _ _) (ofJsons?_toJsons (List.forall_mem_nil _))⟩

theorem picker_qualifiedTypes_readBack :
    TypeExpr.ofText ((TypeExpr.ofText "[Item ?]").qualify ["Item"] "Action").text
        = (TypeExpr.ofText "[Item ?]").qualify ["Item"] "Action" ∧
      ∃ (json : Json) (generated : Generated),
        Declaration.ofJson? json = some pickerDeclaration ∧
        ((Target.mk (.ofDeclaration pickerDeclaration) Arena.root {}).generation
          (.ofConventions {})).outcome = .ok generated ∧
        generated.interface.methods.map (·.parameters.map (·.type.text)) = [["[Action.Item?]"]] ∧
        ∀ method ∈ generated.interface.methods, ∀ parameter ∈ method.parameters,
          TypeExpr.ofText parameter.type.text = parameter.type := by
  have hname : Text.isIdentifier "Action" = true := by decide
  have hjson := ofJson?_toJson_pickerDeclaration
  have htexts : ((Target.mk (.ofDeclaration pickerDeclaration) Arena.root {}).generation
      (.ofConventions {})).outcome.map (·.interface.methods.map (·.parameters.map (·.type.text)))
        = .ok [["[Action.Item?]"]] := by cbv
  rcases hok : ((Target.mk (.ofDeclaration pickerDeclaration) Arena.root {}).generation
    (.ofConventions {})).outcome with d | generated
  · rw [hok] at htexts
    cases htexts
  · rw [hok] at htexts
    exact ⟨Target.qualifiedTypes_readBack.1 _ _ _ hname, _, generated, hjson, rfl,
      Except.ok.inj htexts, Target.qualifiedTypes_readBack.2 _ _ _ _ _ _ hjson hname hok⟩

end ActionRelay
