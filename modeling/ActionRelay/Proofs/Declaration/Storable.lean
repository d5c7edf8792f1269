import ActionRelay.Proofs.Declaration.RoundTrip
import ActionRelay.Proofs.Declaration.Visit
/-!
# Declarations — what is read can be stored

Every declaration that is read from JSON can be stored again
(`Declaration.storable_of_ofJson?`): its types come from texts, and no number
with more than 64 bits is read. This is so for each part of a declaration by
itself, and then for the whole by its members. What can be stored can be
taken apart, and all that stands in it can be stored too
(`Declaration.Storable.of_mem_listing`).
-/

namespace ActionRelay

/-! ## Fields that are read -/

namespace Json

variable {α : Type} {p : α → Prop} {item : Json → Option α} {json : Json} {value : Option Json}
variable {a default : α} {as : List α}

theorem lt_of_word?_eq_some {n : ℕ} (h : word? json = some n) : n < Nat.pow 2 64 := by
  cases json with
  | natural m =>
    rw [word?, Option.ite_none_right_eq_some] at h
    obtain ⟨hlt, hm⟩ := h
    exact Option.some.inj hm ▸ hlt
  | _ => cases h

/-- What holds of everything that is read holds of a field that has to be
there. -/
theorem of_required (hitem : ∀ json a, item json = some a → p a)
    (h : required item value = some a) : p a := by
  obtain ⟨json, -, hread⟩ := Option.bind_eq_some_iff.1 h
  exact hitem json a hread

/-- And of a field that may be left out, if it holds of the default. -/
theorem of_withDefault (hdefault : p default) (hitem : ∀ json a, item json = some a → p a)
    (h : withDefault default item value = some a) : p a := by
  cases value with
  | none => exact Option.some.inj h ▸ hdefault
  | some json => exact hitem json a h

/-- And of each item of a list. -/
theorem of_listOf? (hitem : ∀ json a, item json = some a → p a)
    (h : listOf? item json = some as) : ∀ a ∈ as, p a := by
  cases json with
  | array items =>
    rw [listOf?] at h
    induction items generalizing as with
    | nil =>
      obtain rfl := Option.some.inj h
      exact List.forall_mem_nil _
    | cons json items ih =>
      simp only [List.mapM_cons, Option.bind_eq_bind, Option.bind_eq_some_iff,
        Option.pure_def, Option.some.injEq] at h
      obtain ⟨a, hfirst, later, hlater, rfl⟩ := h
      exact List.forall_mem_cons.2 ⟨hitem json a hfirst, ih hlater⟩
  | _ => cases h

end Json

/-! ## Parts of a declaration -/

theorem Span.storable_default : Span.Storable {} :=
  ⟨by decide, by decide⟩

theorem Span.storable_of_ofJson? (json : Json) (span : Span) (h : Span.ofJson? json = some span) :
    span.Storable := by
  rw [Span.ofJson?] at h
  split at h
  case h_1 start stop _ =>
    simp only [Option.bind_eq_bind, Option.bind_eq_some_iff, Option.pure_def,
      Option.some.injEq] at h
    obtain ⟨first, hfirst, last, hlast, rfl⟩ := h
    have hword : ∀ json n, Json.word? json = some n → n < Nat.pow 2 64 :=
      fun _ _ => Json.lt_of_word?_eq_some
    exact ⟨Json.of_required (p := (· < Nat.pow 2 64)) hword hfirst,
      Json.of_required (p := (· < Nat.pow 2 64)) hword hlast⟩
  case h_2 => cases h

theorem Attribute.storable_of_ofJson? (json : Json) (a : Attribute)
    (h : Attribute.ofJson? json = some a) : a.span.Storable := by
  rw [Attribute.ofJson?] at h
  split at h
  case h_1 name span _ =>
    simp only [Option.bind_eq_bind, Option.bind_eq_some_iff, Option.pure_def,
      Option.some.injEq] at h
    obtain ⟨_, -, place, hplace, rfl⟩ := h
    exact Json.of_withDefault Span.storable_default Span.storable_of_ofJson? hplace
  case h_2 => cases h

/-- A type is read from a text. -/
theorem TypeExpr.storable_of_ofJson? (json : Json) (t : TypeExpr)
    (h : TypeExpr.ofJson? json = some t) : t.Storable := by
  obtain ⟨text, -, htext⟩ := Option.map_eq_some_iff.1 h
  exact ⟨text, htext⟩

theorem Slot.storable_of_ofJson? (json : Json) (slot : Slot) (h : Slot.ofJson? json = some slot) :
    slot.Storable := by
  rw [Slot.ofJson?] at h
  split at h
  case h_1 label bind type span _ =>
    simp only [Option.bind_eq_bind, Option.bind_eq_some_iff, Option.pure_def,
      Option.some.injEq] at h
    obtain ⟨_, -, _, -, t, htype, place, hplace, rfl⟩ := h
    exact ⟨Json.of_required TypeExpr.storable_of_ofJson? htype,
      Json.of_withDefault Span.storable_default Span.storable_of_ofJson? hplace⟩
  case h_2 => cases h

namespace Declaration

section Fields

variable {fields : JsonFields}

theorem site_storable_of_siteOfJson? {site : Site} (h : siteOfJson? fields = some site) :
    site.Storable := by
  simp only [siteOfJson?, readField, Option.bind_eq_bind, Option.bind_eq_some_iff,
    Option.pure_def, Option.some.injEq] at h
  obtain ⟨span, ⟨_, -, hspan⟩, text, -, attributes, ⟨_, -, hattributes⟩, rfl⟩ := h
  constructor
  · exact Json.of_withDefault Span.storable_default Span.storable_of_ofJson? hspan
  · exact Json.of_withDefault (p := fun as => ∀ a ∈ as, Span.Storable a.span)
      (List.forall_mem_nil _) (fun _ _ => Json.of_listOf? Attribute.storable_of_ofJson?) hattributes

theorem head_storable_of_headOfJson? {head : Aggregate} (h : headOfJson? fields = some head) :
    head.Storable := by
  simp only [headOfJson?, readField, Option.bind_eq_bind, Option.bind_eq_some_iff,
    Option.pure_def, Option.some.injEq] at h
  obtain ⟨kind, -, name, -, span, ⟨_, -, hspan⟩, modifiers, -, inherited, ⟨_, -, hinherited⟩,
    rfl⟩ := h
  constructor
  · exact Json.of_withDefault Span.storable_default Span.storable_of_ofJson? hspan
  · exact Json.of_withDefault (p := fun ts => ∀ t ∈ ts, TypeExpr.Storable t)
      (List.forall_mem_nil _) (fun _ _ => Json.of_listOf? TypeExpr.storable_of_ofJson?) hinherited

theorem case_storable_of_caseOfJson? {head : EnumCase} (h : caseOfJson? fields = some head) :
    head.Storable := by
  simp only [caseOfJson?, readField, Option.bind_eq_bind, Option.bind_eq_some_iff,
    Option.pure_def, Option.some.injEq] at h
  obtain ⟨name, -, slots, ⟨_, -, hslots⟩, rfl⟩ := h
  exact Json.of_withDefault (p := fun slots => ∀ slot ∈ slots, Slot.Storable slot)
    (List.forall_mem_nil _) (fun _ _ => Json.of_listOf? Slot.storable_of_ofJson?) hslots

end Fields

/-! ## Whole declarations -/

/-- **What has been read** of a declaration can be stored: its site and its
head; and its members have been read too. -/
theorem parts_storable_of_ofJson? {json : Json} {d : Declaration} :
    ofJson? json = some d →
      d.site.Storable ∧
        match d with
        | .aggregate _ head members => head.Storable ∧ ∃ items, ofJsons? items = some members
        | .enumCase _ head => head.Storable
        | .other _ => True := by
  intro h
  cases json with
  | object fields =>
    rw [ofJson?] at h
    simp only [Option.bind_eq_bind, Option.bind_eq_some_iff, Option.pure_def] at h
    obtain ⟨site, hsite, tag, -, hparts⟩ := h
    have hsite := site_storable_of_siteOfJson? hsite
    cases tag with
    | aggregate =>
      obtain ⟨head, hhead, hmembers⟩ := Option.bind_eq_some_iff.1 hparts
      split at hmembers
      · cases hmembers
      · obtain ⟨members, hitems, heq⟩ := Option.bind_eq_some_iff.1 hmembers
        obtain rfl := Option.some.inj heq
        exact ⟨hsite, head_storable_of_headOfJson? hhead, _, hitems⟩
    | enumCase =>
      obtain ⟨head, hhead, heq⟩ := Option.bind_eq_some_iff.1 hparts
      obtain rfl := Option.some.inj heq
      exact ⟨hsite, case_storable_of_caseOfJson? hhead⟩
    | other =>
      obtain rfl := Option.some.inj hparts
      exact ⟨hsite, trivial⟩
  | _ => simp [ofJson?] at h

mutual

/-- **What is read can be stored.** -/
theorem storable_of_ofJson? :
    (d : Declaration) → (json : Json) → ofJson? json = some d → d.Storable
  | .aggregate _ _ members, _, h => by
    obtain ⟨hsite, hhead, items, hitems⟩ := parts_storable_of_ofJson? h
    exact .aggregate hsite hhead (storable_of_ofJsons? members items hitems)
  | .enumCase _ _, _, h => by
    obtain ⟨hsite, hhead⟩ := parts_storable_of_ofJson? h
    exact .enumCase hsite hhead
  | .other _, _, h => .other (parts_storable_of_ofJson? h).1

theorem storable_of_ofJsons? :
    (ds : List Declaration) → (jsons : List Json) → ofJsons? jsons = some ds →
      ∀ d ∈ ds, d.Storable
  | [], _, _ => List.forall_mem_nil _
  | d :: ds, [], h => by
    rw [ofJsons?] at h
    cases h
  | d :: ds, json :: jsons, h => by
    rw [ofJsons?] at h
    simp only [Option.bind_eq_bind, Option.bind_eq_some_iff, Option.pure_def, Option.some.injEq,
      List.cons.injEq] at h
    obtain ⟨_, hfirst, _, hlater, rfl, rfl⟩ := h
    exact List.forall_mem_cons.2
      ⟨storable_of_ofJson? _ json hfirst, storable_of_ofJsons? _ jsons hlater⟩

end

/-! ## What stands in a declaration -/

/-- What holds of a declaration and is handed down to members holds of all
that stands in it. -/
theorem forall_mem_listing {p : Declaration → Prop} {n : Declaration}
    (hmembers : ∀ d, p d → ∀ member ∈ d.members, p member) (h : p n) : ∀ d ∈ n.listing, p d := by
  have hlisting : List.Forall₂ (fun d d' => d = d' ∧ p d) n.listing n.listing := by
    refine forall₂_listing ?_ ⟨rfl, h⟩
    rintro d _ ⟨rfl, hd⟩
    exact List.forall₂_same.2 fun member hmember => ⟨rfl, hmembers d hd member hmember⟩
  exact fun d hd => (List.forall₂_same.1 hlisting d hd).2

theorem Storable.of_mem_members {d member : Declaration} (h : d.Storable)
    (hmember : member ∈ d.members) : member.Storable := by
  cases h with
  | aggregate _ _ hmembers => exact hmembers member hmember
  | enumCase _ _ => cases hmember
  | other _ => cases hmember

/-- All that stands in a declaration that can be stored can be stored. -/
theorem Storable.of_mem_listing {n d : Declaration} (h : n.Storable) (hd : d ∈ n.listing) :
    d.Storable :=
  forall_mem_listing (fun _ h _ => h.of_mem_members) h d hd

end Declaration

end ActionRelay
