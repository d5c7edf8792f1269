import ActionRelay.Declaration.Codec
import ActionRelay.Proofs.Declaration.Copy
import ActionRelay.Proofs.TypeExpr.RoundTrip
/-!
# Declarations — reading undoes writing

A declaration that is written as JSON is read back as it was, whatever its
kind and however deep it is nested
(`Declaration.ofJson?_toJson_of_storable`). This needs two things of it
(`Declaration.Storable`): its types are types that a text can give, as they
are stored as texts, and the numbers in its spans have at most 64 bits.

The fields that every declaration has and those of its kind share one
object, in which no key stands twice. So each field is found by its key
(`Json.holds_record`), and each part of a declaration is read from any
object that holds the fields of that part.
-/

namespace ActionRelay

/-! ## Fields of an object -/

namespace Json

/-- Whether each of the given fields is the only one of its key. -/
def Holds (fields : List (Option String × Json)) (own : List (String × Json)) : Prop :=
  ∀ key value, (key, value) ∈ own → field? fields key = some (some value)

variable {own : List (String × Json)}

@[simp] theorem string?_text (s : String) : string? (text s) = some s := rfl

theorem filter_key_eq_singleton (hkeys : (own.map Prod.fst).Nodup) {key : String} {value : Json}
    (h : (key, value) ∈ own) : own.filter (·.1 == key) = [(key, value)] := by
  induction own with
  | nil => cases h
  | cons field own ih =>
    simp only [List.map_cons, List.nodup_cons, List.mem_map, not_exists, not_and] at hkeys
    rcases List.mem_cons.1 h with rfl | hlater
    · -- no later field has the key again
      have hnone : own.filter (·.1 == key) = [] := by
        simpa [List.filter_eq_nil_iff] using fun k v hmem => hkeys.1 (k, v) hmem
      rw [List.filter_cons_of_pos (by simp), hnone]
    · have hne : field.1 ≠ key := fun heq => hkeys.1 (key, value) hlater heq.symm
      rw [List.filter_cons_of_neg (by simpa using hne), ih hkeys.2 hlater]

/-- A record without repeated keys holds all its fields. -/
theorem holds_record (keys : List String) (hown : own.map Prod.fst = keys) (hkeys : keys.Nodup) :
    Holds (own.map fun (key, value) => (some key, value)) own := by
  subst hown
  intro key value hmem
  have hfilter : (own.map fun (key, value) => (some key, value)).filter (·.1 == some key)
      = [(some key, value)] := by
    have hcomp : ((·.1 == some key) ∘ fun (field : String × Json) => (some field.1, field.2))
        = (·.1 == key) := by
      funext field
      simp
    rw [List.filter_map, hcomp, filter_key_eq_singleton hkeys hmem, List.map_singleton]
  rw [field?, hfilter]

/-- The values of a record's fields, asked for in their order. -/
theorem fields?_record (keys : List String) (hown : own.map Prod.fst = keys)
    (hkeys : keys.Nodup) :
    (record own).fields? keys = some (own.map fun field => some field.2) := by
  rw [record, fields?]
  refine mapM_eq_some_of_forall₂ ?_
  rw [← hown, List.forall₂_map_left_iff, List.forall₂_map_right_iff]
  exact List.forall₂_same.2 fun field hfield => holds_record keys hown hkeys field.1 field.2 hfield

/-- A list is read back if each of its items is. -/
theorem listOf?_array {α : Type} {item : Json → Option α} {write : α → Json} {as : List α}
    (h : ∀ a ∈ as, item (write a) = some a) :
    listOf? item (.array (as.map write)) = some as := by
  rw [listOf?]
  refine mapM_eq_some_of_forall₂ ?_
  rw [List.forall₂_map_left_iff]
  exact List.forall₂_same.2 h

end Json

/-! ## Declarations that can be stored -/

/-- Whether both ends have at most 64 bits. -/
def Span.Storable (span : Span) : Prop :=
  span.start < Nat.pow 2 64 ∧ span.stop < Nat.pow 2 64

/-- Whether the type is one that a text gives. -/
def TypeExpr.Storable (t : TypeExpr) : Prop :=
  ∃ text, TypeExpr.ofText text = t

/-- Whether the type and the span can be stored. -/
structure Slot.Storable (slot : Slot) : Prop where
  type : slot.type.Storable
  span : slot.span.Storable

/-- Whether all spans of a site can be stored. -/
structure Site.Storable (site : Site) : Prop where
  span : site.span.Storable
  attributes : ∀ a ∈ site.attributes, a.span.Storable

/-- Whether the span of the name and all inherited types can be stored. -/
structure Aggregate.Storable (head : Aggregate) : Prop where
  nameSpan : head.nameSpan.Storable
  inherited : ∀ t ∈ head.inherited, t.Storable

/-- Whether all payloads can be stored. -/
def EnumCase.Storable (head : EnumCase) : Prop :=
  ∀ slot ∈ head.slots, slot.Storable

/-- **Whether a declaration can be stored**: all types in it are types that
a text gives, and all spans in it have at most 64 bits. -/
inductive Declaration.Storable : Declaration → Prop
  | aggregate {site : Site} {head : Aggregate} {members : List Declaration} :
      site.Storable → head.Storable → (∀ member ∈ members, member.Storable) →
      Storable (.aggregate site head members)
  | enumCase {site : Site} {head : EnumCase} :
      site.Storable → head.Storable → Storable (.enumCase site head)
  | other {site : Site} : site.Storable → Storable (.other site)

/-! ## Parts of a declaration -/

theorem Span.ofJson?_toJson {span : Span} (h : span.Storable) :
    Span.ofJson? span.toJson = some span := by
  have hword : ∀ n < Nat.pow 2 64, Json.word? (.natural n) = some n := fun n hn => if_pos hn
  rw [Span.ofJson?, Span.toJson, Json.fields?_record ["start", "end"] rfl (by decide)]
  simp [Json.required, hword _ h.1, hword _ h.2]

theorem Attribute.ofJson?_toJson {a : Attribute} (h : a.span.Storable) :
    Attribute.ofJson? a.toJson = some a := by
  rw [Attribute.ofJson?, Attribute.toJson, Json.fields?_record ["name", "span"] rfl (by decide)]
  simp [Json.required, Json.withDefault, Span.ofJson?_toJson h]

theorem TypeExpr.ofJson?_text {t : TypeExpr} (h : t.Storable) :
    TypeExpr.ofJson? (.text t.text) = some t := by
  obtain ⟨text, rfl⟩ := h
  rw [TypeExpr.ofJson?, Json.string?_text, Option.map_some, (wellFormed_ofText text).ofText_text]

theorem Slot.optionalString?_nameToJson (name : Option String) :
    Json.optionalString? (nameToJson name) = some name := by
  cases name <;> rfl

theorem Slot.ofJson?_toJson {slot : Slot} (h : slot.Storable) :
    Slot.ofJson? slot.toJson = some slot := by
  rw [Slot.ofJson?, Slot.toJson,
    Json.fields?_record ["label", "bind", "type", "span"] rfl (by decide)]
  simp [Json.required, Json.withDefault, optionalString?_nameToJson, TypeExpr.ofJson?_text h.type,
    Span.ofJson?_toJson h.span]

theorem AggregateKind.ofJson?_keyword (kind : AggregateKind) :
    AggregateKind.ofJson? (.text kind.keyword) = some kind := by
  cases kind <;> decide

namespace Declaration

section Fields

variable {fields : JsonFields} {own : List (String × Json)}

theorem readField_of_holds {α : Type} {key : String} (value : Json)
    {read : Option Json → Option α} (h : Json.Holds fields own) (hmem : (key, value) ∈ own) :
    readField fields key read = read (some value) := by
  rw [readField, h key value hmem, Option.bind_some]

theorem siteOfJson?_of_holds {site : Site} (hsite : site.Storable)
    (h : Json.Holds fields site.jsonFields) : siteOfJson? fields = some site := by
  have hattributes : Json.listOf? Attribute.ofJson? (.array (site.attributes.map Attribute.toJson))
      = some site.attributes :=
    Json.listOf?_array fun a ha => Attribute.ofJson?_toJson (hsite.attributes a ha)
  rw [siteOfJson?, readField_of_holds site.span.toJson h (by simp [Site.jsonFields]),
    readField_of_holds (.text site.text) h (by simp [Site.jsonFields]),
    readField_of_holds (.array (site.attributes.map Attribute.toJson)) h
      (by simp [Site.jsonFields])]
  simp [Json.withDefault, Span.ofJson?_toJson hsite.span, hattributes]

theorem headOfJson?_of_holds {head : Aggregate} (hhead : head.Storable)
    (h : Json.Holds fields head.jsonFields) : headOfJson? fields = some head := by
  have hmodifiers : Json.listOf? Json.string? (.array (head.modifiers.map .text))
      = some head.modifiers := Json.listOf?_array fun s _ => Json.string?_text s
  have hinherited : Json.listOf? TypeExpr.ofJson?
      (.array (head.inherited.map fun type => .text type.text)) = some head.inherited :=
    Json.listOf?_array fun t ht => TypeExpr.ofJson?_text (hhead.inherited t ht)
  rw [headOfJson?, readField_of_holds (.text head.kind.keyword) h (by simp [Aggregate.jsonFields]),
    readField_of_holds (.text head.name) h (by simp [Aggregate.jsonFields]),
    readField_of_holds head.nameSpan.toJson h (by simp [Aggregate.jsonFields]),
    readField_of_holds (.array (head.modifiers.map .text)) h (by simp [Aggregate.jsonFields]),
    readField_of_holds (.array (head.inherited.map fun type => .text type.text)) h
      (by simp [Aggregate.jsonFields])]
  simp [Json.required, Json.withDefault, AggregateKind.ofJson?_keyword,
    Span.ofJson?_toJson hhead.nameSpan, hmodifiers, hinherited]

theorem caseOfJson?_of_holds {head : EnumCase} (hhead : head.Storable)
    (h : Json.Holds fields head.jsonFields) : caseOfJson? fields = some head := by
  have hslots : Json.listOf? Slot.ofJson? (.array (head.slots.map Slot.toJson))
      = some head.slots :=
    Json.listOf?_array fun slot hslot => Slot.ofJson?_toJson (hhead slot hslot)
  rw [caseOfJson?, readField_of_holds (.text head.name) h (by simp [EnumCase.jsonFields]),
    readField_of_holds (.array (head.slots.map Slot.toJson)) h (by simp [EnumCase.jsonFields])]
  simp [Json.required, Json.withDefault, hslots]

end Fields

/-! ## Whole declarations -/

/-- All fields of a declaration, those of its site first. -/
def jsonFields : Declaration → List (String × Json)
  | .aggregate site head members =>
    site.jsonFields ++ ("decl", .text "aggregate") :: head.jsonFields
      ++ [("members", .array (toJsons members))]
  | .enumCase site head => site.jsonFields ++ ("decl", .text "case") :: head.jsonFields
  | .other site => site.jsonFields ++ [("decl", .text "other")]

/-- The object that a declaration is written as. -/
def jsonObject (d : Declaration) : JsonFields :=
  d.jsonFields.map fun (key, value) => (some key, value)

theorem toJson_eq_object (d : Declaration) : d.toJson = .object d.jsonObject := by
  cases d <;> rw [toJson] <;> rfl

/-- No key stands twice, whatever the kind. -/
theorem holds_jsonObject (d : Declaration) : Json.Holds d.jsonObject d.jsonFields := by
  cases d with
  | aggregate site head members =>
    exact Json.holds_record
      ["span", "text", "attributes", "decl", "kind", "name", "name_span", "modifiers",
        "inherited_types", "members"] rfl (by decide)
  | enumCase site head =>
    exact Json.holds_record ["span", "text", "attributes", "decl", "name", "slots"] rfl (by decide)
  | other site =>
    exact Json.holds_record ["span", "text", "attributes", "decl"] rfl (by decide)

/-- The kind of a declaration. -/
def tag : Declaration → Tag
  | .aggregate _ _ _ => .aggregate
  | .enumCase _ _ => .enumCase
  | .other _ => .other

theorem readField_decl (d : Declaration) :
    readField d.jsonObject "decl" (Json.required Tag.ofJson?) = some d.tag := by
  cases d with
  | aggregate site head members =>
    exact readField_of_holds (.text "aggregate") (holds_jsonObject _) (by simp [jsonFields])
  | enumCase site head =>
    exact readField_of_holds (.text "case") (holds_jsonObject _) (by simp [jsonFields])
  | other site =>
    exact readField_of_holds (.text "other") (holds_jsonObject _) (by simp [jsonFields])

/-- The site is read from among all fields. -/
theorem siteOfJson?_jsonObject (d : Declaration) (h : d.site.Storable) :
    siteOfJson? d.jsonObject = some d.site := by
  have hsubset : d.site.jsonFields ⊆ d.jsonFields := by
    cases d <;> simp [jsonFields, Declaration.site]
  exact siteOfJson?_of_holds h fun key value hmem => holds_jsonObject d key value (hsubset hmem)

/-- **An aggregate** is read back if its members are. -/
theorem ofJson?_toJson_aggregate {site : Site} {head : Aggregate} {members : List Declaration}
    (hsite : site.Storable) (hhead : head.Storable)
    (hmembers : ofJsons? (toJsons members) = some members) :
    ofJson? (toJson (.aggregate site head members)) = some (.aggregate site head members) := by
  have hholds := holds_jsonObject (.aggregate site head members)
  have hread : headOfJson? (jsonObject (.aggregate site head members)) = some head :=
    headOfJson?_of_holds hhead fun key value hmem => hholds key value (by simp [jsonFields, hmem])
  have hitems : memberJsons? (jsonObject (.aggregate site head members))
      = some (toJsons members) := by
    rw [memberJsons?, hholds "members" (.array (toJsons members)) (by simp [jsonFields])]
  rw [toJson_eq_object, ofJson?, siteOfJson?_jsonObject (.aggregate site head members) hsite,
    readField_decl]
  simp only [Option.bind_eq_bind, Option.bind_some, tag, hread]
  -- the reader keeps the equation for its members, as its recursion needs it
  split
  case h_1 hnone => cases hnone.symm.trans hitems
  case h_2 items hsome =>
    obtain rfl := Option.some.inj (hsome.symm.trans hitems)
    rw [hmembers]
    rfl

/-- **A case** is read back. -/
theorem ofJson?_toJson_enumCase {site : Site} {head : EnumCase} (hsite : site.Storable)
    (hhead : head.Storable) :
    ofJson? (toJson (.enumCase site head)) = some (.enumCase site head) := by
  have hread : caseOfJson? (jsonObject (.enumCase site head)) = some head :=
    caseOfJson?_of_holds hhead fun key value hmem =>
      holds_jsonObject _ key value (by simp [jsonFields, hmem])
  rw [toJson_eq_object, ofJson?, siteOfJson?_jsonObject (.enumCase site head) hsite,
    readField_decl]
  simp [tag, hread, Declaration.site]

/-- **Any other declaration** is read back. -/
theorem ofJson?_toJson_other {site : Site} (hsite : site.Storable) :
    ofJson? (toJson (.other site)) = some (.other site) := by
  rw [toJson_eq_object, ofJson?, siteOfJson?_jsonObject (.other site) hsite, readField_decl]
  simp [tag, Declaration.site]

theorem ofJsons?_toJsons {ds : List Declaration} (h : ∀ d ∈ ds, ofJson? d.toJson = some d) :
    ofJsons? (toJsons ds) = some ds := by
  induction ds with
  | nil => rw [toJsons, ofJsons?]
  | cons d ds ih =>
    rw [List.forall_mem_cons] at h
    rw [toJsons, ofJsons?, h.1, ih h.2]
    rfl

/-- **Reading undoes writing**: a declaration whose types are types that a
text gives, and whose spans have at most 64 bits, is read back from what it
is written as. -/
theorem ofJson?_toJson_of_storable {d : Declaration} (h : d.Storable) :
    ofJson? d.toJson = some d := by
  induction h with
  | aggregate hsite hhead _ ih => exact ofJson?_toJson_aggregate hsite hhead (ofJsons?_toJsons ih)
  | enumCase hsite hhead => exact ofJson?_toJson_enumCase hsite hhead
  | other hsite => exact ofJson?_toJson_other hsite

end Declaration

/-- A struct with a span that just fits, and with a case whose payload has a
second name only and a type in which much is nested. -/
def seekerDeclaration : Declaration :=
  .aggregate
    { span := ⟨0, Nat.pow 2 64 - 1⟩
      text := "struct Seeker"
      attributes := [⟨"Observed", ⟨3, 11⟩⟩] }
    { kind := .structType, name := "Seeker", modifiers := ["private"]
      inherited := [.ofText "Reducer"] }
    [.aggregate {} { kind := .enumType, name := "Action" }
      [.enumCase {}
        { name := "seek"
          slots := [{ bind := some "place", type := .ofText "Result<Int, [Text: ()]>?" }] }],
      .other { text := "let depth = 1" }]

theorem seekerDeclaration_roundTrip : seekerDeclaration.Storable ∧
    Declaration.ofJson? seekerDeclaration.toJson = some seekerDeclaration := by
  have hspan : Span.Storable {} := ⟨by decide, by decide⟩
  have hslot : Slot.Storable { bind := some "place", type := .ofText "Result<Int, [Text: ()]>?" } :=
    ⟨⟨_, rfl⟩, hspan⟩
  have hseek : EnumCase.Storable
      { name := "seek"
        slots := [{ bind := some "place", type := .ofText "Result<Int, [Text: ()]>?" }] } := by
    simpa [EnumCase.Storable] using hslot
  have hstorable : seekerDeclaration.Storable := by
    refine .aggregate ⟨⟨by decide, by decide⟩, ?_⟩ ⟨hspan, ?_⟩ ?_
    · simpa using ⟨by decide, by decide⟩
    · simpa using ⟨_, rfl⟩
    · simp only [List.forall_mem_cons, List.not_mem_nil, false_imp_iff, implies_true, and_true]
      refine ⟨.aggregate ⟨hspan, by simp⟩ ⟨hspan, by simp⟩ ?_, .other ⟨hspan, by simp⟩⟩
      simpa using .enumCase ⟨hspan, by simp⟩ hseek
  exact ⟨hstorable, Declaration.ofJson?_toJson_of_storable hstorable⟩

end ActionRelay
