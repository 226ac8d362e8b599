import SchemaBridge.Proofs.JsonSchema.Complaints
import SchemaBridge.Proofs.JsonSchema.RoundTrip
import SchemaBridge.Proofs.JsonSchema.Shapes

/-!
This module contains the schemas whose documents can be read at all, whether or not this gives the
same schema again. A reader can refuse only the names of the types in a document that was written.
Main definition: `Readable`. Main statements: `exists_ofJson_toJson_iff`,
`eq_malformed_type_of_toJson`.
-/

namespace SchemaBridge

namespace JsonSchema

def Body.Readable : Body JsonSchema → Prop
  | .union list => NamedUnion list.toList
  | _ => True

theorem Body.readable_of_kind? {body : Body JsonSchema} {kind : Kind}
    (hkind : body.kind? = some kind)
    : body.Readable := by
  cases body <;> trivial

/--
All unions in a schema name different types.
-/
def Readable (s : JsonSchema) : Prop :=
  Everywhere Body.subschemas (fun s => s.body.Readable) s

/-!
A reader complains about nothing but `type`.
-/

section Errors

/--
An object in which only `type` is ever malformed.
-/
structure OnlyTypes (document : Json) : Prop where
  object : IsObject document
  errors : ∀ e, ofJson document = .error e →
    ∃ path expected, e = .malformed path "type" expected

theorem document_of_inside {D : Json → Prop} {shape : Shape} {value document : Json}
    {steps : Json.Pointer} (hfits : Fits D shape value)
    (hinside : Inside shape value steps document) (hobject : IsObject document)
    : D document := by
  obtain ⟨members, rfl⟩ := hobject
  cases hinside with
  | schema =>
    cases hfits
    assumption
  | orSchema =>
    cases hfits
    assumption
  | item item =>
    cases hfits with
    | schemas _ schemas => exact schemas _ (List.mem_of_getElem? item)
  | entry entry =>
    cases hfits with
    | schemaMap _ schemas => exact schemas _ entry

theorem two_le_of_typeEntry {body : Body Printed} {names : List Json}
    (h : Members.last? (Printed.typeEntry body) "type" = some (.array names))
    : 2 ≤ names.length := by
  cases body with
  | union list =>
    rw [← Json.array.inj (Option.some.inj h)]
    simp [TwoOrMore.toList]
  | _ => cases h

theorem onlyTypes_of_entries {s : JsonSchema} (h : ∀ e ∈ s.body.entries, Shaped OnlyTypes e)
    : OnlyTypes s.toJson := by
  obtain ⟨members, hmembers⟩ : IsObject s.toJson := ⟨_, toJson_eq s⟩
  refine ⟨⟨members, hmembers⟩, ?_⟩
  rw [hmembers]
  intro e herror
  cases complaint_of_ofJson herror with
  | type _ expected => exact ⟨[], expected, rfl⟩
  | fewTypes present few =>
    have hget := (present?_eq_some_iff.mp present).1
    rw [get?_type hmembers] at hget
    exact (Nat.not_lt.mpr (two_le_of_typeEntry hget) few).elim
  | own known present unfit =>
    refine (unfit ?_).elim
    exact (fits_of_present? hmembers h known present).mono fun _ _ h => h.object
  | inner known present inside object error =>
    have hfits := fits_of_present? hmembers h known present
    obtain ⟨path, expected, rfl⟩ := (document_of_inside hfits inside object).errors _ error
    exact ⟨_, expected, rfl⟩

/--
If the document of a schema is refused, then for the names under some `type` in it.
-/
theorem eq_malformed_type_of_toJson {s : JsonSchema} {e : SchemaError}
    (h : ofJson s.toJson = .error e)
    : ∃ path expected, e = .malformed path "type" expected := by
  have hall : Everywhere Body.subschemas (fun _ => True) s := everywhere_of_forall (fun _ => trivial) s
  have honly := (document_and_entries (fun _ _ => onlyTypes_of_entries) hall).1
  exact honly.errors e h

end Errors

/-!
If all unions name different types, every keyword of the document has its shape.
-/

theorem exists_namesTypes {s : JsonSchema} {members : Members Json}
    (hmembers : s.toJson = .object members) (h : s.body.Readable)
    : ∃ kinds, NamesTypes members kinds := by
  have htype := get?_type hmembers
  cases hkind : s.body.kind? with
  | some kind =>
    rw [Body.typeEntry_of_kind? hkind] at htype
    exact ⟨[kind], .one kind (present?_of_get? htype rfl)⟩
  | none =>
    obtain ⟨annotations, body⟩ := s
    cases body with
    | untyped =>
      refine ⟨[], .none ?_⟩
      rw [present?, htype]
      rfl
    | union list =>
      obtain ⟨kinds, hkinds⟩ := exists_kinds h.kinds
      rw [typeEntry_union hkinds] at htype
      refine ⟨kinds, .several kinds (present?_of_get? htype rfl) ?_ ?_⟩
      . rw [hkinds.length_eq]
        exact Nat.le_add_left 2 _
      . apply List.Nodup.of_map Kind.name
        rw [← typeNames_eq hkinds]
        exact h.distinct
    | _ => cases hkind

theorem exists_ofJson_of_entries {s : JsonSchema} (hreadable : s.body.Readable)
    (h : ∀ e ∈ s.body.entries, Shaped (fun document => ∃ t, ofJson document = .ok t) e)
    : ∃ t, ofJson s.toJson = .ok t := by
  obtain ⟨members, hmembers⟩ : IsObject s.toJson := ⟨_, toJson_eq s⟩
  have hfits (entry : String × Shape) (hknown : entry ∈ keywordShapes)
      : FitsIn (fun document => ∃ t, ofJson document = .ok t) members entry :=
    fun _ hpresent => fits_of_present? hmembers h hknown hpresent
  obtain ⟨kinds, hkinds⟩ := exists_namesTypes hmembers hreadable
  simp only [hmembers, ofJson_object_eq_ok_iff]
  rw [exists_spelledBy_iff]
  refine ⟨kinds, hkinds, ?_, ?_⟩
  . intro entry hentry
    exact hfits entry (List.mem_append_left _ hentry)
  . intro kind _ entry hentry
    have hall : kind ∈ Kind.all := by cases kind <;> decide
    exact hfits entry (List.mem_append_right _ (List.mem_flatMap.mpr ⟨kind, hall, hentry⟩))

/-!
The documents of subschemas can be found in the object by the shapes of the keywords.
-/

section Documents

variable {D : Json → Prop} {members : Members Json}

def Writes (document : Json) (s : JsonSchema) : Prop :=
  document = s.toJson

section Slots

variable {keyword : String}

theorem documents_schema {s : Option JsonSchema} (h : FitsIn D members (keyword, .schema))
    (hs : Spelled members keyword Writes s)
    : ∀ c ∈ s.toList, D c.toJson := by
  intro c hc
  obtain rfl := Option.mem_toList.mp hc
  obtain ⟨_, hpresent, rfl⟩ := hs.exists_present
  cases h _ hpresent with
  | schema schema => exact schema

theorem documents_boolOr {slot : Option (BoolOr JsonSchema)}
    (h : FitsIn D members (keyword, .boolOrSchema))
    (hslot : Spelled members keyword (boolOr Writes) slot)
    : ∀ c ∈ slotSubschemas slot, D c.toJson := by
  intro c hc
  rcases slot with _ | _ | s
  . cases hc
  . cases hc
  . obtain rfl := List.mem_singleton.mp hc
    obtain ⟨document, hpresent, hdocument⟩ := hslot.exists_present
    have hdocument : document = c.toJson := hdocument
    cases h _ hpresent with
    | bool b =>
      rw [toJson_eq] at hdocument
      cases hdocument
    | orSchema schema =>
      rw [← hdocument]
      exact schema

theorem documents_each {list : Option (List JsonSchema)} (h : FitsIn D members (keyword, .schemas))
    (hlist : Spelled members keyword (each Writes) list)
    : ∀ c ∈ list.getD [], D c.toJson := by
  intro c hc
  cases list with
  | none => cases hc
  | some list =>
    obtain ⟨_, hpresent, items, rfl, hitems⟩ := hlist.exists_present
    obtain ⟨_, hitem, rfl⟩ := exists_left_of_forall₂ hitems hc
    cases h _ hpresent with
    | schemas _ schemas => exact schemas _ hitem

theorem documents_named {list : Option (List (String × JsonSchema))}
    (h : FitsIn D members (keyword, .schemaMap))
    (hlist : Spelled members keyword (named Writes) list)
    : ∀ c ∈ namedSubschemas list, D c.toJson := by
  intro c hc
  cases list with
  | none => cases hc
  | some list =>
    obtain ⟨property, hproperty, rfl⟩ := List.mem_map.mp hc
    obtain ⟨_, hpresent, entries, rfl, hentries⟩ := hlist.exists_present
    obtain ⟨entry, hentry, -, hdocument⟩ := exists_left_of_forall₂ hentries hproperty
    cases h _ hpresent with
    | schemaMap _ schemas => exact hdocument ▸ schemas entry hentry

end Slots

theorem documents_array {items : Option (BoolOr JsonSchema)} {k : ArrayKeywords JsonSchema}
    (hfits : ∀ entry ∈ Kind.array.shapes, FitsIn D members entry)
    (hitems : Spelled members "items" (boolOr Writes) items) (hk : k.SpelledBy Writes members)
    : ∀ c ∈ slotSubschemas items ++ k.subschemas, D c.toJson := by
  simp only [Kind.shapes, List.forall_mem_cons] at hfits
  obtain ⟨items, prefixItems, additionalItems, unevaluatedItems, contains, -⟩ := hfits
  simp only [ArrayKeywords.subschemas, List.append_assoc, List.forall_mem_append]
  exact ⟨documents_boolOr items hitems, documents_each prefixItems hk.prefixItems,
    documents_boolOr additionalItems hk.additionalItems,
    documents_boolOr unevaluatedItems hk.unevaluatedItems, documents_schema contains hk.contains⟩

theorem documents_object {properties : Option (List (String × JsonSchema))}
    {k : ObjectKeywords JsonSchema} (hfits : ∀ entry ∈ Kind.object.shapes, FitsIn D members entry)
    (hproperties : Spelled members "properties" (named Writes) properties)
    (hk : k.SpelledBy Writes members)
    : ∀ c ∈ namedSubschemas properties ++ k.subschemas, D c.toJson := by
  simp only [Kind.shapes, List.forall_mem_cons] at hfits
  obtain ⟨properties, -, additionalProperties, patternProperties, unevaluatedProperties, -, -,
    allOf, anyOf, oneOf, negated, condition, consequent, alternative, propertyNames, -,
    dependentSchemas, -⟩ := hfits
  simp only [ObjectKeywords.subschemas, List.append_assoc, List.forall_mem_append]
  exact ⟨documents_named properties hproperties,
    documents_boolOr additionalProperties hk.additionalProperties,
    documents_named patternProperties hk.patternProperties,
    documents_boolOr unevaluatedProperties hk.unevaluatedProperties,
    documents_each allOf hk.allOf, documents_each anyOf hk.anyOf, documents_each oneOf hk.oneOf,
    documents_schema negated hk.negated, documents_schema condition hk.condition,
    documents_schema consequent hk.consequent, documents_schema alternative hk.alternative,
    documents_schema propertyNames hk.propertyNames,
    documents_named dependentSchemas hk.dependentSchemas⟩

theorem Body.documents {body : Body JsonSchema} {kind : Kind} (hkind : body.kind? = some kind)
    (hfits : ∀ entry ∈ kind.shapes, FitsIn D members entry)
    (h : kind.isNumeric = false → ∀ keyword ∈ kind.keywords,
      members.get? keyword = Members.last? body.entries keyword)
    : ∀ c ∈ body.subschemas, D c.toJson := by
  have hwrites (s : JsonSchema) : Writes s.toJson s := rfl
  cases body with
  | array items k =>
    obtain rfl := Option.some.inj hkind
    rw [entries_array] at h
    obtain ⟨hitems, hk⟩ := ArrayKeywords.spelledBy (h rfl) isNull_toJson fun s _ => hwrites s
    exact documents_array hfits hitems hk
  | object properties required k =>
    obtain rfl := Option.some.inj hkind
    rw [entries_object] at h
    obtain ⟨hproperties, hk⟩ := ObjectKeywords.spelledBy (h rfl) isNull_toJson fun s _ => hwrites s
    exact documents_object hfits hproperties hk
  | union => cases hkind
  | _ => exact nofun

variable {R : Json → JsonSchema → Prop}

theorem documents_of_kind? {s : JsonSchema} (hmembers : s.toJson = .object members) {kind : Kind}
    (hkind : s.body.kind? = some kind) {body : Body JsonSchema} (h : body.SpelledBy R members)
    : ∀ c ∈ s.body.subschemas, ∃ t, R c.toJson t := by
  have htype := get?_type hmembers
  rw [Body.typeEntry_of_kind? hkind] at htype
  have hpresent : present? members "type" = some (.string kind.name) := present?_of_get? htype rfl
  cases h with
  | untyped type =>
    rw [hpresent] at type
    cases type
  | union kinds list type =>
    rw [hpresent] at type
    cases type
  | single kind' _ type hspelled =>
    rw [hpresent] at type
    obtain rfl := Kind.name_injective (Json.string.inj (Option.some.inj type))
    apply Body.documents (D := fun document => ∃ t, R document t) hkind
    . exact (exists_spelledAs_iff kind).mp ⟨body, hspelled⟩
    . exact fun _ _ hkeyword => get?_keyword hmembers hkeyword

theorem documents_of_union {annotations : Annotations} {list : TwoOrMore JsonSchema}
    (hmembers : toJson ⟨annotations, .union list⟩ = .object members) {body : Body JsonSchema}
    (h : body.SpelledBy R members)
    : NamedUnion list.toList ∧
      ∀ member ∈ list.toList, ∀ c ∈ member.body.subschemas, ∃ t, R c.toJson t := by
  have htype := get?_type hmembers
  rw [typeEntry_union_eq] at htype
  have hpresent := present?_of_get? htype rfl
  cases h with
  | untyped type =>
    rw [hpresent] at type
    cases type
  | single kind _ type =>
    rw [hpresent] at type
    cases type
  | union kinds read type distinct hspelled =>
    rw [hpresent] at type
    have hnames : list.toList.map typeName = kinds.map Kind.name := by
      apply List.map_injective_iff.mpr fun _ _ => Json.string.inj
      exact (Json.array.inj (Option.some.inj type)).trans List.map_map.symm
    have hkinds : ∀ member ∈ list.toList, ∃ kind ∈ kinds, member.body.kind? = some kind := by
      intro member hmember
      have hname := List.mem_map_of_mem (f := typeName) hmember
      rw [hnames] at hname
      obtain ⟨kind, hkind, hname⟩ := List.mem_map.mp hname
      refine ⟨kind, hkind, ?_⟩
      rw [Body.kind?_eq_ofName?, ← Kind.ofName?_name kind, hname]
      rfl
    have hnamed : NamedUnion list.toList := by
      constructor
      . intro member hmember
        obtain ⟨kind, -, hkind⟩ := hkinds member hmember
        exact ⟨kind, hkind⟩
      . rw [hnames]
        exact distinct.map Kind.name_injective
    refine ⟨hnamed, ?_⟩
    intro member hmember
    obtain ⟨kind, hmem, hkind⟩ := hkinds member hmember
    obtain ⟨other, -, hother⟩ := exists_forall₂_iff.mp ⟨_, hspelled⟩ kind hmem
    apply Body.documents (D := fun document => ∃ t, R document t) hkind
    . exact (exists_spelledAs_iff kind).mp ⟨other.body, hother⟩
    . intro hnumeric keyword hkeyword
      rw [get?_keyword hmembers hkeyword, Body.entries_union]
      apply hnamed.last?_entries hmember hkind _ hkeyword
      intro _ _ _ _ _ hnumeric'
      rw [hnumeric] at hnumeric'
      cases hnumeric'

end Documents

theorem readable_of_exists_ofJson {s : JsonSchema} (h : ∃ t, ofJson s.toJson = .ok t)
    : s.Readable := by
  -- The members of a union have no document of their own, but the schemas below them do.
  suffices ∀ s : JsonSchema, ((∃ t, ofJson s.toJson = .ok t) → s.Readable) ∧
      ∀ c ∈ s.body.subschemas, (∃ t, ofJson c.toJson = .ok t) → c.Readable by
    exact (this s).1 h
  intro s
  induction s using JsonSchema.induction with
  | step annotations body ih =>
    refine ⟨?_, fun c hc => (ih c hc).1⟩
    rintro ⟨t, ht⟩
    have hmembers := toJson_eq ⟨annotations, body⟩
    rw [hmembers, ofJson_object_eq_ok_iff] at ht
    cases hkind : body.kind? with
    | some kind =>
      have hdocuments := documents_of_kind? hmembers hkind ht.2
      apply Everywhere.intro
      . exact Body.readable_of_kind? hkind
      . exact fun c hc => (ih c hc).1 (hdocuments c hc)
    | none =>
      cases body with
      | untyped => exact .intro trivial nofun
      | union list =>
        obtain ⟨hnamed, hdocuments⟩ := documents_of_union hmembers ht.2
        refine .intro hnamed ?_
        intro member hmember
        obtain ⟨kind, hkind⟩ := hnamed.kinds member hmember
        apply Everywhere.intro
        . exact Body.readable_of_kind? hkind
        . exact fun c hc => (ih member hmember).2 c hc (hdocuments member hmember c hc)
      | _ => cases hkind

/--
Exactly the schemas whose unions name different types have a document that can be read.
-/
theorem exists_ofJson_toJson_iff (s : JsonSchema)
    : (∃ t, ofJson s.toJson = .ok t) ↔ s.Readable := by
  constructor
  . exact readable_of_exists_ofJson
  . intro h
    exact (document_and_entries (D := fun document => ∃ t, ofJson document = .ok t)
      (fun _ => exists_ofJson_of_entries) h).1

end JsonSchema

end SchemaBridge
