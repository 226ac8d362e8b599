import SchemaBridge.Proofs.JsonSchema.Reading

/-!
This module contains the grammar of schema documents: the shape of each keyword, the keywords of
each type, and the documents that keep to them. Main definition: `JsonSchema.IsSchema`. Main
statement: `exists_ofJson_iff`.
-/

namespace SchemaBridge

namespace JsonSchema

inductive Shape where
  | string
  | boolean
  | number
  | count
  | array
  | strings
  | stringLists
  | schema
  | boolOrSchema
  | schemas
  | schemaMap
  deriving DecidableEq

def Strings (value : Json) : Prop :=
  ∃ names : List String, value = .array (names.map .string)

/--
The values of a shape, where `D` holds of the documents that are schemas.
-/
inductive Fits (D : Json → Prop) : Shape → Json → Prop where
  | string (s : String) : Fits D .string (.string s)
  | boolean (b : Bool) : Fits D .boolean (.bool b)
  | number (n : Json.Number) : Fits D .number (.number n)
  | count (n : Nat) (limit : n < 0x10000000000000000) : Fits D .count (.ofNat n)
  | array (items : List Json) : Fits D .array (.array items)
  | strings {value : Json} (strings : Strings value) : Fits D .strings value
  | stringLists (members : Members Json) (strings : ∀ member ∈ members, Strings member.2)
      : Fits D .stringLists (.object members)
  | schema {value : Json} (schema : D value) : Fits D .schema value
  | bool (b : Bool) : Fits D .boolOrSchema (.bool b)
  | orSchema {value : Json} (schema : D value) : Fits D .boolOrSchema value
  | schemas (items : List Json) (schemas : ∀ item ∈ items, D item)
      : Fits D .schemas (.array items)
  | schemaMap (members : Members Json) (schemas : ∀ member ∈ members, D member.2)
      : Fits D .schemaMap (.object members)

def annotationShapes : List (String × Shape) := [
  ("$id", .string), ("$schema", .string), ("$comment", .string), ("title", .string),
  ("description", .string), ("examples", .array), ("readOnly", .boolean),
  ("writeOnly", .boolean), ("deprecated", .boolean), ("enum", .array)]

/--
The keywords that belong to a type.
-/
def Kind.shapes : Kind → List (String × Shape)
  | .null | .boolean => []
  | .integer | .number => [
    ("minimum", .number), ("maximum", .number), ("exclusiveMinimum", .boolean),
    ("exclusiveMaximum", .boolean), ("multipleOf", .number)]
  | .string => [
    ("format", .string), ("minLength", .count), ("maxLength", .count), ("pattern", .string)]
  | .array => [
    ("items", .boolOrSchema), ("prefixItems", .schemas), ("additionalItems", .boolOrSchema),
    ("unevaluatedItems", .boolOrSchema), ("contains", .schema), ("minContains", .count),
    ("maxContains", .count), ("minItems", .count), ("maxItems", .count), ("uniqueItems", .boolean)]
  | .object => [
    ("properties", .schemaMap), ("required", .strings), ("additionalProperties", .boolOrSchema),
    ("patternProperties", .schemaMap), ("unevaluatedProperties", .boolOrSchema),
    ("minProperties", .count), ("maxProperties", .count), ("allOf", .schemas), ("anyOf", .schemas),
    ("oneOf", .schemas), ("not", .schema), ("if", .schema), ("then", .schema), ("else", .schema),
    ("propertyNames", .schema), ("dependentRequired", .stringLists),
    ("dependentSchemas", .schemaMap)]

def keywordShapes : List (String × Shape) :=
  annotationShapes ++ Kind.all.flatMap Kind.shapes

/--
The shape of a keyword, whatever type it belongs to.
-/
def shape? (keyword : String) : Option Shape :=
  Members.get? keywordShapes keyword

theorem shape?_of_known {keyword : String} {shape : Shape}
    (known : (keyword, shape) ∈ keywordShapes)
    : shape? keyword = some shape := by
  have hknown : ∀ entry ∈ keywordShapes, shape? entry.1 = some entry.2 := by decide
  exact hknown _ known

theorem not_free_of_known {keyword : String} {shape : Shape}
    (known : (keyword, shape) ∈ keywordShapes)
    : ¬(keyword = "default" ∨ keyword = "const") := by
  have hknown : ∀ entry ∈ keywordShapes, ¬(entry.1 = "default" ∨ entry.1 = "const") := by decide
  exact hknown _ known

/--
The types that the `type` keyword names: none, one, or several different ones.
-/
inductive NamesTypes (members : Members Json) : List Kind → Prop where
  | none (absent : present? members "type" = none) : NamesTypes members []
  | one (kind : Kind) (type : present? members "type" = some (.string kind.name))
      : NamesTypes members [kind]
  | several (kinds : List Kind)
      (type : present? members "type" = some (.array (kinds.map fun kind => .string kind.name)))
      (two : 2 ≤ kinds.length) (distinct : kinds.Nodup) : NamesTypes members kinds

/--
The documents that are schemas: objects in which the annotations and the keywords of the types that
`type` names have their shapes unless they are absent. Other members are free.
-/
inductive IsSchema : Json → Prop where
  | object {members : Members Json} (kinds : List Kind) (type : NamesTypes members kinds)
      (annotations : ∀ entry ∈ annotationShapes, ∀ value,
        present? members entry.1 = some value → Fits IsSchema entry.2 value)
      (keywords : ∀ kind ∈ kinds, ∀ entry ∈ kind.shapes, ∀ value,
        present? members entry.1 = some value → Fits IsSchema entry.2 value)
      : IsSchema (.object members)

section Shapes

variable {D : Json → Prop} {members : Members Json} {α σ : Type} {R : Json → σ → Prop}

/--
A keyword has its shape unless it is absent.
-/
def FitsIn (D : Json → Prop) (members : Members Json) (entry : String × Shape) : Prop :=
  ∀ value, present? members entry.1 = some value → Fits D entry.2 value

theorem fitsIn_iff {keyword : String} {shape : Shape} {form : Json → α → Prop}
    (h : ∀ value, Fits D shape value ↔ ∃ a, form value a)
    : FitsIn D members (keyword, shape) ↔ ∃ a, Spelled members keyword form a := by
  unfold FitsIn Spelled
  cases present? members keyword with
  | none => exact iff_of_true nofun ⟨none, .none⟩
  | some value =>
    constructor
    . intro hfits
      obtain ⟨a, ha⟩ := (h value).mp (hfits value rfl)
      exact ⟨some a, .some ha⟩
    . rintro ⟨_, @⟨_, a, ha⟩⟩ value' hvalue
      obtain rfl := Option.some.inj hvalue
      exact (h value).mpr ⟨a, ha⟩

theorem eq_array_of_toStrings? {value : Json} {names : List String}
    (h : value.toStrings? = some names)
    : value = .array (names.map .string) := by
  cases value with
  | array items =>
    apply congrArg Json.array
    have hitems := Success.mapM_eq_some_iff.mp h
    rw [← List.forall₂_eq_eq_eq, List.forall₂_map_right_iff]
    apply hitems.imp
    intro item name hname
    cases item <;> cases hname
    rfl
  | _ => cases h

theorem strings_iff (value : Json) : Strings value ↔ ∃ names, value.toStrings? = some names := by
  constructor
  . rintro ⟨names, rfl⟩
    refine ⟨names, Success.mapM_eq_some_iff.mpr ?_⟩
    rw [List.forall₂_map_left_iff, List.forall₂_same]
    exact fun _ _ => rfl
  . rintro ⟨names, h⟩
    exact ⟨names, eq_array_of_toStrings? h⟩

theorem fits_string_iff (value : Json)
    : Fits D .string value ↔ ∃ s, reads Json.toString? value s := by
  constructor
  . intro h
    cases h with
    | string s => exact ⟨s, rfl⟩
  . rintro ⟨s, h⟩
    cases value <;> cases h
    exact .string s

theorem fits_format_iff (value : Json) : Fits D .string value ↔ ∃ f, reads toFormat? value f := by
  rw [fits_string_iff]
  constructor
  . rintro ⟨s, h⟩
    exact ⟨.ofName s, congrArg (Option.map Format.ofName) h⟩
  . rintro ⟨f, h⟩
    obtain ⟨s, h, -⟩ := Option.map_eq_some_iff.mp h
    exact ⟨s, h⟩

theorem fits_boolean_iff (value : Json)
    : Fits D .boolean value ↔ ∃ b, reads Json.toBool? value b := by
  constructor
  . intro h
    cases h with
    | boolean b => exact ⟨b, rfl⟩
  . rintro ⟨b, h⟩
    cases value <;> cases h
    exact .boolean b

theorem fits_number_iff (value : Json)
    : Fits D .number value ↔ ∃ n, reads Json.toNumber? value n := by
  constructor
  . intro h
    cases h with
    | number n => exact ⟨n, rfl⟩
  . rintro ⟨n, h⟩
    cases value <;> cases h
    exact .number n

theorem fits_count_iff (value : Json)
    : Fits D .count value ↔ ∃ n, reads Json.toCount? value n := by
  constructor
  . intro h
    cases h with
    | count n limit =>
      have hrange : (0 : Int) ≤ n ∧ (n : Int) < 0x10000000000000000 := by omega
      refine ⟨UInt64.ofNat n, ?_⟩
      rw [reads, Json.ofNat, Json.toCount?, Json.Number.toCount?, if_pos hrange]
      rfl
  . rintro ⟨n, h⟩
    rcases value with _ | _ | ⟨value | bits⟩ | _ | _ | _ <;> try cases h
    unfold reads Json.toCount? Json.Number.toCount? at h
    dsimp only at h
    split at h
    next hrange =>
      have hvalue : value = value.toNat := by omega
      rw [hvalue]
      exact .count value.toNat (by omega)
    next => cases h

theorem fits_array_iff (value : Json)
    : Fits D .array value ↔ ∃ items, reads Json.toArray? value items := by
  constructor
  . intro h
    cases h with
    | array items => exact ⟨items, rfl⟩
  . rintro ⟨items, h⟩
    cases value <;> cases h
    exact .array items

theorem fits_required_iff (value : Json)
    : Fits D .strings value ↔ ∃ names, reads toRequired? value names := by
  have hstrings : Fits D .strings value ↔ Strings value :=
    ⟨fun h => by cases h; assumption, .strings⟩
  rw [hstrings, strings_iff]
  simp [reads, toRequired?]

theorem exists_named_iff (value : Json)
    : (∃ list, named R value list) ↔
      ∃ members : Members Json, value = .object members ∧
        ∀ member ∈ members, ∃ s, R member.2 s := by
  unfold named
  rw [exists_comm]
  apply exists_congr
  intro members
  rw [exists_and_left, exists_forall₂_iff]
  apply and_congr_right
  intro _
  apply forall₂_congr
  intro member _
  constructor
  . rintro ⟨entry, -, h⟩
    exact ⟨entry.2, h⟩
  . rintro ⟨s, h⟩
    exact ⟨(member.1, s), rfl, h⟩

theorem fits_stringLists_iff (value : Json)
    : Fits D .stringLists value ↔ ∃ lists, stringLists value lists := by
  unfold stringLists
  rw [exists_named_iff]
  constructor
  . intro h
    cases h with
    | stringLists members strings =>
      exact ⟨members, rfl, fun member hmember => (strings_iff _).mp (strings member hmember)⟩
  . rintro ⟨members, rfl, strings⟩
    exact .stringLists members fun member hmember => (strings_iff _).mpr (strings member hmember)

theorem fits_schema_iff (value : Json)
    : Fits (fun document => ∃ s, R document s) .schema value ↔ ∃ s, R value s := by
  constructor
  . intro h
    cases h with
    | schema schema => exact schema
  . intro h
    exact .schema h

theorem fits_boolOrSchema_iff (value : Json)
    : Fits (fun document => ∃ s, R document s) .boolOrSchema value ↔
      ∃ slot, boolOr R value slot := by
  constructor
  . intro h
    cases h with
    | bool b => exact ⟨.bool b, rfl⟩
    | orSchema schema =>
      obtain ⟨s, h⟩ := schema
      exact ⟨.schema s, h⟩
  . rintro ⟨b | s, h⟩
    . obtain rfl : value = .bool b := h
      exact .bool b
    . exact .orSchema ⟨s, h⟩

theorem fits_schemas_iff (value : Json)
    : Fits (fun document => ∃ s, R document s) .schemas value ↔ ∃ list, each R value list := by
  constructor
  . intro h
    cases h with
    | schemas items schemas =>
      obtain ⟨list, h⟩ := exists_forall₂_iff.mpr schemas
      exact ⟨list, items, rfl, h⟩
  . rintro ⟨list, items, rfl, h⟩
    exact .schemas items (exists_forall₂_iff.mp ⟨list, h⟩)

theorem fits_schemaMap_iff (value : Json)
    : Fits (fun document => ∃ s, R document s) .schemaMap value ↔ ∃ list, named R value list := by
  rw [exists_named_iff]
  constructor
  . intro h
    cases h with
    | schemaMap members schemas => exact ⟨members, rfl, schemas⟩
  . rintro ⟨members, rfl, schemas⟩
    exact .schemaMap members schemas

end Shapes

/-!
Keywords can be read one by one: a record of keywords is spelled if each of its keywords has its
shape.
-/

section Keywords

variable {D : Json → Prop} {members : Members Json} {σ : Type} {R : Json → σ → Prop}

theorem exists_annotations_iff
    : (∃ a : Annotations, a.SpelledBy members) ↔
      ∀ entry ∈ annotationShapes, FitsIn D members entry := by
  simp only [annotationShapes, List.forall_mem_cons, fitsIn_iff fits_string_iff,
    fitsIn_iff fits_array_iff, fitsIn_iff fits_boolean_iff]
  constructor
  . rintro ⟨a, h⟩
    exact ⟨⟨_, h.id⟩, ⟨_, h.dialect⟩, ⟨_, h.comment⟩, ⟨_, h.title⟩, ⟨_, h.description⟩,
      ⟨_, h.examples⟩, ⟨_, h.readOnly⟩, ⟨_, h.writeOnly⟩, ⟨_, h.deprecated⟩, ⟨_, h.enum⟩, nofun⟩
  . rintro ⟨⟨_, id⟩, ⟨_, dialect⟩, ⟨_, comment⟩, ⟨_, title⟩, ⟨_, description⟩, ⟨_, examples⟩,
      ⟨_, readOnly⟩, ⟨_, writeOnly⟩, ⟨_, deprecated⟩, ⟨_, enum⟩, -⟩
    exact ⟨⟨_, _, _, _, _, _, _, _, _, _, _, _⟩,
      ⟨id, dialect, comment, title, description, examples, readOnly, writeOnly, deprecated, enum,
        rfl, rfl⟩⟩

theorem exists_numericKeywords_iff
    : (∃ k : NumericKeywords, k.SpelledBy members) ↔
      ∀ entry ∈ Kind.number.shapes, FitsIn D members entry := by
  simp only [Kind.shapes, List.forall_mem_cons, fitsIn_iff fits_number_iff,
    fitsIn_iff fits_boolean_iff]
  constructor
  . rintro ⟨k, h⟩
    exact ⟨⟨_, h.minimum⟩, ⟨_, h.maximum⟩, ⟨_, h.exclusiveMinimum⟩, ⟨_, h.exclusiveMaximum⟩,
      ⟨_, h.multipleOf⟩, nofun⟩
  . rintro ⟨⟨_, minimum⟩, ⟨_, maximum⟩, ⟨_, exclusiveMinimum⟩, ⟨_, exclusiveMaximum⟩,
      ⟨_, multipleOf⟩, -⟩
    exact ⟨⟨_, _, _, _, _⟩, ⟨minimum, maximum, exclusiveMinimum, exclusiveMaximum, multipleOf⟩⟩

theorem exists_stringKeywords_iff
    : (∃ k : StringKeywords, k.SpelledBy members) ↔
      ∀ entry ∈ Kind.string.shapes, FitsIn D members entry := by
  simp only [Kind.shapes, List.forall_mem_cons, fitsIn_iff fits_count_iff]
  rw [fitsIn_iff fits_format_iff, fitsIn_iff fits_string_iff]
  constructor
  . rintro ⟨k, h⟩
    exact ⟨⟨_, h.format⟩, ⟨_, h.minLength⟩, ⟨_, h.maxLength⟩, ⟨_, h.pattern⟩, nofun⟩
  . rintro ⟨⟨_, format⟩, ⟨_, minLength⟩, ⟨_, maxLength⟩, ⟨_, pattern⟩, -⟩
    exact ⟨⟨_, _, _, _⟩, ⟨format, minLength, maxLength, pattern⟩⟩

theorem exists_arrayBody_iff
    : (∃ items, ∃ k : ArrayKeywords σ,
        Spelled members "items" (boolOr R) items ∧ k.SpelledBy R members) ↔
      ∀ entry ∈ Kind.array.shapes, FitsIn (fun document => ∃ s, R document s) members entry := by
  simp only [Kind.shapes, List.forall_mem_cons, fitsIn_iff fits_boolOrSchema_iff,
    fitsIn_iff fits_schemas_iff, fitsIn_iff fits_schema_iff, fitsIn_iff fits_count_iff,
    fitsIn_iff fits_boolean_iff]
  constructor
  . rintro ⟨_, k, items, h⟩
    exact ⟨⟨_, items⟩, ⟨_, h.prefixItems⟩, ⟨_, h.additionalItems⟩, ⟨_, h.unevaluatedItems⟩,
      ⟨_, h.contains⟩, ⟨_, h.minContains⟩, ⟨_, h.maxContains⟩, ⟨_, h.minItems⟩, ⟨_, h.maxItems⟩,
      ⟨_, h.uniqueItems⟩, nofun⟩
  . rintro ⟨⟨_, items⟩, ⟨_, prefixItems⟩, ⟨_, additionalItems⟩, ⟨_, unevaluatedItems⟩,
      ⟨_, contains⟩, ⟨_, minContains⟩, ⟨_, maxContains⟩, ⟨_, minItems⟩, ⟨_, maxItems⟩,
      ⟨_, uniqueItems⟩, -⟩
    exact ⟨_, ⟨_, _, _, _, _, _, _, _, _⟩, items, ⟨prefixItems, additionalItems, unevaluatedItems,
      contains, minContains, maxContains, minItems, maxItems, uniqueItems⟩⟩

theorem exists_objectBody_iff
    : (∃ properties required, ∃ k : ObjectKeywords σ,
        Spelled members "properties" (named R) properties ∧
          Spelled members "required" (reads toRequired?) required ∧ k.SpelledBy R members) ↔
      ∀ entry ∈ Kind.object.shapes, FitsIn (fun document => ∃ s, R document s) members entry := by
  simp only [Kind.shapes, List.forall_mem_cons, fitsIn_iff fits_boolOrSchema_iff,
    fitsIn_iff fits_schemas_iff, fitsIn_iff fits_schema_iff, fitsIn_iff fits_count_iff,
    fitsIn_iff fits_schemaMap_iff, fitsIn_iff fits_stringLists_iff, fitsIn_iff fits_required_iff]
  constructor
  . rintro ⟨_, _, k, properties, required, h⟩
    exact ⟨⟨_, properties⟩, ⟨_, required⟩, ⟨_, h.additionalProperties⟩, ⟨_, h.patternProperties⟩,
      ⟨_, h.unevaluatedProperties⟩, ⟨_, h.minProperties⟩, ⟨_, h.maxProperties⟩, ⟨_, h.allOf⟩,
      ⟨_, h.anyOf⟩, ⟨_, h.oneOf⟩, ⟨_, h.negated⟩, ⟨_, h.condition⟩, ⟨_, h.consequent⟩,
      ⟨_, h.alternative⟩, ⟨_, h.propertyNames⟩, ⟨_, h.dependentRequired⟩, ⟨_, h.dependentSchemas⟩,
      nofun⟩
  . rintro ⟨⟨_, properties⟩, ⟨_, required⟩, ⟨_, additionalProperties⟩, ⟨_, patternProperties⟩,
      ⟨_, unevaluatedProperties⟩, ⟨_, minProperties⟩, ⟨_, maxProperties⟩, ⟨_, allOf⟩, ⟨_, anyOf⟩,
      ⟨_, oneOf⟩, ⟨_, negated⟩, ⟨_, condition⟩, ⟨_, consequent⟩, ⟨_, alternative⟩,
      ⟨_, propertyNames⟩, ⟨_, dependentRequired⟩, ⟨_, dependentSchemas⟩, -⟩
    exact ⟨_, _, ⟨_, _, _, _, _, _, _, _, _, _, _, _, _, _, _⟩, properties, required,
      ⟨additionalProperties, patternProperties, unevaluatedProperties, minProperties,
        maxProperties, allOf, anyOf, oneOf, negated, condition, consequent, alternative,
        propertyNames, dependentRequired, dependentSchemas⟩⟩

theorem exists_spelledAs_iff (kind : Kind)
    : (∃ body : Body σ, body.SpelledAs R members kind) ↔
      ∀ entry ∈ kind.shapes, FitsIn (fun document => ∃ s, R document s) members entry := by
  cases kind with
  | null => exact iff_of_true ⟨.null, trivial⟩ nofun
  | boolean => exact iff_of_true ⟨.boolean, trivial⟩ nofun
  | integer =>
    refine Iff.trans ?_ exists_numericKeywords_iff
    constructor
    . rintro ⟨body, h⟩
      cases body <;> first | exact h.elim | exact ⟨_, h⟩
    . rintro ⟨k, h⟩
      exact ⟨.integer k, h⟩
  | number =>
    refine Iff.trans ?_ exists_numericKeywords_iff
    constructor
    . rintro ⟨body, h⟩
      cases body <;> first | exact h.elim | exact ⟨_, h⟩
    . rintro ⟨k, h⟩
      exact ⟨.number k, h⟩
  | string =>
    refine Iff.trans ?_ exists_stringKeywords_iff
    constructor
    . rintro ⟨body, h⟩
      cases body <;> first | exact h.elim | exact ⟨_, h⟩
    . rintro ⟨k, h⟩
      exact ⟨.string k, h⟩
  | array =>
    rw [← exists_arrayBody_iff]
    constructor
    . rintro ⟨body, h⟩
      cases body <;> first | exact h.elim | exact ⟨_, _, h⟩
    . rintro ⟨items, k, h⟩
      exact ⟨.array items k, h⟩
  | object =>
    rw [← exists_objectBody_iff]
    constructor
    . rintro ⟨body, h⟩
      cases body <;> first | exact h.elim | exact ⟨_, _, _, h⟩
    . rintro ⟨properties, required, k, h⟩
      exact ⟨.object properties required k, h⟩

end Keywords

/--
The types that `type` names, and the shapes of the annotations and of the keywords of these types.
-/
def Describes (D : Json → Prop) (members : Members Json) : Prop :=
  ∃ kinds, NamesTypes members kinds ∧ (∀ entry ∈ annotationShapes, FitsIn D members entry) ∧
    ∀ kind ∈ kinds, ∀ entry ∈ kind.shapes, FitsIn D members entry

theorem exists_toList_eq {σ : Type} {list : List σ} (h : 2 ≤ list.length)
    : ∃ union : TwoOrMore σ, list = union.toList := by
  have hlength : TwoOrMore.ofList? list ≠ none :=
    TwoOrMore.ofList?_eq_none_iff.not.mpr (Nat.not_lt.mpr h)
  obtain ⟨union, hunion⟩ := Option.ne_none_iff_exists'.mp hlength
  exact ⟨union, TwoOrMore.ofList?_eq_some_iff.mp hunion⟩

section Documents

variable {members : Members Json} {R : Json → JsonSchema → Prop}

theorem exists_body_iff
    : (∃ body : Body JsonSchema, body.SpelledBy R members) ↔
      ∃ kinds, NamesTypes members kinds ∧
        ∀ kind ∈ kinds, ∃ body : Body JsonSchema, body.SpelledAs R members kind := by
  constructor
  . rintro ⟨body, h⟩
    cases h with
    | untyped type => exact ⟨[], .none type, nofun⟩
    | single kind body type spelled =>
      exact ⟨[kind], .one kind type, List.forall_mem_singleton.mpr ⟨body, spelled⟩⟩
    | union kinds list type distinct spelled =>
      refine ⟨kinds, .several kinds type ?_ distinct, ?_⟩
      . rw [spelled.length_eq]
        exact Nat.le_add_left 2 _
      . intro kind hkind
        obtain ⟨member, -, h⟩ := exists_forall₂_iff.mp ⟨_, spelled⟩ kind hkind
        exact ⟨member.body, h⟩
  . rintro ⟨kinds, hkinds, h⟩
    cases hkinds with
    | none absent => exact ⟨.untyped, .untyped absent⟩
    | one kind type =>
      obtain ⟨body, spelled⟩ := List.forall_mem_singleton.mp h
      exact ⟨body, .single kind body type spelled⟩
    | several _ type two distinct =>
      have hmembers : ∀ kind ∈ kinds, ∃ member : JsonSchema,
          member.annotations = {} ∧ member.body.SpelledAs R members kind := by
        intro kind hkind
        obtain ⟨body, spelled⟩ := h kind hkind
        exact ⟨⟨{}, body⟩, rfl, spelled⟩
      obtain ⟨list, hlist⟩ := exists_forall₂_iff.mpr hmembers
      rw [hlist.length_eq] at two
      obtain ⟨union, rfl⟩ := exists_toList_eq two
      exact ⟨.union union, .union kinds union type distinct hlist⟩

theorem exists_spelledBy_iff
    : (∃ s : JsonSchema, s.SpelledBy R members) ↔
      Describes (fun document => ∃ s, R document s) members := by
  have hparts : (∃ s : JsonSchema, s.SpelledBy R members) ↔
      (∃ a : Annotations, a.SpelledBy members) ∧
        ∃ body : Body JsonSchema, body.SpelledBy R members := by
    constructor
    . rintro ⟨s, hannotations, hbody⟩
      exact ⟨⟨s.annotations, hannotations⟩, s.body, hbody⟩
    . rintro ⟨⟨a, ha⟩, body, hbody⟩
      exact ⟨⟨a, body⟩, ha, hbody⟩
  rw [hparts, exists_body_iff, exists_annotations_iff (D := fun document => ∃ s, R document s)]
  simp only [exists_spelledAs_iff]
  constructor
  . rintro ⟨hannotations, kinds, htype, hkeywords⟩
    exact ⟨kinds, htype, hannotations, hkeywords⟩
  . rintro ⟨kinds, htype, hannotations, hkeywords⟩
    exact ⟨hannotations, kinds, htype, hkeywords⟩

theorem isSchema_object_iff : IsSchema (.object members) ↔ Describes IsSchema members := by
  constructor
  . rintro ⟨kinds, type, annotations, keywords⟩
    exact ⟨kinds, type, annotations, keywords⟩
  . rintro ⟨kinds, type, annotations, keywords⟩
    exact .object kinds type annotations keywords

/--
What fits a shape depends only on which of the documents in it are schemas.
-/
theorem Fits.mono {D D' : Json → Prop} {shape : Shape} {value : Json} (h : Fits D shape value)
    (hD : ∀ document : Json, document.depth ≤ value.depth → D document → D' document)
    : Fits D' shape value := by
  cases h with
  | string s => exact .string s
  | boolean b => exact .boolean b
  | number n => exact .number n
  | count n limit => exact .count n limit
  | array items => exact .array items
  | strings strings => exact .strings strings
  | stringLists members strings => exact .stringLists members strings
  | schema schema => exact .schema (hD _ (Nat.le_refl _) schema)
  | bool b => exact .bool b
  | orSchema schema => exact .orSchema (hD _ (Nat.le_refl _) schema)
  | schemas items schemas =>
    apply Fits.schemas
    intro item hitem
    apply hD item _ (schemas item hitem)
    exact Nat.le_succ_of_le (Json.depth_le_of_mem_items hitem)
  | schemaMap members schemas =>
    apply Fits.schemaMap
    intro member hmember
    apply hD member.2 _ (schemas member hmember)
    exact Nat.le_succ_of_le (Json.depth_le_of_mem_members hmember)

theorem Describes.mono {D D' : Json → Prop} (h : Describes D members)
    (hD : ∀ document : Json, document.depth < (Json.object members).depth →
      D document → D' document)
    : Describes D' members := by
  have hfits {entry : String × Shape} (h : FitsIn D members entry) : FitsIn D' members entry := by
    intro value hvalue
    apply (h value hvalue).mono
    intro document hdocument
    apply hD
    exact Nat.lt_succ_of_le
      (Nat.le_trans hdocument (Json.depth_le_of_mem_members (mem_of_present? hvalue)))
  obtain ⟨kinds, htype, hannotations, hkeywords⟩ := h
  exact ⟨kinds, htype, fun entry hentry => hfits (hannotations entry hentry),
    fun kind hkind entry hentry => hfits (hkeywords kind hkind entry hentry)⟩

end Documents

/--
Exactly the documents that are schemas are read.
-/
theorem exists_ofJson_iff (document : Json)
    : (∃ s, ofJson document = .ok s) ↔ IsSchema document := by
  induction hdepth : document.depth using Nat.strongRecOn generalizing document with
  | _ depth ih =>
    subst hdepth
    cases document with
    | object members =>
      simp only [ofJson_object_eq_ok_iff]
      rw [exists_spelledBy_iff, isSchema_object_iff]
      constructor
      . exact fun h => h.mono fun document hless => (ih _ hless document rfl).mp
      . exact fun h => h.mono fun document hless => (ih _ hless document rfl).mpr
    | _ =>
      constructor
      . rintro ⟨s, h⟩
        obtain ⟨members, h⟩ := exists_object_of_ofJson h
        cases h
      . intro h
        cases h

end JsonSchema

end SchemaBridge
