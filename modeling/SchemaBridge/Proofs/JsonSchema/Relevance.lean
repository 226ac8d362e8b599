import SchemaBridge.Proofs.JsonSchema.Complaints
import SchemaBridge.Proofs.JsonSchema.NormalForm

/-!
This module contains the documents that differ in nothing that matters for what is read, and the
proof that they are read alike, be it as the same schema or with the same error. Main definition:
`JsonSchema.AlikeAs`. Main statement: `ofJson_eq_of_alikeAs`.
-/

namespace SchemaBridge

namespace JsonSchema

/--
Values of a shape that differ only in the schemas in them, and in these only in what does not matter
there: members other than `type`, the annotations and the keywords of the types that `type` names,
and the order of all members. Values that are no objects are no schemas, whatever else they are.
-/
inductive AlikeAs : Shape → Json → Json → Prop where
  | same (shape : Shape) (value : Json) : AlikeAs shape value value
  | refused {value value' : Json} (left : ¬IsObject value) (right : ¬IsObject value')
      : AlikeAs .schema value value'
  | object {members members' : Members Json}
      (type : present? members "type" = present? members' "type")
      (annotations : ∀ keyword ∈ Annotations.keywords,
        given? members keyword = given? members' keyword)
      (absent : ∀ kind ∈ namedKinds members, ∀ entry ∈ kind.shapes,
        present? members entry.1 = none ↔ present? members' entry.1 = none)
      (keywords : ∀ kind ∈ namedKinds members, ∀ entry ∈ kind.shapes, ∀ value value',
        present? members entry.1 = some value → present? members' entry.1 = some value' →
          AlikeAs entry.2 value value')
      : AlikeAs .schema (.object members) (.object members')
  | orSchema {members members' : Members Json}
      (schema : AlikeAs .schema (.object members) (.object members'))
      : AlikeAs .boolOrSchema (.object members) (.object members')
  | schemas {items items' : List Json} (schemas : List.Forall₂ (AlikeAs .schema) items items')
      : AlikeAs .schemas (.array items) (.array items')
  | schemaMap {entries entries' : Members Json} (names : entries.names = entries'.names)
      (schemas : List.Forall₂ (AlikeAs .schema) (entries.map Prod.snd) (entries'.map Prod.snd))
      : AlikeAs .schemaMap (.object entries) (.object entries')

theorem AlikeAs.exists_items {items : List Json} {value : Json}
    (h : AlikeAs .schemas (.array items) value)
    : ∃ items', value = .array items' ∧ List.Forall₂ (AlikeAs .schema) items items' := by
  cases h with
  | same => exact ⟨items, rfl, List.forall₂_same.mpr fun item _ => .same _ item⟩
  | schemas schemas => exact ⟨_, rfl, schemas⟩

theorem AlikeAs.exists_entries {entries : Members Json} {value : Json}
    (h : AlikeAs .schemaMap (.object entries) value)
    : ∃ entries' : Members Json, value = .object entries' ∧ entries.names = entries'.names ∧
      List.Forall₂ (AlikeAs .schema) (entries.map Prod.snd) (entries'.map Prod.snd) := by
  cases h with
  | same => exact ⟨entries, rfl, rfl, List.forall₂_same.mpr fun value _ => .same _ value⟩
  | schemaMap names schemas => exact ⟨_, rfl, names, schemas⟩

theorem toObject?_eq_none {value : Json} (h : ¬IsObject value) : value.toObject? = none := by
  cases value with
  | object members => exact (h ⟨members, rfl⟩).elim
  | _ => rfl

/--
A keyword is absent from two objects, or it has values in both that are alike.
-/
def AlikeIn (members members' : Members Json) (entry : String × Shape) : Prop :=
  Option.Rel (AlikeAs entry.2) (present? members entry.1) (present? members' entry.1)

section Keywords

variable {members members' : Members Json} {keyword : String} {shape : Shape}

theorem alikeIn_of_alike {entry : String × Shape}
    (absent : present? members entry.1 = none ↔ present? members' entry.1 = none)
    (alike : ∀ value value', present? members entry.1 = some value →
      present? members' entry.1 = some value' → AlikeAs entry.2 value value')
    : AlikeIn members members' entry := by
  unfold AlikeIn
  cases hvalue : present? members entry.1 with
  | none =>
    rw [absent.mp hvalue]
    exact .none
  | some value =>
    cases hvalue' : present? members' entry.1 with
    | none => cases hvalue.symm.trans (absent.mpr hvalue')
    | some value' => exact .some (alike value value' hvalue hvalue')

theorem alikeIn_of_eq {entry : String × Shape}
    (h : present? members entry.1 = present? members' entry.1)
    : AlikeIn members members' entry := by
  unfold AlikeIn
  rw [h]
  cases present? members' entry.1 with
  | none => exact .none
  | some value => exact .some (.same _ value)

/--
The shapes of values without schemas in them.
-/
def Shape.isPlain : Shape → Bool
  | .schema | .boolOrSchema | .schemas | .schemaMap => false
  | _ => true

theorem AlikeAs.eq_of_isPlain {value value' : Json} (h : AlikeAs shape value value')
    (hplain : shape.isPlain = true)
    : value = value' := by
  cases h with
  | same => rfl
  | _ => cases hplain

theorem AlikeIn.present?_eq (h : AlikeIn members members' (keyword, shape))
    (hplain : shape.isPlain = true)
    : present? members keyword = present? members' keyword := by
  unfold AlikeIn at h
  dsimp only at h
  generalize present? members keyword = value at h ⊢
  generalize present? members' keyword = value' at h ⊢
  cases h with
  | none => rfl
  | some h => rw [h.eq_of_isPlain hplain]

theorem AlikeIn.absent_or_alike (h : AlikeIn members members' (keyword, shape))
    : (present? members keyword = none ∧ present? members' keyword = none) ∨
      ∃ value value', present? members keyword = some value ∧
        present? members' keyword = some value' ∧ AlikeAs shape value value' := by
  unfold AlikeIn at h
  dsimp only at h
  generalize present? members keyword = value at h ⊢
  generalize present? members' keyword = value' at h ⊢
  cases h with
  | none => exact .inl ⟨rfl, rfl⟩
  | some h => exact .inr ⟨_, _, rfl, rfl, h⟩

theorem alikeAs_of_alikeIn (type : present? members "type" = present? members' "type")
    (annotations : ∀ keyword ∈ Annotations.keywords,
      given? members keyword = given? members' keyword)
    (keywords : ∀ kind ∈ namedKinds members, ∀ entry ∈ kind.shapes,
      AlikeIn members members' entry)
    : AlikeAs .schema (.object members) (.object members') := by
  apply AlikeAs.object type annotations
  . intro kind hkind entry hentry
    rcases (keywords kind hkind entry hentry).absent_or_alike with
      ⟨hleft, hright⟩ | ⟨_, _, hleft, hright, -⟩
    . exact iff_of_true hleft hright
    . rw [hleft, hright]
      exact iff_of_false nofun nofun
  . intro kind hkind entry hentry value value' hvalue hvalue'
    rcases (keywords kind hkind entry hentry).absent_or_alike with
      ⟨hleft, -⟩ | ⟨_, _, hleft, hright, halike⟩
    . cases hvalue.symm.trans hleft
    . obtain rfl := Option.some.inj (hvalue.symm.trans hleft)
      obtain rfl := Option.some.inj (hvalue'.symm.trans hright)
      exact halike

end Keywords

namespace Node

section Readers

variable {α : Type} {path : Json.Pointer} {members members' : Members Json} {keyword : String}

theorem read_eq_of_present (h : present? members keyword = present? members' keyword)
    (read? : Json → Option α) (expected : Expectation)
    : ((mk path members).read read? expected keyword : Except SchemaError (Option α)) =
      (mk path members').read read? expected keyword := by
  unfold read
  rw [keyword?_eq, keyword?_eq, h]
  rfl

theorem read_eq_of_alikeIn {shape : Shape} (h : AlikeIn members members' (keyword, shape))
    (hplain : shape.isPlain = true) {read? : Json → Option α} {expected : Expectation}
    : ((mk path members).read read? expected keyword : Except SchemaError (Option α)) =
      (mk path members').read read? expected keyword := by
  exact read_eq_of_present (h.present?_eq hplain) read? expected

theorem annotations_eq_of_given
    (h : ∀ keyword ∈ Annotations.keywords, given? members keyword = given? members' keyword)
    : ((mk path members).annotations : Except SchemaError Annotations) =
      (mk path members').annotations := by
  have hread {α : Type} {read? : Json → Option α} {expected : Expectation} (keyword : String)
      (hmem : keyword ∈ Annotations.keywords) (hfree : ¬(keyword = "default" ∨ keyword = "const"))
      : ((mk path members).read read? expected keyword : Except SchemaError (Option α)) =
        (mk path members').read read? expected keyword := by
    apply read_eq_of_present
    simpa only [given?, if_neg hfree] using h keyword hmem
  have hdefault : members.get? "default" = members'.get? "default" := h "default" (by decide)
  have hconst : members.get? "const" = members'.get? "const" := h "const" (by decide)
  simp only [annotations, string, values, boolean, hdefault, hconst,
    hread "$id" (by decide) (by decide), hread "$schema" (by decide) (by decide),
    hread "$comment" (by decide) (by decide), hread "title" (by decide) (by decide),
    hread "description" (by decide) (by decide), hread "examples" (by decide) (by decide),
    hread "readOnly" (by decide) (by decide), hread "writeOnly" (by decide) (by decide),
    hread "deprecated" (by decide) (by decide), hread "enum" (by decide) (by decide)]

theorem numericKeywords_eq_of_alikeIn
    (h : ∀ entry ∈ Kind.number.shapes, AlikeIn members members' entry)
    : ((mk path members).numericKeywords : Except SchemaError NumericKeywords) =
      (mk path members').numericKeywords := by
  simp only [Kind.shapes, List.forall_mem_cons] at h
  obtain ⟨minimum, maximum, exclusiveMinimum, exclusiveMaximum, multipleOf, -⟩ := h
  simp only [numericKeywords, number, boolean, read_eq_of_alikeIn minimum rfl,
    read_eq_of_alikeIn maximum rfl, read_eq_of_alikeIn exclusiveMinimum rfl,
    read_eq_of_alikeIn exclusiveMaximum rfl, read_eq_of_alikeIn multipleOf rfl]

theorem stringKeywords_eq_of_alikeIn
    (h : ∀ entry ∈ Kind.string.shapes, AlikeIn members members' entry)
    : ((mk path members).stringKeywords : Except SchemaError StringKeywords) =
      (mk path members').stringKeywords := by
  simp only [Kind.shapes, List.forall_mem_cons] at h
  obtain ⟨format, minLength, maxLength, pattern, -⟩ := h
  simp only [stringKeywords, format_eq_map_string, string, count, read_eq_of_alikeIn format rfl,
    read_eq_of_alikeIn minLength rfl, read_eq_of_alikeIn maxLength rfl,
    read_eq_of_alikeIn pattern rfl]

theorem kindsFrom_eq (path : Json.Pointer) (members members' : Members Json) (kinds : List Kind)
    (names : List Json)
    : ((mk path members).kindsFrom kinds names : Except SchemaError (List Kind)) =
      (mk path members').kindsFrom kinds names := by
  induction names generalizing kinds with
  | nil => rfl
  | cons name rest ih =>
    unfold kindsFrom
    simp only [ih]
    rfl

/-!
For what follows `child` reads documents alike that are alike and stand in the members of a node.
-/

section Subschemas

variable {child : Json.Pointer → Json → Except SchemaError JsonSchema}
  (hchild : ∀ {value value' : Json}, value.depth ≤ Json.depthOfMembers members →
    AlikeAs .schema value value' → ∀ path, child path value = child path value')
include hchild

theorem subschema_eq_of_alikeAs {value value' : Json}
    (hdepth : value.depth ≤ Json.depthOfMembers members) (h : AlikeAs .schema value value')
    (keyword : String) (expected : Expectation) (steps : List String)
    : (mk path members).subschema child keyword expected steps value =
      (mk path members').subschema child keyword expected steps value' := by
  have hread := hchild hdepth h (path ++ steps)
  unfold subschema
  cases h with
  | same => cases value <;> rfl
  | refused left right =>
    split
    . exact (left ⟨_, rfl⟩).elim
    . split
      . exact (right ⟨_, rfl⟩).elim
      . rfl
  | object => exact hread

theorem schema_eq_of_alikeIn (h : AlikeIn members members' (keyword, .schema))
    : (mk path members).schema child keyword = (mk path members').schema child keyword := by
  unfold schema
  rcases h.absent_or_alike with ⟨hleft, hright⟩ | ⟨value, value', hleft, hright, halike⟩
  . rw [keyword?_eq, keyword?_eq, hleft, hright]
  . rw [keyword?_eq, keyword?_eq, hleft, hright]
    dsimp only
    rw [subschema_eq_of_alikeAs hchild (depth_le_of_present? hleft) halike]

theorem boolOrSchema_eq_of_alikeIn (h : AlikeIn members members' (keyword, .boolOrSchema))
    : (mk path members).boolOrSchema child keyword =
      (mk path members').boolOrSchema child keyword := by
  unfold boolOrSchema
  rcases h.absent_or_alike with ⟨hleft, hright⟩ | ⟨value, value', hleft, hright, halike⟩
  . rw [keyword?_eq, keyword?_eq, hleft, hright]
  . rw [keyword?_eq, keyword?_eq, hleft, hright]
    have hdepth := depth_le_of_present? hleft
    cases halike with
    | same => cases value <;> rfl
    | orSchema halike =>
      dsimp only
      rw [subschema_eq_of_alikeAs hchild hdepth halike]

theorem schemasFrom_eq_of_alikeAs {items items' : List Json}
    (hdepth : ∀ item ∈ items, item.depth ≤ Json.depthOfMembers members)
    (h : List.Forall₂ (AlikeAs .schema) items items') (keyword : String) (index : Nat)
    : (mk path members).schemasFrom child keyword index items =
      (mk path members').schemasFrom child keyword index items' := by
  induction h generalizing index with
  | nil => rfl
  | cons halike _ ih =>
    obtain ⟨hitem, hrest⟩ := List.forall_mem_cons.mp hdepth
    rw [schemasFrom, schemasFrom, subschema_eq_of_alikeAs hchild hitem halike, ih hrest]

theorem schemas_eq_of_alikeIn (h : AlikeIn members members' (keyword, .schemas))
    : (mk path members).schemas child keyword = (mk path members').schemas child keyword := by
  unfold schemas
  rcases h.absent_or_alike with ⟨hleft, hright⟩ | ⟨value, value', hleft, hright, halike⟩
  . rw [keyword?_eq, keyword?_eq, hleft, hright]
  . rw [keyword?_eq, keyword?_eq, hleft, hright]
    cases value with
    | array items =>
      obtain ⟨items', rfl, hitems⟩ := halike.exists_items
      dsimp only
      rw [schemasFrom_eq_of_alikeAs hchild _ hitems]
      intro item hitem
      exact Nat.le_trans (Json.depth_le_of_mem_items hitem)
        (Nat.le_of_succ_le (depth_le_of_present? hleft))
    | _ =>
      cases halike
      rfl

theorem namedSchemas_eq_of_alikeAs {entries entries' : Members Json}
    (hdepth : ∀ entry ∈ entries, entry.2.depth ≤ Json.depthOfMembers members)
    (hnames : entries.names = entries'.names)
    (h : List.Forall₂ (AlikeAs .schema) (entries.map Prod.snd) (entries'.map Prod.snd))
    (keyword : String)
    : (mk path members).namedSchemas child keyword entries =
      (mk path members').namedSchemas child keyword entries' := by
  induction entries generalizing entries' with
  | nil =>
    obtain rfl := List.map_eq_nil_iff.mp hnames.symm
    rfl
  | cons entry rest ih =>
    obtain ⟨entry', rest', rfl⟩ : ∃ entry' rest', entries' = entry' :: rest' := by
      cases entries' with
      | nil => cases hnames
      | cons entry' rest' => exact ⟨entry', rest', rfl⟩
    obtain ⟨name, value⟩ := entry
    obtain ⟨name', value'⟩ := entry'
    obtain ⟨hentry, hrest⟩ := List.forall_mem_cons.mp hdepth
    obtain ⟨rfl, hnamesRest⟩ : name = name' ∧ Members.names rest = Members.names rest' :=
      List.cons.inj hnames
    obtain ⟨halike, hrest'⟩ := List.forall₂_cons.mp h
    rw [namedSchemas, namedSchemas, subschema_eq_of_alikeAs hchild hentry halike,
      ih hrest hnamesRest hrest']

theorem schemaMap_eq_of_alikeIn (h : AlikeIn members members' (keyword, .schemaMap))
    : (mk path members).schemaMap child keyword =
      (mk path members').schemaMap child keyword := by
  unfold schemaMap
  rcases h.absent_or_alike with ⟨hleft, hright⟩ | ⟨value, value', hleft, hright, halike⟩
  . rw [keyword?_eq, keyword?_eq, hleft, hright]
  . rw [keyword?_eq, keyword?_eq, hleft, hright]
    cases value with
    | object entries =>
      obtain ⟨entries', rfl, hnames, hentries⟩ := halike.exists_entries
      dsimp only
      rw [namedSchemas_eq_of_alikeAs hchild _ hnames hentries]
      intro entry hentry
      exact Nat.le_trans (Json.depth_le_of_mem_members hentry)
        (Nat.le_of_succ_le (depth_le_of_present? hleft))
    | _ =>
      cases halike
      rfl

theorem bodyOfKind_eq_of_alikeIn (kind : Kind)
    (h : ∀ entry ∈ kind.shapes, AlikeIn members members' entry)
    : (mk path members).bodyOfKind child kind = (mk path members').bodyOfKind child kind := by
  cases kind with
  | null => rfl
  | boolean => rfl
  | integer => rw [bodyOfKind, bodyOfKind, numericKeywords_eq_of_alikeIn h]
  | number => rw [bodyOfKind, bodyOfKind, numericKeywords_eq_of_alikeIn h]
  | string => rw [bodyOfKind, bodyOfKind, stringKeywords_eq_of_alikeIn h]
  | array =>
    simp only [Kind.shapes, List.forall_mem_cons] at h
    obtain ⟨items, prefixItems, additionalItems, unevaluatedItems, contains, minContains,
      maxContains, minItems, maxItems, uniqueItems, -⟩ := h
    simp only [bodyOfKind, arrayKeywords, count, boolean, boolOrSchema_eq_of_alikeIn hchild items,
      schemas_eq_of_alikeIn hchild prefixItems, boolOrSchema_eq_of_alikeIn hchild additionalItems,
      boolOrSchema_eq_of_alikeIn hchild unevaluatedItems, schema_eq_of_alikeIn hchild contains,
      read_eq_of_alikeIn minContains rfl, read_eq_of_alikeIn maxContains rfl,
      read_eq_of_alikeIn minItems rfl, read_eq_of_alikeIn maxItems rfl,
      read_eq_of_alikeIn uniqueItems rfl]
  | object =>
    simp only [Kind.shapes, List.forall_mem_cons] at h
    obtain ⟨properties, required, additionalProperties, patternProperties, unevaluatedProperties,
      minProperties, maxProperties, allOf, anyOf, oneOf, negated, condition, consequent,
      alternative, propertyNames, dependentRequired, dependentSchemas, -⟩ := h
    simp only [bodyOfKind, objectKeywords, strings, stringLists, count,
      schemaMap_eq_of_alikeIn hchild properties, read_eq_of_alikeIn required rfl,
      boolOrSchema_eq_of_alikeIn hchild additionalProperties,
      schemaMap_eq_of_alikeIn hchild patternProperties,
      boolOrSchema_eq_of_alikeIn hchild unevaluatedProperties,
      read_eq_of_alikeIn minProperties rfl, read_eq_of_alikeIn maxProperties rfl,
      schemas_eq_of_alikeIn hchild allOf, schemas_eq_of_alikeIn hchild anyOf,
      schemas_eq_of_alikeIn hchild oneOf, schema_eq_of_alikeIn hchild negated,
      schema_eq_of_alikeIn hchild condition, schema_eq_of_alikeIn hchild consequent,
      schema_eq_of_alikeIn hchild alternative, schema_eq_of_alikeIn hchild propertyNames,
      read_eq_of_alikeIn dependentRequired rfl, schemaMap_eq_of_alikeIn hchild dependentSchemas]

theorem unionMembers_eq_of_alikeIn {kinds : List Kind}
    (h : ∀ kind ∈ kinds, ∀ entry ∈ kind.shapes, AlikeIn members members' entry)
    : (mk path members).unionMembers child kinds =
      (mk path members').unionMembers child kinds := by
  induction kinds with
  | nil => rfl
  | cons kind rest ih =>
    obtain ⟨hkind, hrest⟩ := List.forall_mem_cons.mp h
    rw [unionMembers, unionMembers, bodyOfKind_eq_of_alikeIn hchild kind hkind, ih hrest]

theorem body_eq_of_alikeIn (htype : present? members "type" = present? members' "type")
    (h : ∀ kind ∈ namedKinds members, ∀ entry ∈ kind.shapes, AlikeIn members members' entry)
    : (mk path members).body child = (mk path members').body child := by
  unfold body
  rw [keyword?_eq, keyword?_eq, ← htype]
  cases hvalue : present? members "type" with
  | none => rfl
  | some value =>
    cases value with
    | string name =>
      dsimp only
      cases hname : Kind.ofName? name with
      | none => rfl
      | some kind =>
        apply bodyOfKind_eq_of_alikeIn hchild
        apply h
        rw [namedKinds, hvalue]
        simp [hname]
    | array names =>
      dsimp only
      rw [kindsFrom_eq path members members']
      refine Success.bind_congr_of_ok fun kinds hkinds => ?_
      have hnamed : namedKinds members = kinds := by
        obtain ⟨_, rfl, rfl, -⟩ := (kindsFrom_eq_ok_iff List.nodup_nil).mp hkinds
        exact namedKinds_of_union hvalue
      rw [hnamed] at h
      rw [unionMembers_eq_of_alikeIn hchild h]
    | _ => rfl

theorem toSchema_eq_of_alikeIn (htype : present? members "type" = present? members' "type")
    (hannotations : ∀ keyword ∈ Annotations.keywords,
      given? members keyword = given? members' keyword)
    (h : ∀ kind ∈ namedKinds members, ∀ entry ∈ kind.shapes, AlikeIn members members' entry)
    : (mk path members).toSchema child = (mk path members').toSchema child := by
  rw [toSchema, toSchema, annotations_eq_of_given hannotations,
    body_eq_of_alikeIn hchild htype h]

end Subschemas

end Readers

end Node

/--
Documents that are alike are read alike, wherever they stand.
-/
theorem readAt_eq_of_alikeAs {document document' : Json} (h : AlikeAs .schema document document')
    (path : Json.Pointer)
    : (readAt path document : Except SchemaError JsonSchema) = readAt path document' := by
  induction hdepth : document.depth using Nat.strongRecOn generalizing document document' path with
  | ind depth ih =>
    subst hdepth
    cases h with
    | same => rfl
    | refused left right =>
      rw [readAt_eq_throw path (toObject?_eq_none left),
        readAt_eq_throw path (toObject?_eq_none right)]
    | @object members members' type annotations absent keywords =>
      rw [readAt_object, readAt_object]
      apply Node.toSchema_eq_of_alikeIn _ type annotations
      . intro kind hkind entry hentry
        exact alikeIn_of_alike (absent kind hkind entry hentry) (keywords kind hkind entry hentry)
      . intro value value' hless halike path
        exact ih value.depth (Nat.lt_succ_of_le hless) halike path rfl

/--
What is read of a document depends only on what its types make relevant.
-/
theorem ofJson_eq_of_alikeAs {document document' : Json} (h : AlikeAs .schema document document')
    : ofJson document = ofJson document' := by
  exact readAt_eq_of_alikeAs h []

def codeMembers (length : Json) : Members Json :=
  [("type", .string "string"), ("maximum", .string "high"), ("minLength", length)]

def codeMembers' (length : Json) : Members Json :=
  [("minLength", length), ("pattern", .null), ("unit", .array []), ("type", .string "string")]

def codesMembers (length : Json) : Members Json :=
  [("title", .string "codes"), ("properties", .bool true), ("default", .null),
    ("type", .array [.string "array", .string "null"]), ("items", .object (codeMembers length))]

def codesMembers' (length : Json) : Members Json :=
  [("items", .object (codeMembers' length)), ("required", .number (.integer 1)),
    ("default", .null), ("type", .array [.string "array", .string "null"]),
    ("uniqueItems", .null), ("title", .string "codes")]

theorem alikeAs_codes (length : Json)
    : AlikeAs .schema (.object (codesMembers length)) (.object (codesMembers' length)) := by
  have hcode : AlikeAs .schema (.object (codeMembers length)) (.object (codeMembers' length)) := by
    apply alikeAs_of_alikeIn
    . rfl
    . simp only [Annotations.keywords, List.forall_mem_cons]
      exact ⟨rfl, rfl, rfl, rfl, rfl, rfl, rfl, rfl, rfl, rfl, rfl, rfl, List.forall_mem_nil _⟩
    . have hkinds : namedKinds (codeMembers length) = [.string] := by rfl
      rw [hkinds, List.forall_mem_singleton]
      simp only [Kind.shapes, List.forall_mem_cons]
      exact ⟨alikeIn_of_eq rfl, alikeIn_of_eq rfl, alikeIn_of_eq rfl, alikeIn_of_eq rfl,
        List.forall_mem_nil _⟩
  apply alikeAs_of_alikeIn
  . rfl
  . simp only [Annotations.keywords, List.forall_mem_cons]
    exact ⟨rfl, rfl, rfl, rfl, rfl, rfl, rfl, rfl, rfl, rfl, rfl, rfl, List.forall_mem_nil _⟩
  . have hkinds : namedKinds (codesMembers length) = [.array, .null] := by rfl
    rw [hkinds, List.forall_mem_cons, List.forall_mem_singleton]
    refine ⟨?_, List.forall_mem_nil _⟩
    simp only [Kind.shapes, List.forall_mem_cons]
    exact ⟨.some (.orSchema hcode), alikeIn_of_eq rfl, alikeIn_of_eq rfl, alikeIn_of_eq rfl,
      alikeIn_of_eq rfl, alikeIn_of_eq rfl, alikeIn_of_eq rfl, alikeIn_of_eq rfl,
      alikeIn_of_eq rfl, alikeIn_of_eq rfl, List.forall_mem_nil _⟩

theorem ofJson_eq_of_alikeAs_codes
    : AlikeAs .schema (.object (codesMembers (.ofNat 2))) (.object (codesMembers' (.ofNat 2))) ∧
      ofJson (.object (codesMembers (.ofNat 2))) = ofJson (.object (codesMembers' (.ofNat 2))) ∧
      ofJson (.object (codesMembers (.bool true))) =
        .error (.malformed ["items"] "minLength" .count) ∧
      ofJson (.object (codesMembers' (.bool true))) =
        .error (.malformed ["items"] "minLength" .count) := by
  have herror : ofJson (.object (codesMembers (.bool true))) =
      .error (.malformed ["items"] "minLength" .count) := by rfl
  refine ⟨alikeAs_codes _, ofJson_eq_of_alikeAs (alikeAs_codes _), herror, ?_⟩
  rw [← herror]
  exact (ofJson_eq_of_alikeAs (alikeAs_codes _)).symm

end JsonSchema

end SchemaBridge
