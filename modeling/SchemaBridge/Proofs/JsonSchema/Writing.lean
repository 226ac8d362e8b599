import SchemaBridge.JsonSchema.Printer
import SchemaBridge.JsonSchema.Subschemas
import SchemaBridge.Proofs.JsonSchema.Mapping
import SchemaBridge.Proofs.JsonSchema.Spelling
import SchemaBridge.Proofs.Members

/-!
This module contains the proof that the entries written for a schema meet the grammar of schema
documents: what is written for a keyword spells its value. Main statements: `Annotations.spelledBy`,
`ArrayKeywords.spelledBy`, `ObjectKeywords.spelledBy`.
-/

namespace SchemaBridge

namespace JsonSchema

variable {α σ : Type} {members : Members Json}

theorem last?_entry (keyword name : String) (value : Option Json)
    : Members.last? (entry keyword value) name = if keyword = name then value else none := by
  cases value <;> simp [entry, Members.last?]

theorem Spelled.of_get? {keyword : String} {print : α → Json} {form : Json → α → Prop}
    {value : Option α} (hget : members.get? keyword = value.map print)
    (hform : ∀ a, value = some a → form (print a) a ∧ (print a).isNull = false)
    : Spelled members keyword form value := by
  unfold Spelled present?
  rw [hget]
  cases value with
  | none => exact .none
  | some a =>
    obtain ⟨hform, hnull⟩ := hform a rfl
    rw [Option.map_some, Option.filter_some, hnull]
    exact .some hform

/-!
The keywords of annotations and of each type.
-/

def Annotations.keywords : List String :=
  ["$id", "$schema", "$comment", "title", "description", "default", "examples", "readOnly",
    "writeOnly", "deprecated", "enum", "const"]

def Kind.keywords : Kind → List String
  | .null | .boolean => []
  | .integer | .number =>
    ["minimum", "maximum", "exclusiveMinimum", "exclusiveMaximum", "multipleOf"]
  | .string => ["format", "minLength", "maxLength", "pattern"]
  | .array =>
    ["items", "prefixItems", "additionalItems", "unevaluatedItems", "contains", "minContains",
      "maxContains", "minItems", "maxItems", "uniqueItems"]
  | .object =>
    ["properties", "additionalProperties", "patternProperties", "unevaluatedProperties",
      "required", "minProperties", "maxProperties", "allOf", "anyOf", "oneOf", "not", "if", "then",
      "else", "propertyNames", "dependentRequired", "dependentSchemas"]

theorem Annotations.spelledBy {a : Annotations}
    (h : ∀ keyword ∈ keywords, members.get? keyword = Members.last? a.entries keyword)
    : a.SpelledBy members := by
  simp only [keywords, entries, List.mem_cons, List.not_mem_nil, or_false,
    List.append_assoc, Members.last?_append, last?_entry, forall_eq_or_imp, String.reduceEq,
    ↓reduceIte, Option.or_self, Option.none_or, Option.or_none, forall_eq] at h
  obtain ⟨hid, hdialect, hcomment, htitle, hdescription, hdefault, hexamples, hreadOnly, hwriteOnly,
    hdeprecated, henum, hconst⟩ := h
  exact {
    id := .of_get? hid fun _ _ => ⟨rfl, rfl⟩
    dialect := .of_get? hdialect fun _ _ => ⟨rfl, rfl⟩
    comment := .of_get? hcomment fun _ _ => ⟨rfl, rfl⟩
    title := .of_get? htitle fun _ _ => ⟨rfl, rfl⟩
    description := .of_get? hdescription fun _ _ => ⟨rfl, rfl⟩
    examples := .of_get? hexamples fun _ _ => ⟨rfl, rfl⟩
    readOnly := .of_get? hreadOnly fun _ _ => ⟨rfl, rfl⟩
    writeOnly := .of_get? hwriteOnly fun _ _ => ⟨rfl, rfl⟩
    deprecated := .of_get? hdeprecated fun _ _ => ⟨rfl, rfl⟩
    enum := .of_get? henum fun _ _ => ⟨rfl, rfl⟩
    default := hdefault
    const := hconst
  }

theorem NumericKeywords.spelledBy {k : NumericKeywords}
    (h : ∀ keyword ∈ Kind.integer.keywords, members.get? keyword = Members.last? k.entries keyword)
    : k.SpelledBy members := by
  simp only [Kind.keywords, entries, List.mem_cons, List.not_mem_nil, or_false,
    List.append_assoc, Members.last?_append, last?_entry, forall_eq_or_imp, String.reduceEq,
    ↓reduceIte, Option.or_self, Option.none_or, Option.or_none, forall_eq] at h
  obtain ⟨hminimum, hmaximum, hexclusiveMinimum, hexclusiveMaximum, hmultipleOf⟩ := h
  exact {
    minimum := .of_get? hminimum fun _ _ => ⟨rfl, rfl⟩
    maximum := .of_get? hmaximum fun _ _ => ⟨rfl, rfl⟩
    exclusiveMinimum := .of_get? hexclusiveMinimum fun _ _ => ⟨rfl, rfl⟩
    exclusiveMaximum := .of_get? hexclusiveMaximum fun _ _ => ⟨rfl, rfl⟩
    multipleOf := .of_get? hmultipleOf fun _ _ => ⟨rfl, rfl⟩
  }

theorem StringKeywords.spelledBy {k : StringKeywords}
    (h : ∀ keyword ∈ Kind.string.keywords, members.get? keyword = Members.last? k.entries keyword)
    (hformat : ∀ format, k.format = some format → Format.ofName format.name = format)
    : k.SpelledBy members := by
  simp only [Kind.keywords, entries, List.mem_cons, List.not_mem_nil, or_false,
    List.append_assoc, Members.last?_append, last?_entry, forall_eq_or_imp, String.reduceEq,
    ↓reduceIte, Option.or_self, Option.none_or, Option.or_none, forall_eq] at h
  obtain ⟨hname, hminLength, hmaxLength, hpattern⟩ := h
  exact {
    format := .of_get? hname fun format h => ⟨congrArg some (hformat format h), rfl⟩
    minLength := .of_get? hminLength fun count _ => ⟨Json.Number.toCount?_ofCount count, rfl⟩
    maxLength := .of_get? hmaxLength fun count _ => ⟨Json.Number.toCount?_ofCount count, rfl⟩
    pattern := .of_get? hpattern fun _ _ => ⟨rfl, rfl⟩
  }

/-!
In what follows `print` writes each subschema as a document that spells it.
-/

section Subschemas

variable {R : Json → σ → Prop} {print : σ → Json} {keyword : String}

theorem Spelled.schema {s : Option σ} (hget : members.get? keyword = s.map print)
    (hnull : ∀ s, (print s).isNull = false) (h : ∀ s' ∈ s.toList, R (print s') s')
    : Spelled members keyword R s := by
  apply Spelled.of_get? hget
  rintro s rfl
  exact ⟨h s (by simp), hnull s⟩

theorem Spelled.boolOr {slot : Option (BoolOr σ)}
    (hget : members.get? keyword = (slot.map (BoolOr.map print)).map BoolOr.toJson)
    (hnull : ∀ s, (print s).isNull = false) (h : ∀ s ∈ slotSubschemas slot, R (print s) s)
    : Spelled members keyword (boolOr R) slot := by
  rw [Option.map_map] at hget
  apply Spelled.of_get? hget
  rintro slot rfl
  cases slot with
  | bool b => exact ⟨rfl, rfl⟩
  | schema s => exact ⟨h s (by simp [slotSubschemas, BoolOr.subschemas]), hnull s⟩

theorem Spelled.each {list : Option (List σ)}
    (hget : members.get? keyword = (list.map (List.map print)).map .array)
    (h : ∀ s ∈ list.getD [], R (print s) s)
    : Spelled members keyword (each R) list := by
  rw [Option.map_map] at hget
  apply Spelled.of_get? hget
  rintro list rfl
  refine ⟨⟨list.map print, rfl, ?_⟩, rfl⟩
  simpa [List.forall₂_map_left_iff, List.forall₂_same] using h

theorem Spelled.named {list : Option (List (String × σ))}
    (hget : members.get? keyword = (list.map (Members.mapValues print)).map .object)
    (h : ∀ s ∈ namedSubschemas list, R (print s) s)
    : Spelled members keyword (named R) list := by
  rw [Option.map_map] at hget
  apply Spelled.of_get? hget
  rintro list rfl
  refine ⟨⟨_, rfl, ?_⟩, rfl⟩
  simp only [Members.mapValues, List.forall₂_map_left_iff, List.forall₂_same, true_and]
  intro entry hentry
  exact h entry.2 (List.mem_map_of_mem hentry)

theorem ArrayKeywords.spelledBy {items : Option (BoolOr σ)} {k : ArrayKeywords σ}
    (h : ∀ keyword ∈ Kind.array.keywords, members.get? keyword =
      Members.last? (arrayEntries (items.map (BoolOr.map print)) (k.map print)) keyword)
    (hnull : ∀ s, (print s).isNull = false)
    (hR : ∀ s ∈ slotSubschemas items ++ k.subschemas, R (print s) s)
    : Spelled members "items" (JsonSchema.boolOr R) items ∧ k.SpelledBy R members := by
  simp only [Kind.keywords, arrayEntries, map, List.mem_cons, List.not_mem_nil, or_false,
    List.append_assoc, Members.last?_append, last?_entry, forall_eq_or_imp, String.reduceEq,
    ↓reduceIte, Option.or_self, Option.none_or, Option.or_none, forall_eq] at h
  obtain ⟨hitems, hprefixItems, hadditionalItems, hunevaluatedItems, hcontains, hminContains,
    hmaxContains, hminItems, hmaxItems, huniqueItems⟩ := h
  simp only [ArrayKeywords.subschemas, List.mem_append, or_imp, forall_and] at hR
  obtain ⟨hR, ⟨⟨hpositional, hadditional⟩, hunevaluated⟩, hcontained⟩ := hR
  refine ⟨.boolOr hitems hnull hR, ?_⟩
  exact {
    prefixItems := .each hprefixItems hpositional
    additionalItems := .boolOr hadditionalItems hnull hadditional
    unevaluatedItems := .boolOr hunevaluatedItems hnull hunevaluated
    contains := .schema hcontains hnull hcontained
    minContains := .of_get? hminContains fun count _ => ⟨Json.Number.toCount?_ofCount count, rfl⟩
    maxContains := .of_get? hmaxContains fun count _ => ⟨Json.Number.toCount?_ofCount count, rfl⟩
    minItems := .of_get? hminItems fun count _ => ⟨Json.Number.toCount?_ofCount count, rfl⟩
    maxItems := .of_get? hmaxItems fun count _ => ⟨Json.Number.toCount?_ofCount count, rfl⟩
    uniqueItems := .of_get? huniqueItems fun _ _ => ⟨rfl, rfl⟩
  }

theorem toStrings?_stringsToJson (names : List String)
    : (stringsToJson names).toStrings? = some names := by
  simp only [stringsToJson, Json.toStrings?, Json.toArray?, Option.bind_some]
  induction names with
  | nil => rfl
  | cons name rest ih => simp [ih, Json.toString?]

theorem Spelled.stringLists {lists : Option (Members (List String))}
    (hget : members.get? keyword =
      lists.map fun lists => .object (lists.mapValues stringsToJson))
    : Spelled members keyword JsonSchema.stringLists lists := by
  apply Spelled.of_get? hget
  rintro lists -
  refine ⟨⟨_, rfl, ?_⟩, rfl⟩
  simp only [Members.mapValues, List.forall₂_map_left_iff, List.forall₂_same, true_and]
  intro entry _
  exact toStrings?_stringsToJson entry.2

theorem last?_required (properties : Option (List (String × Json)))
    (required : Option (List String)) (k : ObjectKeywords Json)
    : Members.last? (objectEntries properties required k) "required" =
      required.map stringsToJson := by
  simp [objectEntries, Members.last?_append, last?_entry]

theorem Spelled.required {required : Option (List String)}
    (hget : members.get? "required" = required.map stringsToJson)
    (hrequired : ∀ names ∈ required, names.Nodup)
    : Spelled members "required" (reads toRequired?) required := by
  apply Spelled.of_get? hget
  intro names h
  refine ⟨?_, rfl⟩
  unfold reads toRequired?
  rw [toStrings?_stringsToJson, Option.map_some, eraseDups_of_nodup (hrequired names h)]

theorem ObjectKeywords.spelledBy {properties : Option (List (String × σ))}
    {required : Option (List String)} {k : ObjectKeywords σ}
    (h : ∀ keyword ∈ Kind.object.keywords, members.get? keyword =
      Members.last?
        (objectEntries (properties.map (Members.mapValues print)) required (k.map print)) keyword)
    (hnull : ∀ s, (print s).isNull = false)
    (hR : ∀ s ∈ namedSubschemas properties ++ k.subschemas, R (print s) s)
    : Spelled members "properties" (JsonSchema.named R) properties ∧ k.SpelledBy R members := by
  simp only [Kind.keywords, objectEntries, map, List.mem_cons, List.not_mem_nil, or_false,
    List.append_assoc, Members.last?_append, last?_entry, forall_eq_or_imp, String.reduceEq,
    ↓reduceIte, Option.or_self, Option.none_or, Option.or_none, forall_eq] at h
  obtain ⟨hproperties, hadditionalProperties, hpatternProperties, hunevaluatedProperties, -,
    hminProperties, hmaxProperties, hallOf, hanyOf, honeOf, hnegated, hcondition, hconsequent,
    halternative, hpropertyNames, hdependentRequired, hdependentSchemas⟩ := h
  simp only [ObjectKeywords.subschemas, List.mem_append, or_imp, forall_and] at hR
  obtain ⟨hR, ⟨⟨⟨⟨⟨⟨⟨⟨⟨⟨⟨hadditional, hpattern⟩, hunevaluated⟩, hall⟩, hany⟩, hone⟩, hnot⟩, hif⟩,
    hthen⟩, helse⟩, hpropertyName⟩, hdependent⟩⟩ := hR
  refine ⟨.named hproperties hR, ?_⟩
  exact {
    additionalProperties := .boolOr hadditionalProperties hnull hadditional
    patternProperties := .named hpatternProperties hpattern
    unevaluatedProperties := .boolOr hunevaluatedProperties hnull hunevaluated
    minProperties := .of_get? hminProperties fun count _ => ⟨Json.Number.toCount?_ofCount count, rfl⟩
    maxProperties := .of_get? hmaxProperties fun count _ => ⟨Json.Number.toCount?_ofCount count, rfl⟩
    allOf := .each hallOf hall
    anyOf := .each hanyOf hany
    oneOf := .each honeOf hone
    negated := .schema hnegated hnull hnot
    condition := .schema hcondition hnull hif
    consequent := .schema hconsequent hnull hthen
    alternative := .schema halternative hnull helse
    propertyNames := .schema hpropertyNames hnull hpropertyName
    dependentRequired := .stringLists hdependentRequired
    dependentSchemas := .named hdependentSchemas hdependent
  }

end Subschemas

/-!
The members of the whole object.
-/

theorem toJson_eq (s : JsonSchema)
    : s.toJson = .object (Members.ofList
        (Printed.typeEntry (s.body.map printed) ++ s.annotations.entries ++
          Printed.bodyEntries (s.body.map printed))) := by
  unfold toJson
  rw [printed_eq]
  rfl

theorem isNull_toJson (s : JsonSchema) : s.toJson.isNull = false := by
  rw [toJson_eq]
  rfl

namespace Body

def entries (body : Body JsonSchema) : List (String × Json) :=
  Printed.bodyEntries (body.map printed)

theorem entries_array (items : Option (BoolOr JsonSchema)) (k : ArrayKeywords JsonSchema)
    : (Body.array items k).entries =
      arrayEntries (items.map (BoolOr.map toJson)) (k.map toJson) := by
  simp only [entries, Body.map, Printed.bodyEntries, Option.map_map, BoolOr.map_comp,
    ArrayKeywords.map_map]
  rfl

theorem entries_object (properties : Option (List (String × JsonSchema)))
    (required : Option (List String)) (k : ObjectKeywords JsonSchema)
    : (Body.object properties required k).entries =
      objectEntries (properties.map (Members.mapValues toJson)) required (k.map toJson) := by
  simp only [entries, Body.map, Printed.bodyEntries, Option.map_map, mapValues_comp,
    ObjectKeywords.map_map]
  rfl

theorem entries_union (list : TwoOrMore JsonSchema)
    : (Body.union list).entries = list.toList.flatMap fun member => member.body.entries := by
  simp only [entries, Body.map, Printed.bodyEntries, TwoOrMore.toList_map, List.flatMap_map,
    printed_eq]
  rfl

end Body

end JsonSchema

end SchemaBridge
