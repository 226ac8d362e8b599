import SchemaBridge.Proofs.JsonSchema.Grammar
import SchemaBridge.Proofs.JsonSchema.RoundTrip

/-!
This module contains the normal form of a document, in which nothing is left that a reader ignores,
and the proof that this is what is written for the schema that is read. Main definition:
`JsonSchema.normalForm`. Main statement: `toJson_eq_normalForm`.
-/

namespace SchemaBridge

namespace JsonSchema

section Entries

variable {f : String → Option Json}

theorem get?_entry (keyword name : String) (value : Option Json)
    : Members.get? (entry keyword value) name = if keyword = name then value else none := by
  cases value <;> simp [entry, Members.get?_cons]

theorem get?_flatMap_entry (names : List String) (name : String)
    : Members.get? (names.flatMap fun name => entry name (f name)) name =
      if name ∈ names then f name else none := by
  induction names with
  | nil => rfl
  | cons first rest ih =>
    rw [List.flatMap_cons, Members.get?_append, get?_entry, ih]
    by_cases hfirst : first = name
    . subst hfirst
      simp only [if_true, List.mem_cons, true_or]
      cases f first <;> simp
    . simp [hfirst, Ne.symm hfirst]

/--
Entries that repeat a name with the same value count once, where the name is first.
-/
theorem ofList_flatMap_entry (names : List String)
    : Members.ofList (names.flatMap fun name => entry name (f name)) =
      names.eraseDups.flatMap fun name => entry name (f name) := by
  induction names using List.reverseRecOn with
  | nil => rfl
  | append_singleton names last ih =>
    rw [List.flatMap_append, List.flatMap_singleton, eraseDups_concat]
    cases hlast : f last with
    | none =>
      rw [entry, List.append_nil, ih]
      split
      . rfl
      . rw [List.flatMap_append, List.flatMap_singleton, hlast, entry, List.append_nil]
    | some value =>
      have hget := get?_flatMap_entry (f := f) names.eraseDups last
      rw [entry, Members.ofList_concat, ih]
      split
      next hmem =>
        rw [if_pos (List.mem_eraseDups.mpr hmem), hlast] at hget
        exact Members.insert_eq_self hget
      next hmem =>
        rw [if_neg (List.mem_eraseDups.not.mpr hmem)] at hget
        rw [Members.insert_eq_append hget, List.flatMap_append, List.flatMap_singleton, hlast]
        rfl

end Entries

/-!
The normal form.
-/

/--
The types that `type` names.
-/
def namedKinds (members : Members Json) : List Kind :=
  match present? members "type" with
  | some (.string name) => (Kind.ofName? name).toList
  | some (.array names) => names.filterMap fun name => name.toString?.bind Kind.ofName?
  | _ => []

/--
The value of a keyword that is present. Only `default` and `const` can be `null`.
-/
def given? (members : Members Json) (keyword : String) : Option Json :=
  if keyword = "default" ∨ keyword = "const" then
    members.get? keyword
  else
    present? members keyword

/--
The keywords that matter for a schema of some types.
-/
def relevantKeywords (kinds : List Kind) : List String :=
  ("type" :: Annotations.keywords ++ kinds.flatMap Kind.keywords).eraseDups

def keepRelevant (kinds : List Kind) (members : Members Json) : Members Json :=
  (relevantKeywords kinds).flatMap fun keyword => entry keyword (given? members keyword)

def withoutRepetition (value : Json) : Json :=
  match value.toStrings? with
  | some names => stringsToJson names.eraseDups
  | none => value

mutual

/--
A value of some shape with all schemas in it in normal form.
-/
def normalize : Shape → Json → Json
  | .schema, .object members | .boolOrSchema, .object members =>
    .object (keepRelevant (namedKinds members) (normalizeKeywords members))
  | .schemas, .array items => .array (normalizeItems items)
  | .schemaMap, .object members => .object (normalizeValues members)
  | .strings, value => withoutRepetition value
  | _, value => value

def normalizeKeywords : List (String × Json) → List (String × Json)
  | [] => []
  | (keyword, value) :: rest =>
    match shape? keyword with
    | some shape => (keyword, normalize shape value) :: normalizeKeywords rest
    | none => (keyword, value) :: normalizeKeywords rest

def normalizeItems : List Json → List Json
  | [] => []
  | item :: rest => normalize .schema item :: normalizeItems rest

def normalizeValues : List (String × Json) → List (String × Json)
  | [] => []
  | (name, value) :: rest => (name, normalize .schema value) :: normalizeValues rest

end

/--
The normal form of a schema document: `type`, the annotations and the keywords of the named types, as
far as they are given, and with their values unchanged but for repeated names in `required` and for
the schemas in them, which are in normal form as well.
-/
def normalForm : Json → Json :=
  normalize .schema

theorem normalizeItems_eq (items : List Json) : normalizeItems items = items.map normalForm := by
  induction items with
  | nil => simp [normalizeItems]
  | cons item rest ih => simp [normalizeItems, ih, normalForm]

theorem normalizeValues_eq (members : Members Json)
    : normalizeValues members = members.mapValues normalForm := by
  induction members with
  | nil => simp [normalizeValues, Members.mapValues]
  | cons member rest ih => simp_all [normalizeValues, Members.mapValues, normalForm]

theorem normalize_boolOrSchema (value : Json) : normalize .boolOrSchema value = normalForm value := by
  cases value <;> simp [normalForm, normalize]

theorem isNull_normalize (shape : Shape) (value : Json)
    : (normalize shape value).isNull = value.isNull := by
  cases shape with
  | strings =>
    simp only [normalize, withoutRepetition]
    split
    next h => cases value <;> first | rfl | cases h
    next => rfl
  | _ => cases value <;> simp [normalize, Json.isNull]

section Keywords

variable {members : Members Json} {keyword : String} {shape : Shape}

theorem get?_normalizeKeywords
    : Members.get? (normalizeKeywords members) keyword =
      (members.get? keyword).map ((shape? keyword).elim id normalize) := by
  induction members with
  | nil => simp [normalizeKeywords]
  | cons member rest ih =>
    obtain ⟨name, value⟩ := member
    by_cases hname : name = keyword
    . subst hname
      cases hshape : shape? name <;> simp [normalizeKeywords, hshape, Members.get?_cons]
    . cases hshape : shape? name <;>
        simp [normalizeKeywords, hshape, Members.get?_cons, hname, ih]

theorem given?_of_known (known : (keyword, shape) ∈ keywordShapes)
    : given? (normalizeKeywords members) keyword =
      (present? members keyword).map (normalize shape) := by
  rw [given?, if_neg (not_free_of_known known), present?, get?_normalizeKeywords,
    shape?_of_known known, Option.elim_some, present?, Option.filter_map, Function.comp_def]
  simp only [isNull_normalize]

theorem given?_of_unknown (h : shape? keyword = none)
    : given? (normalizeKeywords members) keyword = given? members keyword := by
  unfold given? present?
  rw [get?_normalizeKeywords, h, Option.elim_none, Option.map_id]
  rfl

end Keywords

/-!
What is spelled under a keyword is written as the value of the keyword in normal form.
-/

section Spelled

variable {members : Members Json} {keyword : String} {α : Type}

theorem Spelled.given?_eq {shape : Shape} {form : Json → α → Prop} {value : Option α}
    {print : α → Json} (h : Spelled members keyword form value)
    (known : (keyword, shape) ∈ keywordShapes)
    (hprint : ∀ document a, present? members keyword = some document → form document a →
      normalize shape document = print a)
    : given? (normalizeKeywords members) keyword = value.map print := by
  rw [given?_of_known known]
  unfold Spelled at h
  cases hpresent : present? members keyword with
  | none =>
    rw [hpresent] at h
    cases h
    rfl
  | some document =>
    rw [hpresent] at h
    cases h with
    | some h => exact congrArg some (hprint document _ hpresent h)

theorem given?_string {value : Option String}
    (h : Spelled members keyword (reads Json.toString?) value)
    (known : (keyword, .string) ∈ keywordShapes)
    : given? (normalizeKeywords members) keyword = value.map .string := by
  apply h.given?_eq known
  intro document s _ hs
  cases document <;> cases hs
  simp [normalize]

theorem given?_boolean {value : Option Bool} (h : Spelled members keyword (reads Json.toBool?) value)
    (known : (keyword, .boolean) ∈ keywordShapes)
    : given? (normalizeKeywords members) keyword = value.map .bool := by
  apply h.given?_eq known
  intro document b _ hb
  cases document <;> cases hb
  simp [normalize]

theorem given?_number {value : Option Json.Number}
    (h : Spelled members keyword (reads Json.toNumber?) value)
    (known : (keyword, .number) ∈ keywordShapes)
    : given? (normalizeKeywords members) keyword = value.map .number := by
  apply h.given?_eq known
  intro document n _ hn
  cases document <;> cases hn
  simp [normalize]

theorem eq_ofCount_of_toCount? {document : Json} {count : UInt64}
    (h : document.toCount? = some count)
    : document = .ofCount count := by
  rcases document with _ | _ | ⟨value | bits⟩ | _ | _ | _ <;> try cases h
  unfold Json.toCount? Json.Number.toCount? at h
  dsimp only at h
  split at h
  next hrange =>
    cases h
    rw [Json.ofCount, Json.Number.ofCount]
    congr
    simp
    omega
  next => cases h

theorem given?_count {value : Option UInt64}
    (h : Spelled members keyword (reads Json.toCount?) value)
    (known : (keyword, .count) ∈ keywordShapes)
    : given? (normalizeKeywords members) keyword = value.map .ofCount := by
  apply h.given?_eq known
  intro document count _ hcount
  rw [eq_ofCount_of_toCount? hcount]
  simp [normalize]

theorem given?_array {value : Option (List Json)}
    (h : Spelled members keyword (reads Json.toArray?) value)
    (known : (keyword, .array) ∈ keywordShapes)
    : given? (normalizeKeywords members) keyword = value.map .array := by
  apply h.given?_eq known
  intro document items _ hitems
  cases document <;> cases hitems
  simp [normalize]

theorem given?_format {value : Option Format}
    (h : Spelled members keyword (reads toFormat?) value)
    (known : (keyword, .string) ∈ keywordShapes)
    : given? (normalizeKeywords members) keyword =
      value.map fun format => .string format.name := by
  apply h.given?_eq known
  intro document format _ hformat
  obtain ⟨name, hname, rfl⟩ := Option.map_eq_some_iff.mp hformat
  cases document <;> cases hname
  simp [normalize]

theorem given?_required {value : Option (List String)}
    (h : Spelled members keyword (reads toRequired?) value)
    (known : (keyword, .strings) ∈ keywordShapes)
    : given? (normalizeKeywords members) keyword = value.map stringsToJson := by
  apply h.given?_eq known
  intro document names _ hnames
  obtain ⟨listed, hlisted, rfl⟩ := Option.map_eq_some_iff.mp hnames
  simp only [normalize, withoutRepetition, hlisted]

theorem given?_stringLists {value : Option (Members (List String))}
    (h : Spelled members keyword stringLists value)
    (known : (keyword, .stringLists) ∈ keywordShapes)
    : given? (normalizeKeywords members) keyword =
      value.map fun lists => .object (lists.mapValues stringsToJson) := by
  apply h.given?_eq known
  rintro _ lists _ ⟨entries, rfl, hentries⟩
  have heq : entries = lists.mapValues stringsToJson := by
    rw [Members.mapValues, ← List.forall₂_eq_eq_eq, List.forall₂_map_right_iff]
    apply hentries.imp
    rintro ⟨name, document⟩ ⟨_, names⟩ ⟨rfl, hnames⟩
    exact Prod.ext rfl (eq_array_of_toStrings? hnames)
  rw [heq]
  simp [normalize]

/-!
For what follows the documents in the object that spell schemas are written in normal form.
-/

theorem depth_le_of_present? {value : Json} (h : present? members keyword = some value)
    : value.depth ≤ Json.depthOfMembers members := by
  exact Json.depth_le_of_mem_members (mem_of_present? h)

section Subschemas

variable {R : Json → JsonSchema → Prop}
  (hR : ∀ document s, document.depth ≤ Json.depthOfMembers members → R document s →
    normalForm document = s.toJson)
include hR

theorem given?_schema {s : Option JsonSchema} (h : Spelled members keyword R s)
    (known : (keyword, .schema) ∈ keywordShapes)
    : given? (normalizeKeywords members) keyword = s.map toJson := by
  apply h.given?_eq known
  intro document s hpresent hs
  exact hR document s (depth_le_of_present? hpresent) hs

theorem given?_boolOr {slot : Option (BoolOr JsonSchema)}
    (h : Spelled members keyword (boolOr R) slot)
    (known : (keyword, .boolOrSchema) ∈ keywordShapes)
    : given? (normalizeKeywords members) keyword =
      (slot.map (BoolOr.map toJson)).map BoolOr.toJson := by
  rw [Option.map_map]
  apply h.given?_eq known
  rintro document (b | s) hpresent hslot
  . rw [show document = .bool b from hslot]
    simp [normalize, BoolOr.map, BoolOr.toJson]
  . have hschema := hR document s (depth_le_of_present? hpresent) hslot
    rw [normalize_boolOrSchema]
    exact hschema

theorem given?_each {list : Option (List JsonSchema)} (h : Spelled members keyword (each R) list)
    (known : (keyword, .schemas) ∈ keywordShapes)
    : given? (normalizeKeywords members) keyword = (list.map (List.map toJson)).map .array := by
  rw [Option.map_map]
  apply h.given?_eq known
  rintro _ list hpresent ⟨items, rfl, hitems⟩
  have hdepth := depth_le_of_present? hpresent
  rw [normalize, normalizeItems_eq, Function.comp_apply]
  apply congrArg Json.array
  apply map_eq_map_of_forall₂ hitems
  intro item hitem s hs
  exact hR item s (Nat.le_of_succ_le (Nat.le_trans (Nat.succ_le_succ
    (Json.depth_le_of_mem_items hitem)) hdepth)) hs

theorem given?_named {list : Option (List (String × JsonSchema))}
    (h : Spelled members keyword (named R) list) (known : (keyword, .schemaMap) ∈ keywordShapes)
    : given? (normalizeKeywords members) keyword =
      (list.map (Members.mapValues toJson)).map .object := by
  rw [Option.map_map]
  apply h.given?_eq known
  rintro _ list hpresent ⟨entries, rfl, hentries⟩
  have hdepth := depth_le_of_present? hpresent
  rw [normalize, normalizeValues_eq, Function.comp_apply]
  apply congrArg Json.object
  apply map_eq_map_of_forall₂ hentries
  rintro ⟨name, document⟩ hentry ⟨_, s⟩ ⟨rfl, hs⟩
  apply congrArg (Prod.mk name)
  exact hR document s (Nat.le_of_succ_le (Nat.le_trans (Nat.succ_le_succ
    (Json.depth_le_of_mem_members hentry)) hdepth)) hs

end Subschemas

end Spelled

/-!
The entries that are written for a body are the keywords of its types in normal form.
-/

section Entries

variable {members : Members Json} {R : Json → JsonSchema → Prop}

def normalEntries (members : Members Json) (keywords : List String) : List (String × Json) :=
  keywords.flatMap fun keyword => entry keyword (given? (normalizeKeywords members) keyword)

theorem Annotations.entries_eq {a : Annotations} (h : a.SpelledBy members)
    : a.entries = normalEntries members keywords := by
  have hdefault : given? (normalizeKeywords members) "default" = a.default :=
    (given?_of_unknown (by decide)).trans h.default
  have hconst : given? (normalizeKeywords members) "const" = a.const :=
    (given?_of_unknown (by decide)).trans h.const
  simp only [entries, normalEntries, keywords, List.flatMap_cons, List.flatMap_nil,
    List.append_nil, List.append_assoc, hdefault, hconst, given?_string h.id (by decide),
    given?_string h.dialect (by decide), given?_string h.comment (by decide),
    given?_string h.title (by decide), given?_string h.description (by decide),
    given?_array h.examples (by decide), given?_boolean h.readOnly (by decide),
    given?_boolean h.writeOnly (by decide), given?_boolean h.deprecated (by decide),
    given?_array h.enum (by decide)]

theorem NumericKeywords.entries_eq {k : NumericKeywords} (h : k.SpelledBy members)
    : k.entries = normalEntries members Kind.number.keywords := by
  simp only [entries, normalEntries, Kind.keywords, List.flatMap_cons, List.flatMap_nil,
    List.append_nil, List.append_assoc, given?_number h.minimum (by decide),
    given?_number h.maximum (by decide), given?_boolean h.exclusiveMinimum (by decide),
    given?_boolean h.exclusiveMaximum (by decide), given?_number h.multipleOf (by decide)]

theorem StringKeywords.entries_eq {k : StringKeywords} (h : k.SpelledBy members)
    : k.entries = normalEntries members Kind.string.keywords := by
  simp only [entries, normalEntries, Kind.keywords, List.flatMap_cons, List.flatMap_nil,
    List.append_nil, List.append_assoc, given?_format h.format (by decide),
    given?_count h.minLength (by decide), given?_count h.maxLength (by decide),
    given?_string h.pattern (by decide)]

section Subschemas

variable (hR : ∀ document s, document.depth ≤ Json.depthOfMembers members → R document s →
    normalForm document = s.toJson)
include hR

theorem arrayEntries_eq {items : Option (BoolOr JsonSchema)} {k : ArrayKeywords JsonSchema}
    (hitems : Spelled members "items" (boolOr R) items) (h : k.SpelledBy R members)
    : arrayEntries (items.map (BoolOr.map toJson)) (k.map toJson) =
      normalEntries members Kind.array.keywords := by
  simp only [arrayEntries, ArrayKeywords.map, normalEntries, Kind.keywords, List.flatMap_cons,
    List.flatMap_nil, List.append_nil, List.append_assoc, given?_boolOr hR hitems (by decide),
    given?_each hR h.prefixItems (by decide), given?_boolOr hR h.additionalItems (by decide),
    given?_boolOr hR h.unevaluatedItems (by decide), given?_schema hR h.contains (by decide),
    given?_count h.minContains (by decide), given?_count h.maxContains (by decide),
    given?_count h.minItems (by decide), given?_count h.maxItems (by decide),
    given?_boolean h.uniqueItems (by decide)]

theorem objectEntries_eq {properties : Option (List (String × JsonSchema))}
    {required : Option (List String)} {k : ObjectKeywords JsonSchema}
    (hproperties : Spelled members "properties" (named R) properties)
    (hrequired : Spelled members "required" (reads toRequired?) required)
    (h : k.SpelledBy R members)
    : objectEntries (properties.map (Members.mapValues toJson)) required (k.map toJson) =
      normalEntries members Kind.object.keywords := by
  simp only [objectEntries, ObjectKeywords.map, normalEntries, Kind.keywords, List.flatMap_cons,
    List.flatMap_nil, List.append_nil, List.append_assoc, given?_named hR hproperties (by decide),
    given?_boolOr hR h.additionalProperties (by decide),
    given?_named hR h.patternProperties (by decide),
    given?_boolOr hR h.unevaluatedProperties (by decide), given?_required hrequired (by decide),
    given?_count h.minProperties (by decide), given?_count h.maxProperties (by decide),
    given?_each hR h.allOf (by decide), given?_each hR h.anyOf (by decide),
    given?_each hR h.oneOf (by decide), given?_schema hR h.negated (by decide),
    given?_schema hR h.condition (by decide), given?_schema hR h.consequent (by decide),
    given?_schema hR h.alternative (by decide), given?_schema hR h.propertyNames (by decide),
    given?_stringLists h.dependentRequired (by decide),
    given?_named hR h.dependentSchemas (by decide)]

theorem Body.entries_eq {kind : Kind} {body : Body JsonSchema}
    (h : body.SpelledAs R members kind)
    : body.entries = normalEntries members kind.keywords := by
  cases body with
  | null =>
    cases kind <;> try exact h.elim
    rfl
  | boolean =>
    cases kind <;> try exact h.elim
    rfl
  | integer k =>
    cases kind <;> try exact h.elim
    exact NumericKeywords.entries_eq h
  | number k =>
    cases kind <;> try exact h.elim
    exact NumericKeywords.entries_eq h
  | string k =>
    cases kind <;> try exact h.elim
    exact StringKeywords.entries_eq h
  | array items k =>
    cases kind <;> try exact h.elim
    rw [entries_array]
    exact arrayEntries_eq hR h.1 h.2
  | object properties required k =>
    cases kind <;> try exact h.elim
    rw [entries_object]
    exact objectEntries_eq hR h.1 h.2.1 h.2.2
  | _ => cases kind <;> exact h.elim

theorem entries_union_eq {kinds : List Kind} {list : List JsonSchema}
    (h : List.Forall₂
      (fun kind member => member.annotations = {} ∧ member.body.SpelledAs R members kind)
      kinds list)
    : (list.flatMap fun member => member.body.entries) =
      normalEntries members (kinds.flatMap Kind.keywords) := by
  induction h with
  | nil => rfl
  | cons hmember _ ih =>
    rw [List.flatMap_cons, ih, Body.entries_eq hR hmember.2]
    simp only [normalEntries, List.flatMap_cons, List.flatMap_append]

end Subschemas

end Entries

/-!
The whole object. A keyword that two types of a union share is in one place of the normal form.
-/

section Object

variable {members : Members Json}

theorem namedKinds_of_untyped (h : present? members "type" = none) : namedKinds members = [] := by
  rw [namedKinds, h]

theorem namedKinds_of_single {kind : Kind}
    (h : present? members "type" = some (.string kind.name))
    : namedKinds members = [kind] := by
  simp [namedKinds, h, Kind.ofName?_name]

theorem namedKinds_of_union {kinds : List Kind}
    (h : present? members "type" = some (.array (kinds.map fun kind => .string kind.name)))
    : namedKinds members = kinds := by
  simp [namedKinds, h, List.filterMap_map, Json.toString?, Kind.ofName?_name]

theorem given?_type : given? (normalizeKeywords members) "type" = present? members "type" := by
  rw [given?_of_unknown (by decide)]
  rfl

theorem normalForm_object
    : normalForm (.object members) =
      .object (Members.ofList (entry "type" (present? members "type") ++
        normalEntries members Annotations.keywords ++
          normalEntries members ((namedKinds members).flatMap Kind.keywords))) := by
  rw [normalForm, normalize, keepRelevant, relevantKeywords, ← ofList_flatMap_entry]
  simp only [List.cons_append, List.flatMap_cons, List.flatMap_append, given?_type,
    List.append_assoc, normalEntries]

variable {R : Json → JsonSchema → Prop}
  (hR : ∀ document s, document.depth ≤ Json.depthOfMembers members → R document s →
    normalForm document = s.toJson)

theorem Body.typeEntry_eq {body : Body JsonSchema} (h : body.SpelledBy R members)
    : Printed.typeEntry (body.map printed) = entry "type" (present? members "type") := by
  cases h with
  | untyped type =>
    rw [type]
    rfl
  | single kind _ type hspelled =>
    rw [type, typeEntry_of_kind? (kind?_of_spelledAs hspelled)]
    rfl
  | union kinds list type _ hspelled =>
    rw [type, typeEntry_union (hspelled.imp fun _ _ h => kind?_of_spelledAs h.2)]
    rfl

include hR

theorem Body.entries_eq_of_spelledBy {body : Body JsonSchema} (h : body.SpelledBy R members)
    : body.entries = normalEntries members ((namedKinds members).flatMap Kind.keywords) := by
  cases h with
  | untyped type =>
    rw [namedKinds_of_untyped type]
    rfl
  | single kind _ type hspelled =>
    rw [namedKinds_of_single type, List.flatMap_singleton]
    exact entries_eq hR hspelled
  | union kinds list type _ hspelled =>
    rw [namedKinds_of_union type, entries_union]
    exact entries_union_eq hR hspelled

theorem toJson_eq_of_spelledBy {s : JsonSchema} (h : s.SpelledBy R members)
    : s.toJson = normalForm (.object members) := by
  rw [toJson_eq, normalForm_object, Body.typeEntry_eq h.2, Annotations.entries_eq h.1,
    ← Body.entries_eq_of_spelledBy hR h.2]
  rfl

end Object

/--
Reading a document and writing the schema again gives the normal form of the document: the keywords
that matter keep their values, and nothing else is written.
-/
theorem toJson_eq_normalForm {document : Json} {s : JsonSchema} (h : ofJson document = .ok s)
    : s.toJson = normalForm document := by
  induction hdepth : document.depth using Nat.strongRecOn generalizing document s with
  | _ depth ih =>
    subst hdepth
    obtain ⟨members, rfl⟩ := exists_object_of_ofJson h
    apply toJson_eq_of_spelledBy _ (ofJson_object_eq_ok_iff.mp h)
    intro document s hdepth hdocument
    symm
    exact ih document.depth (Nat.lt_succ_of_le hdepth) hdocument rfl

def orderNormalForm : Json :=
  .object [
    ("type", .array [.string "object", .string "null"]),
    ("default", .null),
    ("properties", .object [
      ("price", .object [
        ("type", .array [.string "number", .string "integer"]), ("minimum", .ofNat 0)]),
      ("day", .object [("type", .string "string"), ("format", .string "date")])]),
    ("required", .array [.string "price", .string "day"]),
    ("allOf", .array [])]

theorem toJson_eq_normalForm_order
    : ofJson orderDocument = .ok orderSchema ∧
      orderSchema.toJson = normalForm orderDocument ∧ normalForm orderDocument = orderNormalForm := by
  have h : ofJson orderDocument = .ok orderSchema := by rfl
  exact ⟨h, toJson_eq_normalForm h, by rfl⟩

end JsonSchema

end SchemaBridge
