import Mathlib.Data.List.Forall2
import Mathlib.Data.List.Induction
import Mathlib.Data.List.Nodup
import Mathlib.Tactic.MkIffOfInductiveProp
import SchemaBridge.JsonSchema.Basic

/-!
This module contains the grammar of schema documents as a relation: which schema the members of a
JSON object spell, where `R` relates a document to each schema that it spells as a subschema. A
keyword whose value is `null` counts as absent, except for `default` and `const`. Main definition:
`JsonSchema.SpelledBy`.
-/

namespace SchemaBridge

namespace JsonSchema

variable {α σ : Type}

/--
The value of a keyword that is present and not `null`.
-/
def present? (members : Members Json) (keyword : String) : Option Json :=
  (members.get? keyword).filter fun value => !value.isNull

theorem present?_eq_some_iff {members : Members Json} {keyword : String} {value : Json}
    : present? members keyword = some value ↔
      members.get? keyword = some value ∧ value.isNull = false := by
  simp [present?, Option.filter_eq_some_iff]

theorem present?_of_get? {members : Members Json} {keyword : String} {value : Json}
    (hget : members.get? keyword = some value) (hnull : value.isNull = false)
    : present? members keyword = some value := by
  exact present?_eq_some_iff.mpr ⟨hget, hnull⟩

theorem mem_of_present? {members : Members Json} {keyword : String} {value : Json}
    (h : present? members keyword = some value)
    : (keyword, value) ∈ members := by
  exact Members.mem_of_get? (present?_eq_some_iff.mp h).1

/--
A keyword is present exactly if there is a value, and then spells it in the given form.
-/
def Spelled (members : Members Json) (keyword : String) (form : Json → α → Prop)
    (value : Option α) : Prop :=
  Option.Rel form (present? members keyword) value

theorem Spelled.exists_present {members : Members Json} {keyword : String}
    {form : Json → α → Prop} {a : α} (h : Spelled members keyword form (some a))
    : ∃ value, present? members keyword = some value ∧ form value a := by
  unfold Spelled at h
  cases hvalue : present? members keyword with
  | none =>
    rw [hvalue] at h
    cases h
  | some value =>
    rw [hvalue, Option.rel_some_some] at h
    exact ⟨value, rfl, h⟩

/-!
The forms in which a keyword can spell its value.
-/

def reads (read? : Json → Option α) (document : Json) (value : α) : Prop :=
  read? document = some value

def boolOr (R : Json → σ → Prop) (document : Json) : BoolOr σ → Prop
  | .bool b => document = .bool b
  | .schema s => R document s

def each (R : Json → σ → Prop) (document : Json) (list : List σ) : Prop :=
  ∃ items, document = .array items ∧ List.Forall₂ R items list

def named (R : Json → σ → Prop) (document : Json) (list : List (String × σ)) : Prop :=
  ∃ entries, document = .object entries ∧
    List.Forall₂ (fun entry member => entry.1 = member.1 ∧ R entry.2 member.2) entries list

@[mk_iff]
structure Annotations.SpelledBy (members : Members Json) (a : Annotations) : Prop where
  id : Spelled members "$id" (reads Json.toString?) a.id
  dialect : Spelled members "$schema" (reads Json.toString?) a.dialect
  comment : Spelled members "$comment" (reads Json.toString?) a.comment
  title : Spelled members "title" (reads Json.toString?) a.title
  description : Spelled members "description" (reads Json.toString?) a.description
  examples : Spelled members "examples" (reads Json.toArray?) a.examples
  readOnly : Spelled members "readOnly" (reads Json.toBool?) a.readOnly
  writeOnly : Spelled members "writeOnly" (reads Json.toBool?) a.writeOnly
  deprecated : Spelled members "deprecated" (reads Json.toBool?) a.deprecated
  enum : Spelled members "enum" (reads Json.toArray?) a.enum
  default : members.get? "default" = a.default
  const : members.get? "const" = a.const

@[mk_iff]
structure NumericKeywords.SpelledBy (members : Members Json) (k : NumericKeywords) : Prop where
  minimum : Spelled members "minimum" (reads Json.toNumber?) k.minimum
  maximum : Spelled members "maximum" (reads Json.toNumber?) k.maximum
  exclusiveMinimum : Spelled members "exclusiveMinimum" (reads Json.toBool?) k.exclusiveMinimum
  exclusiveMaximum : Spelled members "exclusiveMaximum" (reads Json.toBool?) k.exclusiveMaximum
  multipleOf : Spelled members "multipleOf" (reads Json.toNumber?) k.multipleOf

def toFormat? (document : Json) : Option Format :=
  document.toString?.map Format.ofName

@[mk_iff]
structure StringKeywords.SpelledBy (members : Members Json) (k : StringKeywords) : Prop where
  format : Spelled members "format" (reads toFormat?) k.format
  minLength : Spelled members "minLength" (reads Json.toCount?) k.minLength
  maxLength : Spelled members "maxLength" (reads Json.toCount?) k.maxLength
  pattern : Spelled members "pattern" (reads Json.toString?) k.pattern

@[mk_iff]
structure ArrayKeywords.SpelledBy (R : Json → σ → Prop) (members : Members Json)
    (k : ArrayKeywords σ) : Prop where
  prefixItems : Spelled members "prefixItems" (each R) k.prefixItems
  additionalItems : Spelled members "additionalItems" (boolOr R) k.additionalItems
  unevaluatedItems : Spelled members "unevaluatedItems" (boolOr R) k.unevaluatedItems
  contains : Spelled members "contains" R k.contains
  minContains : Spelled members "minContains" (reads Json.toCount?) k.minContains
  maxContains : Spelled members "maxContains" (reads Json.toCount?) k.maxContains
  minItems : Spelled members "minItems" (reads Json.toCount?) k.minItems
  maxItems : Spelled members "maxItems" (reads Json.toCount?) k.maxItems
  uniqueItems : Spelled members "uniqueItems" (reads Json.toBool?) k.uniqueItems

def stringLists (document : Json) (lists : Members (List String)) : Prop :=
  named (reads Json.toStrings?) document lists

@[mk_iff]
structure ObjectKeywords.SpelledBy (R : Json → σ → Prop) (members : Members Json)
    (k : ObjectKeywords σ) : Prop where
  additionalProperties : Spelled members "additionalProperties" (boolOr R) k.additionalProperties
  patternProperties : Spelled members "patternProperties" (named R) k.patternProperties
  unevaluatedProperties : Spelled members "unevaluatedProperties" (boolOr R) k.unevaluatedProperties
  minProperties : Spelled members "minProperties" (reads Json.toCount?) k.minProperties
  maxProperties : Spelled members "maxProperties" (reads Json.toCount?) k.maxProperties
  allOf : Spelled members "allOf" (each R) k.allOf
  anyOf : Spelled members "anyOf" (each R) k.anyOf
  oneOf : Spelled members "oneOf" (each R) k.oneOf
  negated : Spelled members "not" R k.negated
  condition : Spelled members "if" R k.condition
  consequent : Spelled members "then" R k.consequent
  alternative : Spelled members "else" R k.alternative
  propertyNames : Spelled members "propertyNames" R k.propertyNames
  dependentRequired : Spelled members "dependentRequired" stringLists k.dependentRequired
  dependentSchemas : Spelled members "dependentSchemas" (named R) k.dependentSchemas

/--
The names that a document lists, each where it is listed first.
-/
def toRequired? (document : Json) : Option (List String) :=
  document.toStrings?.map List.eraseDups

theorem eraseDups_concat (names : List String) (name : String)
    : (names ++ [name]).eraseDups =
      if name ∈ names then names.eraseDups else names.eraseDups ++ [name] := by
  rw [List.eraseDups_append]
  split <;> simp_all [List.removeAll, List.eraseDups_cons]

theorem nodup_eraseDups (names : List String) : names.eraseDups.Nodup := by
  induction names using List.reverseRecOn with
  | nil => simp
  | append_singleton names last ih =>
    rw [eraseDups_concat]
    split
    . exact ih
    next h => simpa using ih.concat (List.mem_eraseDups.not.mpr h)

theorem eraseDups_of_nodup {names : List String} (h : names.Nodup) : names.eraseDups = names := by
  induction names with
  | nil => rfl
  | cons name rest ih =>
    obtain ⟨hname, hrest⟩ := List.nodup_cons.mp h
    rw [List.eraseDups_cons, List.filter_eq_self.mpr, ih hrest]
    intro other hother
    simp
    rintro rfl
    exact hname hother

theorem nodup_of_toRequired? {document : Json} {names : List String}
    (h : toRequired? document = some names)
    : names.Nodup := by
  obtain ⟨listed, -, rfl⟩ := Option.map_eq_some_iff.mp h
  exact nodup_eraseDups listed

/--
The body as it is spelled under the type name of `kind`.
-/
def Body.SpelledAs (R : Json → σ → Prop) (members : Members Json) : Kind → Body σ → Prop
  | .null, .null => True
  | .boolean, .boolean => True
  | .integer, .integer k => k.SpelledBy members
  | .number, .number k => k.SpelledBy members
  | .string, .string k => k.SpelledBy members
  | .array, .array items k => Spelled members "items" (boolOr R) items ∧ k.SpelledBy R members
  | .object, .object properties required k =>
    Spelled members "properties" (named R) properties ∧
      Spelled members "required" (reads toRequired?) required ∧ k.SpelledBy R members
  | _, _ => False

/--
The body that the `type` keyword selects. All members of a union are spelled in the one object.
-/
inductive Body.SpelledBy (R : Json → JsonSchema → Prop) (members : Members Json)
    : Body JsonSchema → Prop where
  | untyped (type : present? members "type" = none) : SpelledBy R members .untyped
  | single (kind : Kind) (body : Body JsonSchema)
      (type : present? members "type" = some (.string kind.name))
      (spelled : body.SpelledAs R members kind)
      : SpelledBy R members body
  | union (kinds : List Kind) (list : TwoOrMore JsonSchema)
      (type : present? members "type" = some (.array (kinds.map fun kind => .string kind.name)))
      (distinct : kinds.Nodup)
      (spelled : List.Forall₂
        (fun kind member => member.annotations = {} ∧ member.body.SpelledAs R members kind)
        kinds list.toList)
      : SpelledBy R members (.union list)

/--
The members of an object spell the annotations and the body of a schema.
-/
def SpelledBy (R : Json → JsonSchema → Prop) (members : Members Json) (s : JsonSchema) : Prop :=
  s.annotations.SpelledBy members ∧ s.body.SpelledBy R members

end JsonSchema

end SchemaBridge
