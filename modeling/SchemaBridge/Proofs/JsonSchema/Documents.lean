import SchemaBridge.JsonSchema.Subschemas
import SchemaBridge.Proofs.Json.DistinctNames
import SchemaBridge.Proofs.JsonSchema.Everywhere
import SchemaBridge.Proofs.JsonSchema.Reading

/-!
This module contains the proof that each schema below one that is read has a document of its own,
which stands inside the value of some keyword, and how a property of all schemas in a tree follows
from what it is for one of them to be read. Main statement: `everywhere_of_ofJson`.
-/

namespace SchemaBridge

namespace JsonSchema

theorem Spelled.exists_value {α : Type} {members : Members Json} {keyword : String}
    {form : Json → α → Prop} {a : α} (h : Spelled members keyword form (some a))
    : ∃ value ∈ members.map Prod.snd, form value a := by
  obtain ⟨value, hpresent, h⟩ := h.exists_present
  exact ⟨value, List.mem_map_of_mem (mem_of_present? hpresent), h⟩

/--
A value and the values directly in it.
-/
def within : Json → List Json
  | .array items => .array items :: items
  | .object members => .object members :: members.map Prod.snd
  | value => [value]

theorem mem_within_self (value : Json) : value ∈ within value := by
  cases value <;> simp [within]

section Documents

variable {R : Json → JsonSchema → Prop} {members : Members Json} {keyword : String} {c : JsonSchema}

def HasDocument (R : Json → JsonSchema → Prop) (members : Members Json) (c : JsonSchema) : Prop :=
  ∃ value ∈ members.map Prod.snd, ∃ document ∈ within value, R document c

theorem HasDocument.of_schema {s : Option JsonSchema} (h : Spelled members keyword R s)
    (hc : c ∈ s.toList)
    : HasDocument R members c := by
  obtain rfl : s = some c := by simpa using hc
  obtain ⟨value, hvalue, h⟩ := h.exists_value
  exact ⟨value, hvalue, value, mem_within_self value, h⟩

theorem HasDocument.of_boolOr {slot : Option (BoolOr JsonSchema)}
    (h : Spelled members keyword (boolOr R) slot) (hc : c ∈ slotSubschemas slot)
    : HasDocument R members c := by
  rcases slot with _ | _ | s
  . simp [slotSubschemas] at hc
  . simp [slotSubschemas, BoolOr.subschemas] at hc
  . obtain rfl : c = s := by simpa [slotSubschemas, BoolOr.subschemas] using hc
    obtain ⟨value, hvalue, h⟩ := h.exists_value
    exact ⟨value, hvalue, value, mem_within_self value, h⟩

theorem HasDocument.of_each {list : Option (List JsonSchema)}
    (h : Spelled members keyword (each R) list) (hc : c ∈ list.getD [])
    : HasDocument R members c := by
  cases list with
  | none => cases hc
  | some list =>
    obtain ⟨value, hvalue, items, rfl, h⟩ := h.exists_value
    obtain ⟨item, hitem, h⟩ := exists_left_of_forall₂ h hc
    exact ⟨_, hvalue, item, by simp [within, hitem], h⟩

theorem HasDocument.of_named {list : Option (List (String × JsonSchema))}
    (h : Spelled members keyword (named R) list) (hc : c ∈ namedSubschemas list)
    : HasDocument R members c := by
  cases list with
  | none => cases hc
  | some list =>
    obtain ⟨value, hvalue, entries, rfl, h⟩ := h.exists_value
    obtain ⟨member, hmember, rfl⟩ := List.mem_map.mp hc
    obtain ⟨entry, hentry, h⟩ := exists_left_of_forall₂ h hmember
    refine ⟨_, hvalue, entry.2, ?_, h.2⟩
    exact List.mem_cons_of_mem _ (List.mem_map_of_mem hentry)

theorem HasDocument.of_spelledAs {kind : Kind} {body : Body JsonSchema}
    (h : body.SpelledAs R members kind) (hc : c ∈ body.subschemas)
    : HasDocument R members c := by
  cases body with
  | array items k =>
    cases kind <;> try exact h.elim
    obtain ⟨hitems, hk⟩ := h
    simp only [Body.subschemas, ArrayKeywords.subschemas, List.mem_append] at hc
    rcases hc with hc | ((hc | hc) | hc) | hc
    . exact .of_boolOr hitems hc
    . exact .of_each hk.prefixItems hc
    . exact .of_boolOr hk.additionalItems hc
    . exact .of_boolOr hk.unevaluatedItems hc
    . exact .of_schema hk.contains hc
  | object properties required k =>
    cases kind <;> try exact h.elim
    obtain ⟨hproperties, -, hk⟩ := h
    simp only [Body.subschemas, ObjectKeywords.subschemas, List.mem_append] at hc
    rcases hc with
      hc | ((((((((((hc | hc) | hc) | hc) | hc) | hc) | hc) | hc) | hc) | hc) | hc) | hc
    . exact .of_named hproperties hc
    . exact .of_boolOr hk.additionalProperties hc
    . exact .of_named hk.patternProperties hc
    . exact .of_boolOr hk.unevaluatedProperties hc
    . exact .of_each hk.allOf hc
    . exact .of_each hk.anyOf hc
    . exact .of_each hk.oneOf hc
    . exact .of_schema hk.negated hc
    . exact .of_schema hk.condition hc
    . exact .of_schema hk.consequent hc
    . exact .of_schema hk.alternative hc
    . exact .of_schema hk.propertyNames hc
    . exact .of_named hk.dependentSchemas hc
  | union list => cases kind <;> exact h.elim
  | _ => cases hc

end Documents

/--
What the reading of a body establishes holds of all bodies in a tree that is read. `D` is what is
known of the document and of the values in it.
-/
theorem everywhere_of_ofJson {D : Json → Prop} {P : Body JsonSchema → Prop}
    (hD : ∀ members, D (.object members) → ∀ value ∈ members.map Prod.snd,
      ∀ document ∈ within value, D document)
    (huntyped : P .untyped)
    (hkind : ∀ members kind body, D (.object members) →
      body.SpelledAs (fun document s => ofJson document = .ok s) members kind → P body)
    (hunion : ∀ members list, D (.object members) →
      (Body.union list).SpelledBy (fun document s => ofJson document = .ok s) members →
        P (.union list))
    {document : Json} {s : JsonSchema} (hdocument : D document) (h : ofJson document = .ok s)
    : Everywhere Body.subschemas (fun s => P s.body) s := by
  -- A union member has no document, but the schemas below it do.
  suffices ∀ s : JsonSchema,
      (∀ document, D document → ofJson document = .ok s →
        Everywhere Body.subschemas (fun s => P s.body) s) ∧
      ∀ c ∈ s.body.subschemas, ∀ document, D document → ofJson document = .ok c →
        Everywhere Body.subschemas (fun s => P s.body) c by
    exact (this s).1 document hdocument h
  intro s
  induction s using JsonSchema.induction with
  | step annotations body ih =>
    constructor
    . intro document hdocument h
      obtain ⟨members, rfl⟩ := exists_object_of_ofJson h
      have hchild (c : JsonSchema) (hread : ∀ document, D document → ofJson document = .ok c →
          Everywhere Body.subschemas (fun s => P s.body) c)
          (hc : HasDocument (fun document s => ofJson document = .ok s) members c)
          : Everywhere Body.subschemas (fun s => P s.body) c := by
        obtain ⟨value, hvalue, document, hwithin, h⟩ := hc
        exact hread document (hD members hdocument value hvalue document hwithin) h
      obtain ⟨-, hbody⟩ := ofJson_object_eq_ok_iff.mp h
      cases hbody with
      | untyped htype =>
        refine .intro huntyped ?_
        intro c hc
        cases hc
      | single kind body htype hspelled =>
        refine .intro (hkind members kind body hdocument hspelled) ?_
        intro c hc
        exact hchild c (ih c hc).1 (.of_spelledAs hspelled hc)
      | union kinds list htype hdistinct hspelled =>
        apply Everywhere.intro
        . exact hunion members list hdocument (.union kinds list htype hdistinct hspelled)
        . intro c hc
          obtain ⟨kind, hkind', -, hspelled⟩ := exists_left_of_forall₂ hspelled hc
          refine .intro (hkind members kind c.body hdocument hspelled) ?_
          intro d hd
          exact hchild d ((ih c hc).2 d hd) (.of_spelledAs hspelled hd)
    . intro c hc
      exact (ih c hc).1

theorem distinctKeys_of_spelled {α : Type} {R : Json → α → Prop} {members : Members Json}
    {keyword : String} {list : Option (List (String × α))}
    (h : Spelled members keyword (named R) list)
    (hmembers : (Json.object members).distinctNames = true)
    : DistinctKeys list := by
  rintro list rfl
  obtain ⟨value, hvalue, entries, rfl, hentries⟩ := h.exists_value
  obtain ⟨member, hmember, hobject⟩ := List.mem_map.mp hvalue
  have hdistinct := (Json.distinctNames_object_iff.mp hmembers).2 member hmember
  rw [hobject, Json.distinctNames_object_iff] at hdistinct
  -- The map has the names of the object that spells it.
  have hnames : Members.names entries = Members.names list :=
    map_eq_map_of_forall₂ hentries fun _ _ _ h => h.1
  rw [← hnames]
  exact hdistinct.1

theorem distinctNames_of_within {value document : Json} (h : value.distinctNames = true)
    (hdocument : document ∈ within value)
    : document.distinctNames = true := by
  cases value with
  | array items =>
    rcases List.mem_cons.mp hdocument with rfl | hitem
    . exact h
    . exact Json.distinctNames_array_iff.mp h document hitem
  | object members =>
    rcases List.mem_cons.mp hdocument with rfl | hvalue
    . exact h
    . obtain ⟨member, hmember, rfl⟩ := List.mem_map.mp hvalue
      exact (Json.distinctNames_object_iff.mp h).2 member hmember
  | _ =>
    obtain rfl := List.mem_singleton.mp hdocument
    exact h

theorem namesDistinct_of_ofJson {document : Json} {s : JsonSchema}
    (hdocument : document.distinctNames = true) (h : ofJson document = .ok s)
    : s.NamesDistinct := by
  refine everywhere_of_ofJson (D := fun document => document.distinctNames = true)
    (P := Body.NamesDistinct) ?_ ?_ ?_ ?_ hdocument h
  . intro members hmembers value hvalue document hwithin
    obtain ⟨member, hmember, rfl⟩ := List.mem_map.mp hvalue
    exact distinctNames_of_within ((Json.distinctNames_object_iff.mp hmembers).2 member hmember)
      hwithin
  . trivial
  . intro members kind body hmembers h
    cases body with
    | object properties required k =>
      cases kind <;> try exact h.elim
      obtain ⟨hproperties, -, hk⟩ := h
      exact ⟨distinctKeys_of_spelled hproperties hmembers,
        distinctKeys_of_spelled hk.patternProperties hmembers,
        distinctKeys_of_spelled hk.dependentRequired hmembers,
        distinctKeys_of_spelled hk.dependentSchemas hmembers⟩
    | _ => trivial
  . intros
    trivial

theorem requiredDistinct_of_ofJson {document : Json} {s : JsonSchema}
    (h : ofJson document = .ok s)
    : s.RequiredDistinct := by
  refine everywhere_of_ofJson (D := fun _ => True) (P := Body.RequiredDistinct)
    ?_ ?_ ?_ ?_ trivial h
  . intros
    trivial
  . trivial
  . intro _ kind body _ h
    cases body with
    | object properties required k =>
      cases kind <;> try exact h.elim
      intro names hnames
      have hrequired := h.2.1
      rw [hnames] at hrequired
      obtain ⟨value, -, hvalue⟩ := hrequired.exists_value
      exact nodup_of_toRequired? hvalue
    | _ => trivial
  . intros
    trivial

end JsonSchema

end SchemaBridge
