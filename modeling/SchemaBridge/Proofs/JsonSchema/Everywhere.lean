import SchemaBridge.JsonSchema.Construct
import SchemaBridge.Proofs.Everywhere
import SchemaBridge.Proofs.JsonSchema.Mapping

/-!
This module contains the properties that hold of every schema in a tree, and what a tree needs to be
one that constructors or a reader can build: no name stands twice in a map of names or in a list of
required names. Main definitions: `JsonSchema.Everywhere`, `JsonSchema.WellFormed`.
-/

namespace SchemaBridge

namespace JsonSchema

/--
`P` holds of a schema and of all schemas below it, where `children` are the ones directly below.
-/
abbrev Everywhere (children : Body JsonSchema → List JsonSchema) (P : JsonSchema → Prop)
    (s : JsonSchema)
    : Prop :=
  SchemaBridge.Everywhere (fun s => children s.body) P s

theorem everywhere_of_forall {P : JsonSchema → Prop} (h : ∀ s, P s) (s : JsonSchema)
    : Everywhere Body.subschemas P s := by
  induction s using JsonSchema.induction with
  | step _ _ ih => exact .intro (h _) ih

namespace Body

variable {σ : Type}

/--
The subschemas that describe the values in a value: items, properties and union members.
-/
def parts : Body σ → List σ
  | .array items _ => slotSubschemas items
  | .object properties _ _ => namedSubschemas properties
  | .union members => members.toList
  | _ => []

theorem item_mem_parts (item : σ) (k : ArrayKeywords σ)
    : item ∈ (Body.array (some (.schema item)) k).parts := by
  exact List.mem_singleton.mpr rfl

theorem property_mem_parts {properties : List (String × σ)} {property : String × σ}
    (h : property ∈ properties) (required : Option (List String)) (k : ObjectKeywords σ)
    : property.2 ∈ (Body.object (some properties) required k).parts := by
  exact List.mem_map_of_mem h

theorem parts_subset_subschemas (body : Body σ) : body.parts ⊆ body.subschemas := by
  cases body with
  | array items k => exact List.subset_append_left _ _
  | object properties required k => exact List.subset_append_left _ _
  | _ => exact fun _ h => h

theorem parts_map {τ : Type} (f : σ → τ) (body : Body σ)
    : (body.map f).parts = body.parts.map f := by
  cases body with
  | array items k => exact slotSubschemas_map f items
  | object properties required k => exact namedSubschemas_map f properties
  | _ => rfl

end Body

theorem everywhere_parts {P : JsonSchema → Prop} {s : JsonSchema}
    (h : Everywhere Body.subschemas P s)
    : Everywhere Body.parts P s := by
  exact h.of_subset fun s => s.body.parts_subset_subschemas

theorem everywhere_iff_fold {children : {σ : Type} → Body σ → List σ}
    {P : {σ : Type} → Body σ → Prop} [∀ σ (body : Body σ), Decidable (P body)]
    (hsubset : ∀ {σ} (body : Body σ), children body ⊆ body.subschemas)
    (hchildren : ∀ {σ τ} (f : σ → τ) (body : Body σ), children (body.map f) = (children body).map f)
    (hmap : ∀ {σ τ} (f : σ → τ) (body : Body σ), P (body.map f) ↔ P body) (s : JsonSchema)
    : fold (fun _ body => decide (P body) && (children body).all id) s = true ↔
      Everywhere children (fun s => P s.body) s := by
  induction s using JsonSchema.induction with
  | step annotations body ih =>
    rw [fold_eq, hchildren, List.all_map, Bool.and_eq_true, decide_eq_true_iff, hmap,
      List.all_eq_true, Everywhere, Everywhere.iff_self_and_children]
    apply and_congr_right
    intro _
    apply forall₂_congr
    exact fun c hc => ih c (hsubset body hc)

def DistinctKeys {α : Type} (members : Option (List (String × α))) : Prop :=
  ∀ entries ∈ members, (Members.names entries).Nodup

instance {α : Type} (members : Option (List (String × α))) : Decidable (DistinctKeys members) :=
  inferInstanceAs (Decidable (∀ entries ∈ members, (Members.names entries).Nodup))

theorem distinctKeys_none {α : Type} : DistinctKeys (none : Option (List (String × α))) := by
  intro entries h
  cases h

theorem distinctKeys_map {σ τ : Type} (f : σ → τ) (members : Option (List (String × σ)))
    : DistinctKeys (members.map (Members.mapValues f)) ↔ DistinctKeys members := by
  cases members <;> simp [DistinctKeys]

namespace Body

variable {σ τ : Type}

/--
No map of names in a body repeats a name.
-/
def NamesDistinct : Body σ → Prop
  | .object properties _ k =>
    DistinctKeys properties ∧ DistinctKeys k.patternProperties ∧
      DistinctKeys k.dependentRequired ∧ DistinctKeys k.dependentSchemas
  | _ => True

def RequiredDistinct : Body σ → Prop
  | .object _ required _ => ∀ names ∈ required, names.Nodup
  | _ => True

instance (body : Body σ) : Decidable body.NamesDistinct :=
  match body with
  | .object properties _ k =>
    inferInstanceAs (Decidable (DistinctKeys properties ∧ DistinctKeys k.patternProperties ∧
      DistinctKeys k.dependentRequired ∧ DistinctKeys k.dependentSchemas))
  | .untyped | .null | .boolean | .integer _ | .number _ | .string _ | .array _ _ | .union _ =>
    .isTrue trivial

instance (body : Body σ) : Decidable body.RequiredDistinct :=
  match body with
  | .object _ required _ => inferInstanceAs (Decidable (∀ names ∈ required, names.Nodup))
  | .untyped | .null | .boolean | .integer _ | .number _ | .string _ | .array _ _ | .union _ =>
    .isTrue trivial

theorem namesDistinct_map (f : σ → τ) (body : Body σ)
    : (body.map f).NamesDistinct ↔ body.NamesDistinct := by
  cases body with
  | object properties required k =>
    simp only [map, NamesDistinct, ObjectKeywords.map, distinctKeys_map]
  | _ => rfl

theorem requiredDistinct_map (f : σ → τ) (body : Body σ)
    : (body.map f).RequiredDistinct ↔ body.RequiredDistinct := by
  cases body <;> rfl

end Body

def NamesDistinct (s : JsonSchema) : Prop :=
  Everywhere Body.subschemas (fun s => s.body.NamesDistinct) s

def RequiredDistinct (s : JsonSchema) : Prop :=
  Everywhere Body.subschemas (fun s => s.body.RequiredDistinct) s

instance (s : JsonSchema) : Decidable s.NamesDistinct :=
  decidable_of_iff _ (everywhere_iff_fold (fun _ => List.Subset.refl _) Body.subschemas_map
    Body.namesDistinct_map s)

instance (s : JsonSchema) : Decidable s.RequiredDistinct :=
  decidable_of_iff _ (everywhere_iff_fold (fun _ => List.Subset.refl _) Body.subschemas_map
    Body.requiredDistinct_map s)

/--
No name stands twice in a map of names or in a list of required names. All trees are of this kind
that are read from a document or from Arrow, or put together by the constructors.
-/
structure WellFormed (s : JsonSchema) : Prop where
  names : s.NamesDistinct
  required : s.RequiredDistinct

theorem WellFormed.child {s c : JsonSchema} (h : s.WellFormed) (hc : c ∈ s.body.subschemas)
    : c.WellFormed := by
  exact ⟨h.names.child hc, h.required.child hc⟩

end JsonSchema

end SchemaBridge
