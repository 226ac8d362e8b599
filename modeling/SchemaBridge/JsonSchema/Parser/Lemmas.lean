import SchemaBridge.JsonSchema.Parser

/-!
This module contains the equations of the reader of schemas without its bound on the nesting depth.
Main statement: `readAt_object`.
-/

namespace SchemaBridge

namespace JsonSchema

variable {m : Type → Type} [MonadExceptOf SchemaError m]

namespace Node

/--
How deeply the members of a node are nested.
-/
def depth (n : Node) : Nat :=
  Json.depthOfMembers n.members

theorem depth_le_of_keyword? {n : Node} {keyword : String} {value : Json}
    (h : n.keyword? keyword = some value)
    : value.depth ≤ n.depth := by
  have h := (Option.filter_eq_some_iff.mp h).1
  exact Json.depth_le_of_mem_members (Members.mem_of_get? h)

/-!
A reader asks `child` only for subschemas that are not nested more deeply than the node.
-/

variable {child child' : Json.Pointer → Json → m JsonSchema} {n : Node}

theorem subschema_congr {value : Json} (h : ∀ path, child path value = child' path value)
    (keyword : String) (expected : Expectation) (steps : List String)
    : n.subschema child keyword expected steps value =
      n.subschema child' keyword expected steps value := by
  unfold subschema
  split
  . exact h _
  . rfl

variable [Monad m]

theorem schemasFrom_congr {items : List Json}
    (h : ∀ item ∈ items, ∀ path, child path item = child' path item)
    (keyword : String) (index : Nat)
    : n.schemasFrom child keyword index items = n.schemasFrom child' keyword index items := by
  induction items generalizing index with
  | nil => rfl
  | cons item rest ih =>
    simp only [schemasFrom]
    rw [subschema_congr (h item (by simp)), ih fun item hitem => h item (by simp [hitem])]

theorem namedSchemas_congr {members : Members Json}
    (h : ∀ name value, (name, value) ∈ members → ∀ path, child path value = child' path value)
    (keyword : String)
    : n.namedSchemas child keyword members = n.namedSchemas child' keyword members := by
  induction members with
  | nil => rfl
  | cons entry rest ih =>
    simp only [namedSchemas]
    rw [subschema_congr (h entry.1 entry.2 (by simp)),
      ih fun name value hentry => h name value (by simp [hentry])]

variable (h : ∀ value, value.depth ≤ n.depth → ∀ path, child path value = child' path value)
include h

theorem schema_congr (keyword : String) : n.schema child keyword = n.schema child' keyword := by
  unfold schema
  split
  . rfl
  next hvalue => rw [subschema_congr (h _ (depth_le_of_keyword? hvalue))]

theorem boolOrSchema_congr (keyword : String)
    : n.boolOrSchema child keyword = n.boolOrSchema child' keyword := by
  unfold boolOrSchema
  split
  . rfl
  . rfl
  next hvalue => rw [subschema_congr (h _ (depth_le_of_keyword? hvalue))]

theorem schemas_congr (keyword : String) : n.schemas child keyword = n.schemas child' keyword := by
  unfold schemas
  split
  . rfl
  next items hvalue =>
    rw [schemasFrom_congr]
    intro item hitem
    have hdepth := depth_le_of_keyword? hvalue
    have := Json.depth_le_of_mem_items hitem
    simp only [Json.depth] at hdepth
    exact h item (by omega)
  . rfl

theorem schemaMap_congr (keyword : String)
    : n.schemaMap child keyword = n.schemaMap child' keyword := by
  unfold schemaMap
  split
  . rfl
  next members hvalue =>
    rw [namedSchemas_congr]
    intro name value hentry
    have hdepth := depth_le_of_keyword? hvalue
    have := Json.depth_le_of_mem_members hentry
    simp only [Json.depth] at hdepth
    exact h value (by omega)
  . rfl

variable [MonadNotice m]

theorem bodyOfKind_congr (kind : Kind) : n.bodyOfKind child kind = n.bodyOfKind child' kind := by
  cases kind <;>
    simp only [bodyOfKind, arrayKeywords, objectKeywords, boolOrSchema_congr h, schemas_congr h,
      schema_congr h, schemaMap_congr h]

theorem unionMembers_congr (kinds : List Kind)
    : n.unionMembers child kinds = n.unionMembers child' kinds := by
  induction kinds with
  | nil => rfl
  | cons kind rest ih => simp only [unionMembers, bodyOfKind_congr h, ih]

theorem toSchema_congr : n.toSchema child = n.toSchema child' := by
  have hkind := bodyOfKind_congr h
  have hkinds := unionMembers_congr h
  unfold toSchema body
  simp only [hkind, hkinds]

end Node

variable [Monad m] [MonadNotice m]

/--
Any two bounds on the nesting depth of a value are equally good.
-/
theorem read_congr {depth depth' : Nat} {value : Json} (h : value.depth ≤ depth)
    (h' : value.depth ≤ depth') (path : Json.Pointer)
    : (read depth path value : m JsonSchema) = read depth' path value := by
  induction depth generalizing depth' value path with
  | zero => cases value <;> simp_all [Json.depth, read]
  | succ depth ih =>
    cases value with
    | object members =>
      simp only [Json.depth] at h h'
      cases depth' with
      | zero => omega
      | succ depth' =>
        simp only [read]
        apply Node.toSchema_congr
        intro value hvalue path
        simp only [Node.depth] at hvalue
        exact ih (by omega) (by omega) path
    | _ => simp [read]

/--
A schema object is read member by member, and its subschemas in the same way.
-/
theorem readAt_object (path : Json.Pointer) (members : Members Json)
    : (readAt path (.object members) : m JsonSchema) = (Node.mk path members).toSchema readAt := by
  simp only [readAt, Json.depth, read]
  exact Node.toSchema_congr fun value hvalue path => read_congr hvalue (Nat.le_refl _) path

theorem readAt_eq_throw (path : Json.Pointer) {value : Json} (h : value.toObject? = none)
    : (readAt path value : m JsonSchema) = throw (.malformed path "(schema)" .object) := by
  cases value <;> simp_all [readAt, Json.depth, read, Json.toObject?]

end JsonSchema

end SchemaBridge
