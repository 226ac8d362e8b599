import SchemaBridge.Columnar.OfJsonSchema
import SchemaBridge.JsonSchema.Flatten
import SchemaBridge.JsonSchema.Parser
import SchemaBridge.Proofs.JsonSchema.Everywhere

/-!
This module contains the proof that notices are only told: a computation that keeps them has the
outcome that it has when they are dropped. Main definition: `Recorded.Yields`. Main statements:
`yields_ofJsonM`, `yields_flattenM`, `yields_toColumnarM`.
-/

namespace SchemaBridge

namespace Recorded

variable {ε : Type} {α β : Type}

/--
Whatever notices there are already, `x` has the outcome `y`.
-/
def Yields (x : Recorded ε α) (y : Except ε α) : Prop :=
  ∀ notices : Array Notice, (StateT.run (ExceptT.run x) notices).1 = y

namespace Yields

theorem run_eq {x : Recorded ε α} {y : Except ε α} (h : Yields x y) : x.run.1 = y := by
  exact h #[]

theorem pure (a : α) : Yields (ε := ε) (Pure.pure a) (Pure.pure a) := by
  intro notices
  rfl

theorem throw (e : ε)
    : Yields (MonadExcept.throw e : Recorded ε α) (MonadExcept.throw e : Except ε α) := by
  intro notices
  rfl

theorem notice (n : Notice) : Yields (ε := ε) (SchemaBridge.notice n) (SchemaBridge.notice n) := by
  intro notices
  rfl

theorem bind {x : Recorded ε α} {y : Except ε α} {f : α → Recorded ε β} {g : α → Except ε β}
    (hx : Yields x y) (hf : ∀ a, Yields (f a) (g a))
    : Yields (x >>= f) (y >>= g) := by
  intro notices
  have hrun := hx notices
  rw [ExceptT.run_bind, StateT.run_bind]
  cases h : StateT.run (ExceptT.run x) notices with
  | mk outcome notices' =>
    rw [h] at hrun
    subst hrun
    cases outcome with
    | error e => rfl
    | ok a => exact hf a notices'

theorem map {x : Recorded ε α} {y : Except ε α} (f : α → β) (hx : Yields x y)
    : Yields (f <$> x) (f <$> y) := by
  rw [map_eq_pure_bind, map_eq_pure_bind]
  exact hx.bind fun a => pure (f a)

theorem adapt {ε' : Type} {x : Recorded ε α} {y : Except ε α} (f : ε → ε') (hx : Yields x y)
    : Yields (ExceptT.adapt f x : Recorded ε' α) (y.mapError f) := by
  intro notices
  have hrun := hx notices
  subst hrun
  rfl

end Yields

end Recorded

namespace JsonSchema

abbrev Yields {α : Type} (x : Recorded SchemaError α) (y : Except SchemaError α) : Prop :=
  Recorded.Yields x y

namespace Node

variable (n : Node) (keyword : String)

theorem yields_malformed {α : Type} (expected : Expectation)
    : Yields (n.malformed keyword expected : Recorded SchemaError α)
        (n.malformed keyword expected) := by
  exact .throw _

theorem yields_read {α : Type} (read? : Json → Option α) (expected : Expectation)
    : Yields (n.read read? expected keyword) (n.read read? expected keyword) := by
  unfold read
  cases n.keyword? keyword with
  | none => exact .pure _
  | some value =>
    dsimp only
    cases read? value with
    | none => apply yields_malformed
    | some result => exact .pure _

theorem yields_annotations : Yields n.annotations n.annotations := by
  unfold annotations
  iterate 10 refine .bind (n.yields_read _ _ _) fun _ => ?_
  exact .pure _

theorem yields_numericKeywords : Yields n.numericKeywords n.numericKeywords := by
  unfold numericKeywords
  iterate 5 refine .bind (n.yields_read _ _ _) fun _ => ?_
  exact .pure _

theorem yields_format : Yields n.format n.format := by
  unfold format
  refine .bind (n.yields_read _ _ _) fun name => ?_
  cases name with
  | none => exact .pure _
  | some name =>
    dsimp only
    split
    . exact .bind (.notice _) fun _ => .pure _
    . exact .pure _

theorem yields_stringKeywords : Yields n.stringKeywords n.stringKeywords := by
  unfold stringKeywords
  refine .bind n.yields_format fun format => ?_
  iterate 3 refine .bind (n.yields_read _ _ _) fun _ => ?_
  exact .pure _

theorem yields_kindsFrom (kinds : List Kind) (names : List Json)
    : Yields (n.kindsFrom kinds names) (n.kindsFrom kinds names) := by
  induction names generalizing kinds with
  | nil => exact .pure kinds
  | cons value rest ih =>
    cases value with
    | string name =>
      simp only [kindsFrom]
      cases Kind.ofName? name with
      | none => apply yields_malformed
      | some kind =>
        dsimp only
        split
        . apply yields_malformed
        . apply ih
    | _ => apply yields_malformed

section Subschemas

variable {child : Json.Pointer → Json → Recorded SchemaError JsonSchema}
  {child' : Json.Pointer → Json → Except SchemaError JsonSchema}
  (hchild : ∀ path value, Yields (child path value) (child' path value))
include hchild

theorem yields_subschema (expected : Expectation) (steps : List String) (value : Json)
    : Yields (n.subschema child keyword expected steps value)
        (n.subschema child' keyword expected steps value) := by
  cases value with
  | object members => apply hchild
  | _ => apply yields_malformed

theorem yields_schema : Yields (n.schema child keyword) (n.schema child' keyword) := by
  unfold schema
  cases n.keyword? keyword with
  | none => exact .pure _
  | some value => exact (n.yields_subschema keyword hchild _ _ _).map _

theorem yields_boolOrSchema
    : Yields (n.boolOrSchema child keyword) (n.boolOrSchema child' keyword) := by
  unfold boolOrSchema
  split
  . exact .pure _
  . exact .pure _
  . exact (n.yields_subschema keyword hchild _ _ _).map _

theorem yields_schemasFrom (index : Nat) (items : List Json)
    : Yields (n.schemasFrom child keyword index items)
        (n.schemasFrom child' keyword index items) := by
  induction items generalizing index with
  | nil => exact .pure []
  | cons value rest ih =>
    refine .bind (n.yields_subschema keyword hchild _ _ _) fun schema => ?_
    exact .bind (ih _) fun schemas => .pure (schema :: schemas)

theorem yields_schemas : Yields (n.schemas child keyword) (n.schemas child' keyword) := by
  unfold schemas
  split
  . exact .pure _
  . exact (n.yields_schemasFrom keyword hchild _ _).map _
  . apply yields_malformed

theorem yields_namedSchemas (members : List (String × Json))
    : Yields (n.namedSchemas child keyword members) (n.namedSchemas child' keyword members) := by
  induction members with
  | nil => exact .pure []
  | cons entry rest ih =>
    refine .bind (n.yields_subschema keyword hchild _ _ _) fun schema => ?_
    exact .bind ih fun schemas => .pure ((entry.1, schema) :: schemas)

theorem yields_schemaMap : Yields (n.schemaMap child keyword) (n.schemaMap child' keyword) := by
  unfold schemaMap
  split
  . exact .pure _
  . exact (n.yields_namedSchemas keyword hchild _).map _
  . apply yields_malformed

theorem yields_arrayKeywords : Yields (n.arrayKeywords child) (n.arrayKeywords child') := by
  unfold arrayKeywords
  refine .bind (n.yields_schemas _ hchild) fun prefixItems => ?_
  iterate 2 refine .bind (n.yields_boolOrSchema _ hchild) fun _ => ?_
  refine .bind (n.yields_schema _ hchild) fun contains => ?_
  iterate 5 refine .bind (n.yields_read _ _ _) fun _ => ?_
  exact .pure _

theorem yields_objectKeywords : Yields (n.objectKeywords child) (n.objectKeywords child') := by
  unfold objectKeywords
  refine .bind (n.yields_boolOrSchema _ hchild) fun additionalProperties => ?_
  refine .bind (n.yields_schemaMap _ hchild) fun patternProperties => ?_
  refine .bind (n.yields_boolOrSchema _ hchild) fun unevaluatedProperties => ?_
  iterate 2 refine .bind (n.yields_read _ _ _) fun _ => ?_
  iterate 3 refine .bind (n.yields_schemas _ hchild) fun _ => ?_
  iterate 5 refine .bind (n.yields_schema _ hchild) fun _ => ?_
  refine .bind (n.yields_read _ _ _) fun dependentRequired => ?_
  refine .bind (n.yields_schemaMap _ hchild) fun dependentSchemas => ?_
  exact .pure _

theorem yields_bodyOfKind (kind : Kind)
    : Yields (n.bodyOfKind child kind) (n.bodyOfKind child' kind) := by
  cases kind with
  | null => exact .pure _
  | boolean => exact .pure _
  | integer => exact n.yields_numericKeywords.map Body.integer
  | number => exact n.yields_numericKeywords.map Body.number
  | string => exact n.yields_stringKeywords.map Body.string
  | array =>
    refine .bind (n.yields_boolOrSchema _ hchild) fun items => ?_
    exact .bind (n.yields_arrayKeywords hchild) fun k => .pure (Body.array items k)
  | object =>
    refine .bind (n.yields_read _ _ _) fun required => ?_
    refine .bind (n.yields_schemaMap _ hchild) fun properties => ?_
    exact .bind (n.yields_objectKeywords hchild) fun k => .pure _

theorem yields_unionMembers (kinds : List Kind)
    : Yields (n.unionMembers child kinds) (n.unionMembers child' kinds) := by
  induction kinds with
  | nil => exact .pure []
  | cons kind rest ih =>
    refine .bind (n.yields_bodyOfKind hchild kind) fun body => ?_
    exact .bind ih fun list => .pure (JsonSchema.mk {} body :: list)

theorem yields_body : Yields (n.body child) (n.body child') := by
  unfold body
  split
  . exact .pure _
  . split
    . apply yields_malformed
    . apply n.yields_bodyOfKind hchild
  . refine .bind (n.yields_kindsFrom _ _) fun kinds => ?_
    refine .bind (.notice _) fun _ => ?_
    refine .bind (n.yields_unionMembers hchild kinds) fun list => ?_
    cases TwoOrMore.ofList? list with
    | none => exact .throw _
    | some list => exact .pure _
  . apply yields_malformed

theorem yields_toSchema : Yields (n.toSchema child) (n.toSchema child') := by
  refine .bind n.yields_annotations fun annotations => ?_
  exact .bind (n.yields_body hchild) fun body => .pure (JsonSchema.mk annotations body)

end Subschemas

end Node

theorem yields_read (depth : Nat) (path : Json.Pointer) (value : Json)
    : Yields (read depth path value) (read depth path value) := by
  induction depth generalizing path value with
  | zero => exact .throw _
  | succ depth ih =>
    cases value with
    | object members => exact (Node.mk path members).yields_toSchema ih
    | _ => exact .throw _

theorem yields_ofJsonM (document : Json) : Yields (ofJsonM document) (ofJson document) := by
  apply yields_read

section Flattening

variable (separator : String)

theorem yields_addProperty (o : FlatObject) (key : String) (value : JsonSchema)
    : Yields (o.addProperty key value) (o.addProperty key value) := by
  unfold FlatObject.addProperty
  split
  . exact .throw _
  . exact .pure _

theorem yields_addLifted (parent : String) (parentRequired : Bool)
    (childRequired : Option (List String)) (o : FlatObject) (lifted : List (String × JsonSchema))
    : Yields (o.addLifted separator parent parentRequired childRequired lifted)
        (o.addLifted separator parent parentRequired childRequired lifted) := by
  induction lifted generalizing o with
  | nil => exact .pure o
  | cons property rest ih => exact .bind (yields_addProperty _ _ _) fun added => ih added

theorem yields_flattenProperties {levels : Nat} {properties : List (String × JsonSchema)}
    (h : ∀ property ∈ properties, Yields (flattenNested separator levels property.2)
      (flattenNested separator levels property.2))
    (declared : Option (List String)) (o : FlatObject)
    : Yields (flattenProperties separator levels declared o properties)
        (flattenProperties separator levels declared o properties) := by
  induction properties generalizing o with
  | nil => exact .pure o
  | cons property rest ih =>
    obtain ⟨hproperty, hrest⟩ := List.forall_mem_cons.mp h
    refine .bind hproperty fun nested => ?_
    cases nested with
    | none => exact .bind (yields_addProperty _ _ _) fun added => ih hrest added
    | some nested =>
      refine .bind (.notice _) fun _ => ?_
      exact .bind (yields_addLifted separator _ _ _ _ _) fun added => ih hrest added

theorem yields_flattenNested (levels : Nat) (s : JsonSchema)
    : Yields (flattenNested separator levels s) (flattenNested separator levels s) := by
  induction s using JsonSchema.induction generalizing levels with
  | step annotations body ih =>
    cases body with
    | object properties required k =>
      match properties, levels with
      | none, _ => exact .pure _
      | some [], _ => exact .pure _
      | some (_ :: _), 0 => exact .pure _
      | some (property :: rest), levels + 1 =>
        apply Recorded.Yields.map
        apply yields_flattenProperties
        intro other hother
        have hpart := Body.property_mem_parts hother required k
        exact ih _ (Body.parts_subset_subschemas _ hpart) levels
    | _ => exact .pure _

theorem yields_flattenM (s : JsonSchema) (maxDepth : Int)
    : Yields (s.flattenM maxDepth separator) (s.flatten maxDepth separator) := by
  unfold flatten flattenM
  split
  . split
    . refine .bind (.notice _) fun _ => ?_
      refine .bind (yields_flattenProperties separator ?_ _ _) fun flat => .pure _
      exact fun property _ => yields_flattenNested separator _ property.2
    . exact .pure _
  . exact .pure _

end Flattening

section Columns

theorem yields_propertyFields {properties : List (String × JsonSchema)}
    (h : ∀ property ∈ properties, Yields property.2.toDataTypeM property.2.toDataTypeM)
    (required : Option (List String))
    : Yields (propertyFields required properties) (propertyFields required properties) := by
  induction properties with
  | nil => exact .pure []
  | cons property rest ih =>
    obtain ⟨hproperty, hrest⟩ := List.forall_mem_cons.mp h
    simp only [propertyFields]
    refine .bind hproperty fun type => ?_
    exact .bind (ih hrest) fun fields => .pure _

theorem yields_memberFields {members : List JsonSchema}
    (h : ∀ member ∈ members, Yields member.toDataTypeM member.toDataTypeM) (total ordinal : Nat)
    : Yields (memberFields total ordinal members) (memberFields total ordinal members) := by
  induction members generalizing ordinal with
  | nil => exact .pure []
  | cons member rest ih =>
    obtain ⟨hmember, hrest⟩ := List.forall_mem_cons.mp h
    simp only [memberFields]
    split
    . refine .bind (.throw _) fun _ => ?_
      exact .bind hmember fun type => .bind (ih hrest _) fun fields => .pure _
    . exact .bind hmember fun type => .bind (ih hrest _) fun fields => .pure _

theorem yields_toDataTypeM (s : JsonSchema) : Yields s.toDataTypeM s.toDataTypeM := by
  induction s using JsonSchema.induction with
  | step annotations body ih =>
    cases body with
    | untyped => exact .throw _
    | null => exact .pure _
    | boolean => exact .pure _
    | integer k => exact .pure _
    | number k => exact .pure _
    | string k => exact .pure _
    | array items k =>
      match items with
      | none => exact .throw _
      | some (.bool b) => exact .throw _
      | some (.schema item) =>
        have hpart := Body.item_mem_parts item k
        exact .bind (ih _ (Body.parts_subset_subschemas _ hpart)) fun type => .pure _
    | object properties required k =>
      cases properties with
      | none => exact .pure _
      | some properties =>
        apply Recorded.Yields.map
        apply yields_propertyFields
        intro property hproperty
        have hpart := Body.property_mem_parts hproperty required k
        exact ih _ (Body.parts_subset_subschemas _ hpart)
    | union members =>
      obtain ⟨first, second, others⟩ := members
      obtain ⟨hfirst, hmore⟩ := List.forall_mem_cons.mp ih
      obtain ⟨hsecond, hothers⟩ := List.forall_mem_cons.mp hmore
      simp only [toDataTypeM]
      split
      . exact hfirst
      . exact hsecond
      . refine .bind hfirst fun field => ?_
        refine .bind hsecond fun next => ?_
        exact .bind (yields_memberFields hothers _ _) fun rest => .pure _

theorem yields_toColumnarM (s : JsonSchema) : Yields s.toColumnarM s.toColumnar := by
  have hwrapped : Yields (toColumnarM.wrapped s) (toColumnarM.wrapped s) := by
    exact .bind (yields_toDataTypeM s) fun type => .pure _
  unfold toColumnar toColumnarM
  refine .bind (.notice _) fun _ => ?_
  split
  . split
    . exact hwrapped
    . refine .bind (yields_propertyFields ?_ _) fun fields => .pure _
      exact fun property _ => yields_toDataTypeM property.2
  . exact hwrapped

end Columns

end JsonSchema

end SchemaBridge
