import SchemaBridge.Proofs.JsonSchema.Grammar

/-!
This module contains what a reader of schemas complains about: the keyword `type`, a value that does
not have the shape of its keyword, or a complaint about a document further down, which does not
depend on where that document stands. Main definition: `JsonSchema.Complaint`. Main statements:
`readAt_append`, `complaint_of_ofJson`.
-/

namespace SchemaBridge

/--
An error in a value, as it is reported if the value stands at `path`.
-/
def SchemaError.below (path : Json.Pointer) : SchemaError → SchemaError
  | .malformed inner keyword expected => .malformed (path ++ inner) keyword expected
  | error => error

theorem SchemaError.below_eq_malformed_iff {e : SchemaError} {path steps : Json.Pointer}
    {keyword : String} {expected : Expectation}
    : e.below steps = .malformed path keyword expected ↔
      ∃ inner, e = .malformed inner keyword expected ∧ path = steps ++ inner := by
  cases e with
  | malformed inner keyword' expected' =>
    simp only [below, malformed.injEq, @eq_comm _ path]
    constructor
    . rintro ⟨rfl, rfl, rfl⟩
      exact ⟨inner, ⟨rfl, rfl, rfl⟩, rfl⟩
    . rintro ⟨_, ⟨rfl, rfl, rfl⟩, rfl⟩
      exact ⟨rfl, rfl, rfl⟩
  | _ => simp [below]

namespace JsonSchema

def IsObject (value : Json) : Prop :=
  ∃ members, value = .object members

/--
The documents that stand in a value of some shape, and the steps from the value to them.
-/
inductive Inside : Shape → Json → Json.Pointer → Json → Prop where
  | schema (document : Json) : Inside .schema document [] document
  | orSchema (document : Json) : Inside .boolOrSchema document [] document
  | item {items : List Json} {index : Nat} {document : Json} (item : items[index]? = some document)
      : Inside .schemas (.array items) [toString index] document
  | entry {entries : Members Json} {name : String} {document : Json}
      (entry : (name, document) ∈ entries)
      : Inside .schemaMap (.object entries) [name] document

/--
What a reader can complain about in an object, if `child` reads the documents in it.
-/
inductive Complaint (child : Json.Pointer → Json → Except SchemaError JsonSchema)
    (members : Members Json) : SchemaError → Prop where
  | type {value : Json} (present : present? members "type" = some value) (expected : Expectation)
      : Complaint child members (.malformed [] "type" expected)
  | fewTypes {names : List Json} (present : present? members "type" = some (.array names))
      (few : names.length < 2) : Complaint child members (.smallUnion names.length)
  | own {keyword : String} {shape : Shape} {value : Json} (known : (keyword, shape) ∈ keywordShapes)
      (present : present? members keyword = some value) (unfit : ¬Fits IsObject shape value)
      (expected : Expectation)
      : Complaint child members (.malformed [] keyword expected)
  | inner {keyword : String} {shape : Shape} {value : Json} {steps : Json.Pointer} {document : Json}
      (known : (keyword, shape) ∈ keywordShapes) (present : present? members keyword = some value)
      (inside : Inside shape value steps document) (object : IsObject document) {e : SchemaError}
      (error : child [] document = .error e)
      : Complaint child members (e.below (keyword :: steps))

/--
A reader whose errors move with the place where it reads, and which complains only as `P` allows.
-/
structure Local {α : Type} (P : SchemaError → Prop) (x : Json.Pointer → Except SchemaError α)
    : Prop where
  moves (path inner : Json.Pointer) : x (path ++ inner) = (x inner).mapError (.below path)
  complains {e : SchemaError} (error : x [] = .error e) : P e

namespace Local

variable {α β : Type} {P : SchemaError → Prop} {x : Json.Pointer → Except SchemaError α}

theorem pure (a : α) : Local P fun _ => Pure.pure a := by
  exact ⟨fun _ _ => rfl, nofun⟩

theorem throw {e : SchemaError} (hbelow : ∀ path, e.below path = e) (h : P e)
    : Local P fun _ => (MonadExcept.throw e : Except SchemaError α) := by
  constructor
  . intro path inner
    exact congrArg Except.error (hbelow path).symm
  . rintro _ ⟨⟩
    exact h

theorem malformed {members : Members Json} {keyword : String} {expected : Expectation}
    (h : P (.malformed [] keyword expected))
    : Local P fun path =>
      ((Node.mk path members).malformed keyword expected : Except SchemaError α) := by
  constructor
  . intro path inner
    rfl
  . rintro _ ⟨⟩
    exact h

theorem eq_ok (hx : Local P x) {path : Json.Pointer} {a : α} (h : x path = .ok a)
    : x [] = .ok a := by
  have hmoves := hx.moves path []
  rw [List.append_nil, h] at hmoves
  cases hx : x [] with
  | error e =>
    rw [hx] at hmoves
    cases hmoves
  | ok b =>
    rw [hx] at hmoves
    cases hmoves
    rfl

theorem bind_of_ok (hx : Local P x) {f : α → Json.Pointer → Except SchemaError β}
    (hf : ∀ a, x [] = .ok a → Local P (f a))
    : Local P fun path => x path >>= fun a => f a path := by
  constructor
  . intro path inner
    rw [hx.moves path inner]
    cases h : x inner with
    | error e => rfl
    | ok a => exact (hf a (hx.eq_ok h)).moves path inner
  . intro e error
    cases h : x [] with
    | error e' =>
      rw [h] at error
      obtain rfl := Except.error.inj error
      exact hx.complains h
    | ok a =>
      rw [h] at error
      exact (hf a h).complains error

theorem bind (hx : Local P x) {f : α → Json.Pointer → Except SchemaError β}
    (hf : ∀ a, Local P (f a))
    : Local P fun path => x path >>= fun a => f a path := by
  exact hx.bind_of_ok fun a _ => hf a

theorem map (f : α → β) (hx : Local P x) : Local P fun path => f <$> x path := by
  have hmap (path : Json.Pointer) : f <$> x path = x path >>= fun a => Pure.pure (f a) := by
    cases x path <;> rfl
  simp only [hmap]
  exact hx.bind fun a => pure (f a)

end Local

section Keywords

variable {α : Type} {child : Json.Pointer → Json → Except SchemaError JsonSchema}
  {members : Members Json} {keyword : String}

namespace Node

theorem local_read {read? : Json → Option α} {shape : Shape} (expected : Expectation)
    (known : (keyword, shape) ∈ keywordShapes)
    (h : ∀ value, Fits IsObject shape value → ∃ a, reads read? value a)
    : Local (Complaint child members) fun path =>
      (mk path members).read read? expected keyword := by
  simp only [read, keyword?_eq]
  cases hpresent : present? members keyword with
  | none => exact .pure none
  | some value =>
    cases hvalue : read? value with
    | some a =>
      simp only [hvalue]
      exact .pure (some a)
    | none =>
      simp only [hvalue]
      apply Local.malformed
      apply Complaint.own known hpresent
      intro hfits
      obtain ⟨a, ha⟩ := h value hfits
      rw [reads, hvalue] at ha
      cases ha

theorem local_string (known : (keyword, .string) ∈ keywordShapes)
    : Local (Complaint child members) fun path => (mk path members).string keyword := by
  exact local_read .string known fun value => (fits_string_iff value).mp

theorem local_boolean (known : (keyword, .boolean) ∈ keywordShapes)
    : Local (Complaint child members) fun path => (mk path members).boolean keyword := by
  exact local_read .boolean known fun value => (fits_boolean_iff value).mp

theorem local_number (known : (keyword, .number) ∈ keywordShapes)
    : Local (Complaint child members) fun path => (mk path members).number keyword := by
  exact local_read .number known fun value => (fits_number_iff value).mp

theorem local_count (known : (keyword, .count) ∈ keywordShapes)
    : Local (Complaint child members) fun path => (mk path members).count keyword := by
  exact local_read .count known fun value => (fits_count_iff value).mp

theorem local_values (known : (keyword, .array) ∈ keywordShapes)
    : Local (Complaint child members) fun path => (mk path members).values keyword := by
  exact local_read .array known fun value => (fits_array_iff value).mp

theorem local_strings (known : (keyword, .strings) ∈ keywordShapes)
    : Local (Complaint child members) fun path => (mk path members).strings keyword := by
  apply local_read .strings known
  intro value hfits
  cases hfits with
  | strings strings => exact (strings_iff value).mp strings

theorem local_stringLists (known : (keyword, .stringLists) ∈ keywordShapes)
    : Local (Complaint child members) fun path => (mk path members).stringLists keyword := by
  apply local_read .stringLists known
  intro value hfits
  rw [reads_stringLists?_eq]
  exact (fits_stringLists_iff value).mp hfits

theorem local_annotations
    : Local (Complaint child members) fun path => (mk path members).annotations := by
  unfold annotations
  refine .bind (local_string (by decide)) fun id => ?_
  refine .bind (local_string (by decide)) fun dialect => ?_
  refine .bind (local_string (by decide)) fun comment => ?_
  refine .bind (local_string (by decide)) fun title => ?_
  refine .bind (local_string (by decide)) fun description => ?_
  refine .bind (local_values (by decide)) fun examples => ?_
  refine .bind (local_boolean (by decide)) fun readOnly => ?_
  refine .bind (local_boolean (by decide)) fun writeOnly => ?_
  refine .bind (local_boolean (by decide)) fun deprecated => ?_
  refine .bind (local_values (by decide)) fun enum => ?_
  dsimp only
  exact .pure _

theorem local_numericKeywords
    : Local (Complaint child members) fun path => (mk path members).numericKeywords := by
  unfold numericKeywords
  refine .bind (local_number (by decide)) fun minimum => ?_
  refine .bind (local_number (by decide)) fun maximum => ?_
  refine .bind (local_boolean (by decide)) fun exclusiveMinimum => ?_
  refine .bind (local_boolean (by decide)) fun exclusiveMaximum => ?_
  refine .bind (local_number (by decide)) fun multipleOf => ?_
  exact .pure _

theorem local_format
    : Local (Complaint child members) fun path => (mk path members).format := by
  simp only [format_eq_map_string]
  exact (local_string (by decide)).map _

theorem local_stringKeywords
    : Local (Complaint child members) fun path => (mk path members).stringKeywords := by
  unfold stringKeywords
  refine .bind local_format fun format => ?_
  refine .bind (local_count (by decide)) fun minLength => ?_
  refine .bind (local_count (by decide)) fun maxLength => ?_
  refine .bind (local_string (by decide)) fun pattern => ?_
  exact .pure _

/-!
For what follows the errors of `child` move with the place of the document that it reads.
-/

section Subschemas

variable (hchild : ∀ (path inner : Json.Pointer) (value : Json),
    child (path ++ inner) value = (child inner value).mapError (.below path))
include hchild

theorem local_subschema {shape : Shape} {value : Json} (known : (keyword, shape) ∈ keywordShapes)
    (present : present? members keyword = some value) {steps : List String} {document : Json}
    (inside : Inside shape value steps document)
    (unfit : ¬IsObject document → ¬Fits IsObject shape value) (expected : Expectation)
    : Local (Complaint child members) fun path =>
      (mk path members).subschema child keyword expected (keyword :: steps) document := by
  unfold subschema
  cases document with
  | object entries =>
    constructor
    . intro path inner
      simp only [List.append_assoc]
      exact hchild path (inner ++ keyword :: steps) (.object entries)
    . intro e error
      have hmoved := hchild (keyword :: steps) [] (.object entries)
      rw [List.append_nil] at hmoved
      obtain ⟨inner, hinner, rfl⟩ := Success.mapError_eq_error_iff.mp (hmoved.symm.trans error)
      exact .inner known present inside ⟨entries, rfl⟩ hinner
  | _ => exact .malformed (.own known present (unfit nofun) expected)

theorem local_schema (known : (keyword, .schema) ∈ keywordShapes)
    : Local (Complaint child members) fun path => (mk path members).schema child keyword := by
  simp only [schema, keyword?_eq]
  cases hpresent : present? members keyword with
  | none => exact .pure none
  | some value =>
    apply Local.map
    apply local_subschema hchild known hpresent (.schema value)
    intro hobject hfits
    cases hfits with
    | schema schema => exact hobject schema

theorem local_boolOrSchema (known : (keyword, .boolOrSchema) ∈ keywordShapes)
    : Local (Complaint child members) fun path => (mk path members).boolOrSchema child keyword := by
  simp only [boolOrSchema, keyword?_eq]
  cases hpresent : present? members keyword with
  | none => exact .pure none
  | some value =>
    by_cases hbool : ∃ b, value = .bool b
    . obtain ⟨b, rfl⟩ := hbool
      exact .pure (some (BoolOr.bool b))
    . have hschema := local_subschema hchild known hpresent (.orSchema value) ?_ .boolOrSchema
      . have hmap := hschema.map (some <| BoolOr.schema ·)
        cases value with
        | bool b => exact (hbool ⟨b, rfl⟩).elim
        | _ => exact hmap
      . intro hobject hfits
        cases hfits with
        | bool b => exact hbool ⟨b, rfl⟩
        | orSchema schema => exact hobject schema

theorem local_schemasFrom (known : (keyword, .schemas) ∈ keywordShapes) {items : List Json}
    (present : present? members keyword = some (.array items)) {index : Nat} {rest : List Json}
    (hrest : items.drop index = rest)
    : Local (Complaint child members) fun path =>
      (mk path members).schemasFrom child keyword index rest := by
  induction rest generalizing index with
  | nil => exact .pure []
  | cons document rest ih =>
    have hitem : items[index]? = some document := by
      rw [← List.head?_drop, hrest]
      rfl
    have hrest' : items.drop (index + 1) = rest := by
      rw [← List.tail_drop, hrest]
      rfl
    unfold schemasFrom
    refine .bind (local_subschema hchild known present (.item hitem) ?_ .schemas) fun s => ?_
    . intro hobject hfits
      cases hfits with
      | schemas _ schemas => exact hobject (schemas document (List.mem_of_getElem? hitem))
    . exact .bind (ih hrest') fun list => .pure (s :: list)

theorem local_schemas (known : (keyword, .schemas) ∈ keywordShapes)
    : Local (Complaint child members) fun path => (mk path members).schemas child keyword := by
  simp only [schemas, keyword?_eq]
  cases hpresent : present? members keyword with
  | none => exact .pure none
  | some value =>
    cases value with
    | array items => exact (local_schemasFrom hchild known hpresent rfl).map some
    | _ => exact .malformed (.own known hpresent nofun .schemas)

theorem local_namedSchemas (known : (keyword, .schemaMap) ∈ keywordShapes) {entries : Members Json}
    (present : present? members keyword = some (.object entries)) {rest : Members Json}
    (hrest : rest ⊆ entries)
    : Local (Complaint child members) fun path =>
      (mk path members).namedSchemas child keyword rest := by
  induction rest with
  | nil => exact .pure []
  | cons entry rest ih =>
    obtain ⟨hentry, hrest⟩ := List.cons_subset.mp hrest
    unfold namedSchemas
    refine .bind (local_subschema hchild known present (.entry hentry) ?_ .schemaMap) fun s => ?_
    . intro hobject hfits
      cases hfits with
      | schemaMap _ schemas => exact hobject (schemas entry hentry)
    . exact .bind (ih hrest) fun list => .pure ((entry.1, s) :: list)

theorem local_schemaMap (known : (keyword, .schemaMap) ∈ keywordShapes)
    : Local (Complaint child members) fun path => (mk path members).schemaMap child keyword := by
  simp only [schemaMap, keyword?_eq]
  cases hpresent : present? members keyword with
  | none => exact .pure none
  | some value =>
    cases value with
    | object entries =>
      exact (local_namedSchemas hchild known hpresent (List.Subset.refl _)).map some
    | _ => exact .malformed (.own known hpresent nofun .schemaMap)

theorem local_arrayKeywords
    : Local (Complaint child members) fun path => (mk path members).arrayKeywords child := by
  unfold arrayKeywords
  refine .bind (local_schemas hchild (by decide)) fun prefixItems => ?_
  refine .bind (local_boolOrSchema hchild (by decide)) fun additionalItems => ?_
  refine .bind (local_boolOrSchema hchild (by decide)) fun unevaluatedItems => ?_
  refine .bind (local_schema hchild (by decide)) fun contains => ?_
  refine .bind (local_count (by decide)) fun minContains => ?_
  refine .bind (local_count (by decide)) fun maxContains => ?_
  refine .bind (local_count (by decide)) fun minItems => ?_
  refine .bind (local_count (by decide)) fun maxItems => ?_
  refine .bind (local_boolean (by decide)) fun uniqueItems => ?_
  exact .pure _

theorem local_objectKeywords
    : Local (Complaint child members) fun path => (mk path members).objectKeywords child := by
  unfold objectKeywords
  refine .bind (local_boolOrSchema hchild (by decide)) fun additionalProperties => ?_
  refine .bind (local_schemaMap hchild (by decide)) fun patternProperties => ?_
  refine .bind (local_boolOrSchema hchild (by decide)) fun unevaluatedProperties => ?_
  refine .bind (local_count (by decide)) fun minProperties => ?_
  refine .bind (local_count (by decide)) fun maxProperties => ?_
  refine .bind (local_schemas hchild (by decide)) fun allOf => ?_
  refine .bind (local_schemas hchild (by decide)) fun anyOf => ?_
  refine .bind (local_schemas hchild (by decide)) fun oneOf => ?_
  refine .bind (local_schema hchild (by decide)) fun negated => ?_
  refine .bind (local_schema hchild (by decide)) fun condition => ?_
  refine .bind (local_schema hchild (by decide)) fun consequent => ?_
  refine .bind (local_schema hchild (by decide)) fun alternative => ?_
  refine .bind (local_schema hchild (by decide)) fun propertyNames => ?_
  refine .bind (local_stringLists (by decide)) fun dependentRequired => ?_
  refine .bind (local_schemaMap hchild (by decide)) fun dependentSchemas => ?_
  exact .pure _

theorem local_bodyOfKind (kind : Kind)
    : Local (Complaint child members) fun path => (mk path members).bodyOfKind child kind := by
  cases kind with
  | null => exact .pure Body.null
  | boolean => exact .pure Body.boolean
  | integer => exact local_numericKeywords.map Body.integer
  | number => exact local_numericKeywords.map Body.number
  | string => exact local_stringKeywords.map Body.string
  | array =>
    refine .bind (local_boolOrSchema hchild (by decide)) fun items => ?_
    exact .bind (local_arrayKeywords hchild) fun k => .pure (Body.array items k)
  | object =>
    refine .bind (local_strings (by decide)) fun required => ?_
    refine .bind (local_schemaMap hchild (by decide)) fun properties => ?_
    exact .bind (local_objectKeywords hchild) fun k => .pure _

theorem local_unionMembers (kinds : List Kind)
    : Local (Complaint child members) fun path => (mk path members).unionMembers child kinds := by
  induction kinds with
  | nil => exact .pure []
  | cons kind rest ih =>
    unfold unionMembers
    refine .bind (local_bodyOfKind hchild kind) fun body => ?_
    exact .bind ih fun list => .pure (JsonSchema.mk {} body :: list)

omit hchild in
theorem length_of_unionMembers {n : Node} {kinds : List Kind} {list : List JsonSchema}
    (h : n.unionMembers child kinds = .ok list)
    : list.length = kinds.length := by
  induction kinds generalizing list with
  | nil =>
    cases h
    rfl
  | cons kind rest ih =>
    simp only [unionMembers, Success.bind_eq_ok_iff, Success.pure_eq_ok_iff] at h
    obtain ⟨body, -, list, hlist, rfl⟩ := h
    rw [List.length_cons, List.length_cons, ih hlist]

omit hchild in
theorem local_kindsFrom {value : Json} (present : present? members "type" = some value)
    (kinds : List Kind) (names : List Json)
    : Local (Complaint child members) fun path => (mk path members).kindsFrom kinds names := by
  induction names generalizing kinds with
  | nil => exact .pure kinds
  | cons item rest ih =>
    cases item with
    | string name =>
      simp only [kindsFrom]
      cases Kind.ofName? name with
      | none => exact .malformed (.type present .knownType)
      | some kind =>
        dsimp only
        split
        . exact .malformed (.type present .uniqueTypeNames)
        . exact ih _
    | _ => exact .malformed (.type present .typeNames)

theorem local_body
    : Local (Complaint child members) fun path => (mk path members).body child := by
  simp only [body, keyword?_eq]
  cases htype : present? members "type" with
  | none => exact .pure Body.untyped
  | some value =>
    cases value with
    | string name =>
      dsimp only
      cases Kind.ofName? name with
      | none => exact .malformed (.type htype .knownType)
      | some kind => exact local_bodyOfKind hchild kind
    | array names =>
      refine .bind_of_ok (local_kindsFrom htype [] names) fun kinds hkinds => ?_
      refine .bind_of_ok (local_unionMembers hchild kinds) fun list hlist => ?_
      cases htwo : TwoOrMore.ofList? list with
      | some list => exact .pure (Body.union list)
      | none =>
        obtain ⟨_, rfl, rfl, -⟩ := (kindsFrom_eq_ok_iff List.nodup_nil).mp hkinds
        have hlength : list.length = (kinds.map fun kind => Json.string kind.name).length := by
          rw [List.length_map, length_of_unionMembers hlist]
        have hfew := TwoOrMore.ofList?_eq_none_iff.mp htwo
        rw [hlength] at hfew ⊢
        exact .throw (fun _ => rfl) (.fewTypes htype hfew)
    | _ => exact .malformed (.type htype .typeNames)

theorem local_toSchema
    : Local (Complaint child members) fun path => (mk path members).toSchema child := by
  unfold toSchema
  refine .bind local_annotations fun annotations => ?_
  exact .bind (local_body hchild) fun body => .pure (JsonSchema.mk annotations body)

end Subschemas

end Node

end Keywords

theorem read_append (depth : Nat) (path inner : Json.Pointer) (value : Json)
    : (read depth (path ++ inner) value : Except SchemaError JsonSchema) =
      (read depth inner value : Except SchemaError JsonSchema).mapError (.below path) := by
  induction depth generalizing path inner value with
  | zero => rfl
  | succ depth ih =>
    cases value with
    | object members => exact (Node.local_toSchema ih).moves path inner
    | _ => rfl

/--
An error in a document is the error that the document has on its own, further down.
-/
theorem readAt_append (path inner : Json.Pointer) (value : Json)
    : (readAt (path ++ inner) value : Except SchemaError JsonSchema) =
      (readAt inner value : Except SchemaError JsonSchema).mapError (.below path) := by
  exact read_append value.depth path inner value

theorem complaint_of_ofJson {members : Members Json} {e : SchemaError}
    (h : ofJson (.object members) = .error e)
    : Complaint readAt members e := by
  have hread : ofJson (.object members) = (Node.mk [] members).toSchema readAt :=
    readAt_object [] members
  rw [hread] at h
  exact (Node.local_toSchema readAt_append).complains h

end JsonSchema

end SchemaBridge
