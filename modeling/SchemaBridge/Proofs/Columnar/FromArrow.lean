import Mathlib.Data.List.Forall2
import Mathlib.Data.List.Nodup
import SchemaBridge.Proofs.Columnar.Nullability
import SchemaBridge.Proofs.Members
import SchemaBridge.Proofs.Success

/-!
This module contains what it means that an Arrow type or an Arrow schema is converted to a JSON
Schema tree, and the sorting of union members by their type identifiers.
-/

namespace SchemaBridge

namespace Arrow

section Sorting

variable {α β : Type}

theorem sortById_of_ascending {entries : List (Int8 × α)}
    (h : (entries.map Prod.fst).Pairwise (· < ·))
    : sortById entries = entries := by
  apply List.mergeSort_of_pairwise
  rw [List.pairwise_map] at h
  exact h.imp fun hlt => decide_eq_true (Int8.le_of_lt hlt)

theorem sortById_perm (entries : List (Int8 × α)) : (sortById entries).Perm entries :=
  List.mergeSort_perm entries _

theorem pairwise_sortById (entries : List (Int8 × α))
    : (sortById entries).Pairwise fun entry other => entry.1 ≤ other.1 := by
  have h : (sortById entries).Pairwise fun entry other => decide (entry.1 ≤ other.1) = true := by
    apply List.pairwise_mergeSort
    . intro x y z hxy hyz
      exact decide_eq_true (Int8.le_trans (of_decide_eq_true hxy) (of_decide_eq_true hyz))
    . intro x y
      simpa using Int8.le_total x.1 y.1
  exact h.imp of_decide_eq_true

/--
What leaves the order of the identifiers as it is can be done before or after sorting.
-/
theorem sortById_map {g : Int8 × α → Int8 × β} {entries : List (Int8 × α)}
    (h : ∀ entry ∈ entries, ∀ other ∈ entries, entry.1 ≤ other.1 ↔ (g entry).1 ≤ (g other).1)
    : sortById (entries.map g) = (sortById entries).map g := by
  symm
  apply List.map_mergeSort
  exact fun entry hentry other hother => decide_eq_decide.mpr (h entry hentry other hother)

theorem sortById_map_snd (f : α → β) (entries : List (Int8 × α))
    : sortById (entries.map fun entry => (entry.1, f entry.2)) =
      (sortById entries).map fun entry => (entry.1, f entry.2) := by
  exact sortById_map fun _ _ _ _ => Iff.rfl

/--
Entries with different identifiers are sorted into one order, however they are listed.
-/
theorem sortById_eq_of_perm {entries entries' : List (Int8 × α)} (hperm : entries.Perm entries')
    (hdistinct : (entries.map Prod.fst).Nodup)
    : sortById entries = sortById entries' := by
  have hsorted : (sortById entries).Perm (sortById entries') :=
    (sortById_perm entries).trans (hperm.trans (sortById_perm entries').symm)
  apply hsorted.eq_of_pairwise _ (pairwise_sortById entries) (pairwise_sortById entries')
  intro x y hx hy hxy hyx
  have hmem : x ∈ entries := (sortById_perm entries).mem_iff.mp hx
  have hmem' : y ∈ entries := hperm.mem_iff.mpr ((sortById_perm entries').mem_iff.mp hy)
  exact List.inj_on_of_nodup_map hdistinct hmem hmem' (Int8.le_antisymm hxy hyx)

end Sorting

/--
The property that a field becomes.
-/
def IsColumn (field : Field) (property : String × JsonSchema) : Prop :=
  ∃ base, field.dataType.toJsonSchema = .ok base ∧
    property = (field.name, base.folded field.nullable)

def requiredColumns (fields : List Field) : List String :=
  (fields.filter fun field => !field.nullable).map FieldOf.name

theorem requiredColumns_cons (field : Field) (fields : List Field)
    : requiredColumns (field :: fields) = requiredColumns [field] ++ requiredColumns fields := by
  unfold requiredColumns
  rw [← List.map_append, ← List.filter_append]
  rfl

theorem nodup_requiredColumns {fields : List Field} (h : (fields.map FieldOf.name).Nodup)
    : (requiredColumns fields).Nodup := by
  exact (List.filter_sublist.map FieldOf.name).nodup h

theorem mem_requiredColumns_iff {fields : List Field} (hdistinct : (fields.map FieldOf.name).Nodup)
    {field : Field} (hfield : field ∈ fields)
    : field.name ∈ requiredColumns fields ↔ field.nullable = false := by
  rw [requiredColumns, Members.mem_names_filter_iff hdistinct hfield, Bool.not_eq_true']

theorem Columns.required_add (columns : Columns) (field : Field) (value : JsonSchema)
    : (columns.add field.name value field.nullable).required =
      columns.required ++ requiredColumns [field] := by
  unfold Columns.add requiredColumns
  cases h : field.nullable <;> simp [h]

theorem addColumns_cons (columns : Columns) (field : Field) (rest : List Field)
    : (addColumns columns (field :: rest) : Except SchemaError Columns) =
      if field.name ∈ columns.properties.names then
        .error (.duplicateField field.name)
      else
        field.dataType.toJsonSchema >>= fun base =>
          addColumns (columns.add field.name (base.folded field.nullable) field.nullable) rest := by
  obtain ⟨name, type, nullable, attributes⟩ := field
  simp only [addColumns, Members.mem_names_iff_contains, JsonSchema.foldNullable_eq_ok]
  split <;> rfl

theorem addColumns_cons_eq_ok_iff {columns result : Columns} {field : Field} {rest : List Field}
    : (addColumns columns (field :: rest) : Except SchemaError Columns) = .ok result ↔
      field.name ∉ columns.properties.names ∧ ∃ base, field.dataType.toJsonSchema = .ok base ∧
        (addColumns (columns.add field.name (base.folded field.nullable) field.nullable) rest :
          Except SchemaError Columns) = .ok result := by
  rw [addColumns_cons]
  by_cases hname : field.name ∈ columns.properties.names
  . simp [hname]
  . simp only [hname, if_false, not_false_eq_true, true_and, Success.bind_eq_ok_iff]

theorem addColumns_eq_ok_iff {columns result : Columns} {fields : List Field}
    (hcolumns : columns.properties.names.Nodup)
    : (addColumns columns fields : Except SchemaError Columns) = .ok result ↔
      ∃ properties, List.Forall₂ IsColumn fields properties ∧
        (Members.names (columns.properties ++ properties)).Nodup ∧
        result =
          ⟨columns.properties ++ properties, columns.required ++ requiredColumns fields⟩ := by
  -- The columns so far stay in front, where a name that comes again is found.
  induction fields generalizing columns with
  | nil =>
    rw [addColumns, Success.pure_eq_ok_iff]
    simp [requiredColumns, hcolumns, eq_comm]
  | cons field rest ih =>
    have hadd (value : JsonSchema) (hname : field.name ∉ columns.properties.names)
        : (columns.add field.name value field.nullable).properties.names.Nodup := by
      simpa [Columns.add, Members.names] using List.Nodup.concat hname hcolumns
    rw [addColumns_cons_eq_ok_iff]
    constructor
    . rintro ⟨hname, base, hbase, hrest⟩
      obtain ⟨properties, hproperties, hdistinct, rfl⟩ := (ih (hadd _ hname)).mp hrest
      refine ⟨_ :: properties, .cons ⟨base, hbase, rfl⟩ hproperties, ?_, ?_⟩
      . simpa [Columns.add] using hdistinct
      . rw [Columns.required_add, requiredColumns_cons field rest]
        simp [Columns.add]
    . rintro ⟨_, hproperties, hdistinct, rfl⟩
      cases hproperties with
      | cons hcolumn hproperties =>
        obtain ⟨base, hbase, rfl⟩ := hcolumn
        have hname : field.name ∉ columns.properties.names := by
          intro hname
          rw [Members.names, List.map_append, List.nodup_append] at hdistinct
          exact hdistinct.2.2 _ hname field.name (by simp) rfl
        refine ⟨hname, base, hbase, ?_⟩
        rw [ih (hadd _ hname)]
        refine ⟨_, hproperties, ?_, ?_⟩
        . simpa [Columns.add] using hdistinct
        . rw [Columns.required_add, requiredColumns_cons field rest]
          simp [Columns.add]

theorem memberConversions_eq (members : List (Int8 × Field))
    : (memberConversions members : List (Int8 × Except SchemaError JsonSchema)) =
      members.map fun entry => (entry.1, entry.2.dataType.toJsonSchema) := by
  induction members with
  | nil => rfl
  | cons entry rest ih =>
    rw [memberConversions, ih]
    rfl

section Types

variable {s : JsonSchema}

theorem toJsonSchema_list {item : Field}
    : (DataType.list item).toJsonSchema = .ok s ↔
      ∃ base, item.dataType.toJsonSchema = .ok base ∧ s = JsonSchema.array base := by
  simp only [DataType.toJsonSchema, DataType.toJsonSchemaM, Success.map_eq_ok_iff, @eq_comm _ s]

theorem toJsonSchema_struct {fields : List Field}
    : (DataType.struct fields).toJsonSchema = .ok s ↔
      ∃ properties, List.Forall₂ IsColumn fields properties ∧ (Members.names properties).Nodup ∧
        s = Columns.toJsonSchema ⟨properties, requiredColumns fields⟩ := by
  have hempty : (Columns.properties {}).names.Nodup := List.nodup_nil
  simp only [DataType.toJsonSchema, DataType.toJsonSchemaM, Success.map_eq_ok_iff,
    addColumns_eq_ok_iff hempty, List.nil_append]
  constructor
  . rintro ⟨_, ⟨properties, hproperties, hdistinct, rfl⟩, rfl⟩
    exact ⟨properties, hproperties, hdistinct, rfl⟩
  . rintro ⟨properties, hproperties, hdistinct, rfl⟩
    exact ⟨_, ⟨properties, hproperties, hdistinct, rfl⟩, rfl⟩

theorem toJsonSchema_union_eq (members : List (Int8 × Field))
    : (DataType.union members .dense).toJsonSchema =
      (sortById members).mapM (fun entry => entry.2.dataType.toJsonSchema) >>= fun converted =>
        match JsonSchema.TwoOrMore.ofList? converted with
        | none => .error (.smallUnion converted.length)
        | some list => .ok (.plain (.union list)) := by
  rw [DataType.toJsonSchema, DataType.toJsonSchemaM, memberConversions_eq,
    sortById_map_snd fun field : Field => field.dataType.toJsonSchema, List.mapM_map]
  rfl

theorem toJsonSchema_union {members : List (Int8 × Field)}
    : (DataType.union members .dense).toJsonSchema = .ok s ↔
      ∃ list : JsonSchema.TwoOrMore JsonSchema,
        List.Forall₂ (fun entry member => entry.2.dataType.toJsonSchema = .ok member)
          (sortById members) list.toList ∧
        s = .plain (.union list) := by
  simp only [toJsonSchema_union_eq, Success.bind_eq_ok_iff, Success.mapM_eq_ok_iff]
  constructor
  . rintro ⟨converted, hconverted, h⟩
    cases hlist : JsonSchema.TwoOrMore.ofList? converted with
    | none => simp [hlist] at h
    | some list =>
      simp only [hlist, Except.ok.injEq] at h
      obtain rfl := JsonSchema.TwoOrMore.ofList?_eq_some_iff.mp hlist
      exact ⟨list, hconverted, h.symm⟩
  . rintro ⟨list, hlist, rfl⟩
    exact ⟨list.toList, hlist, by rw [JsonSchema.TwoOrMore.ofList?_toList]⟩

theorem toJsonSchema_union_of_ascending {members sorted : List (Int8 × Field)}
    {list : JsonSchema.TwoOrMore JsonSchema} (hperm : members.Perm sorted)
    (hids : (sorted.map Prod.fst).Pairwise (· < ·))
    (hlist : List.Forall₂ (fun entry member => entry.2.dataType.toJsonSchema = .ok member)
      sorted list.toList)
    : (DataType.union members .dense).toJsonSchema = .ok (.plain (.union list)) := by
  have hdistinct : (members.map Prod.fst).Nodup :=
    (hperm.map Prod.fst).nodup_iff.mpr (hids.imp Int8.ne_of_lt)
  apply toJsonSchema_union.mpr
  rw [sortById_eq_of_perm hperm hdistinct, sortById_of_ascending hids]
  exact ⟨list, hlist, rfl⟩

end Types

theorem toJsonSchema_wrapped_eq {field : Field} (metadata : Members String)
    (h : field.name = rootField)
    : Schema.toJsonSchema ⟨[field], metadata⟩ =
      field.dataType.toJsonSchema >>= fun base => .ok (base.folded field.nullable) := by
  obtain ⟨name, type, nullable, attributes⟩ := field
  have hname : name = rootField := h
  unfold Schema.toJsonSchema Schema.toJsonSchemaM
  simp only [if_pos hname, JsonSchema.foldNullable_eq_ok]
  rfl

theorem toJsonSchema_wrapped {s : JsonSchema} {field : Field} {metadata : Members String}
    (h : field.name = rootField)
    : Schema.toJsonSchema ⟨[field], metadata⟩ = .ok s ↔
      ∃ base, field.dataType.toJsonSchema = .ok base ∧ s = base.folded field.nullable := by
  simp only [toJsonSchema_wrapped_eq metadata h, Success.bind_eq_ok_iff, Except.ok.injEq,
    @eq_comm _ s]

theorem toJsonSchema_columns {fields : List Field} {metadata : Members String}
    (h : ∀ field, fields = [field] → field.name ≠ rootField)
    : Schema.toJsonSchema ⟨fields, metadata⟩ = (DataType.struct fields).toJsonSchema := by
  unfold Schema.toJsonSchema Schema.toJsonSchemaM
  cases fields with
  | nil => rfl
  | cons field rest =>
    cases rest with
    | nil =>
      obtain ⟨name, type, nullable, attributes⟩ := field
      have hname : ¬ name = rootField := h _ rfl
      simp only [if_neg hname]
      rfl
    | cons _ _ => rfl

/--
A schema is read as the type of its only field, or as a struct of its fields.
-/
theorem Schema.wrapped_or_struct (columns : Schema)
    : (∃ field metadata, columns = ⟨[field], metadata⟩ ∧ field.name = rootField) ∨
      columns.toJsonSchema = (DataType.struct columns.fields).toJsonSchema := by
  obtain ⟨fields, metadata⟩ := columns
  by_cases hroot : ∃ field, fields = [field] ∧ field.name = rootField
  . obtain ⟨field, rfl, hname⟩ := hroot
    exact .inl ⟨field, metadata, rfl, hname⟩
  . exact .inr (toJsonSchema_columns fun field hfields hname => hroot ⟨field, hfields, hname⟩)

end Arrow

end SchemaBridge
