import SchemaBridge.Proofs.Columnar.FromArrow

/-!
This module contains the Arrow schemas that no description tells apart: widths and encodings, names
and nullability of items and union members, and what fields say beside their types are dropped, and
only the order of type identifiers counts in a union. Main definitions: `Arrow.DataType.Variant`,
`Arrow.Schema.Variant`. Main statement: `Arrow.toJsonSchema_eq_ok_iff_of_variant`.
-/

namespace SchemaBridge

namespace Arrow

/--
Types that differ only in what their description leaves out. Each rule makes one such difference, at
some depth; any number of them can follow each other.
-/
inductive DataType.Variant : DataType → DataType → Prop where
  | refl (type : DataType) : Variant type type
  | symm {type type' : DataType} (variant : Variant type type') : Variant type' type
  | trans {type type' type'' : DataType} (variant : Variant type type')
      (variant' : Variant type' type'') : Variant type type''
  | integer (width width' : IntegerType) : Variant (.integer width) (.integer width')
  | float (width width' : FloatType) : Variant (.float width) (.float width')
  | text (encoding encoding' : TextType) : Variant (.text encoding) (.text encoding')
  | largeList (item : Field) : Variant (.list item) (.largeList item)
  | item {item item' : Field} (type : Variant item.dataType item'.dataType)
      : Variant (.list item) (.list item')
  | column (before after : List Field) {field field' : Field} (name : field'.name = field.name)
      (nullable : field'.nullable = field.nullable) (type : Variant field.dataType field'.dataType)
      : Variant (.struct (before ++ field :: after)) (.struct (before ++ field' :: after))
  | member (before after : List (Int8 × Field)) (id : Int8) {field field' : Field}
      (type : Variant field.dataType field'.dataType)
      : Variant (.union (before ++ (id, field) :: after) .dense)
        (.union (before ++ (id, field') :: after) .dense)
  | renumber (members : List (Int8 × Field)) (number : Int8 → Int8)
      (ascending : ∀ entry ∈ members, ∀ other ∈ members,
        entry.1 < other.1 → number entry.1 < number other.1)
      : Variant (.union members .dense)
        (.union (members.map fun entry => (number entry.1, entry.2)) .dense)
  | reorder {members members' : List (Int8 × Field)} (perm : members.Perm members')
      (distinct : (members.map Prod.fst).Nodup)
      : Variant (.union members .dense) (.union members' .dense)

/--
Schemas whose fields have the same names and nullability, and types that are variants.
-/
def Schema.Variant (columns columns' : Schema) : Prop :=
  List.Forall₂ (fun field field' : Field => field'.name = field.name ∧
    field'.nullable = field.nullable ∧ field.dataType.Variant field'.dataType)
    columns.fields columns'.fields

/--
The schema that a type describes, if there is one.
-/
def DataType.schema? (type : DataType) : Option JsonSchema :=
  type.toJsonSchema.toOption

theorem schema?_eq_some_iff {type : DataType} {s : JsonSchema}
    : type.schema? = some s ↔ type.toJsonSchema = .ok s := by
  unfold DataType.schema?
  cases type.toJsonSchema <;> simp [Except.toOption]

/--
What the description of a struct takes from a column: its name, its nullability, and the schema that
its type describes.
-/
def columnView (field : Field) : String × Bool × Option JsonSchema :=
  (field.name, field.nullable, field.dataType.schema?)

/--
The property that a column becomes, if its type describes a schema.
-/
def viewedProperty (view : String × Bool × Option JsonSchema) : Option (String × JsonSchema) :=
  view.2.2.map fun base => (view.1, base.folded view.2.1)

theorem forall₂_isColumn_iff {fields : List Field} {properties : List (String × JsonSchema)}
    : List.Forall₂ IsColumn fields properties ↔
      (fields.map columnView).map viewedProperty = properties.map some := by
  have hcolumn : IsColumn =
      fun field property => viewedProperty (columnView field) = some property := by
    funext field property
    simp only [IsColumn, viewedProperty, columnView, Option.map_eq_some_iff, schema?_eq_some_iff,
      @eq_comm _ property]
  rw [hcolumn, List.map_map, ← forall₂_eq_iff]
  rfl

theorem requiredColumns_eq (fields : List Field)
    : requiredColumns fields =
      ((fields.map columnView).filter fun view => !view.2.1).map Prod.fst := by
  rw [List.filter_map, List.map_map]
  rfl

/-!
What a type describes depends on what the types in it describe: on the views of the columns of a
struct, and on the members of a dense union in the order of their type identifiers.
-/

section Congruence

theorem schema?_list_congr {item item' : Field}
    (h : item.dataType.schema? = item'.dataType.schema?)
    : (DataType.list item).schema? = (DataType.list item').schema? := by
  ext s
  simp only [schema?_eq_some_iff, toJsonSchema_list]
  simp only [← schema?_eq_some_iff, h]

theorem schema?_struct_congr {fields fields' : List Field}
    (h : fields.map columnView = fields'.map columnView)
    : (DataType.struct fields).schema? = (DataType.struct fields').schema? := by
  ext s
  simp only [schema?_eq_some_iff, toJsonSchema_struct, forall₂_isColumn_iff, requiredColumns_eq, h]

theorem schema?_union_congr {members members' : List (Int8 × Field)}
    (h : (sortById members).map (fun entry => entry.2.dataType.schema?) =
      (sortById members').map fun entry => entry.2.dataType.schema?)
    : (DataType.union members .dense).schema? = (DataType.union members' .dense).schema? := by
  ext s
  simp only [schema?_eq_some_iff, toJsonSchema_union]
  simp only [← schema?_eq_some_iff, forall₂_eq_iff, h]

theorem schema?_member_congr (before after : List (Int8 × Field)) (id : Int8) {field field' : Field}
    (h : field.dataType.schema? = field'.dataType.schema?)
    : (DataType.union (before ++ (id, field) :: after) .dense).schema? =
      (DataType.union (before ++ (id, field') :: after) .dense).schema? := by
  -- Sorting the members is the same as sorting what they describe.
  have hsort (members : List (Int8 × Field))
      : (sortById members).map (fun entry => entry.2.dataType.schema?) =
        (sortById (members.map fun entry => (entry.1, entry.2.dataType.schema?))).map
          Prod.snd := by
    rw [sortById_map_snd fun field : Field => field.dataType.schema?, List.map_map]
    rfl
  apply schema?_union_congr
  rw [hsort, hsort]
  simp only [List.map_append, List.map_cons, h]

theorem schema?_renumber {members : List (Int8 × Field)} {number : Int8 → Int8}
    (h : ∀ entry ∈ members, ∀ other ∈ members,
      entry.1 < other.1 → number entry.1 < number other.1)
    : (DataType.union members .dense).schema? =
      (DataType.union (members.map fun entry => (number entry.1, entry.2)) .dense).schema? := by
  have hiff : ∀ entry ∈ members, ∀ other ∈ members,
      entry.1 ≤ other.1 ↔ number entry.1 ≤ number other.1 := by
    intro entry hentry other hother
    have hlt := h entry hentry other hother
    have hgt := h other hother entry hentry
    grind
  have hsort : sortById (members.map fun entry => (number entry.1, entry.2)) =
      (sortById members).map fun entry => (number entry.1, entry.2) := sortById_map hiff
  apply schema?_union_congr
  rw [hsort, List.map_map]
  rfl

end Congruence

theorem schema?_eq_of_variant {type type' : DataType} (h : type.Variant type')
    : type.schema? = type'.schema? := by
  induction h with
  | refl type => rfl
  | symm _ ih => exact ih.symm
  | trans _ _ ih ih' => exact ih.trans ih'
  | integer width width' => rfl
  | float width width' => rfl
  | text encoding encoding' => rfl
  | largeList item => rfl
  | item _ ih => exact schema?_list_congr ih
  | column before after name nullable _ ih =>
    apply schema?_struct_congr
    simp only [List.map_append, List.map_cons, columnView, ih, name, nullable]
  | member before after id _ ih => exact schema?_member_congr before after id ih
  | renumber members number ascending => exact schema?_renumber ascending
  | reorder perm distinct =>
    apply schema?_union_congr
    rw [sortById_eq_of_perm perm distinct]

section Schemas

variable {columns columns' : Schema}

theorem toJsonSchema_wrapped_iff_of_variant {field field' : Field}
    {metadata metadata' : Members String} (hname : field.name = rootField)
    (hname' : field'.name = rootField) (nullable : field'.nullable = field.nullable)
    (type : field.dataType.Variant field'.dataType) (t : JsonSchema)
    : Schema.toJsonSchema ⟨[field], metadata⟩ = .ok t ↔
      Schema.toJsonSchema ⟨[field'], metadata'⟩ = .ok t := by
  rw [toJsonSchema_wrapped hname, toJsonSchema_wrapped hname', nullable]
  simp only [← schema?_eq_some_iff, schema?_eq_of_variant type]

theorem map_columnView_of_variant (h : columns.Variant columns')
    : columns.fields.map columnView = columns'.fields.map columnView := by
  apply map_eq_map_of_forall₂ h
  rintro field - field' ⟨name, nullable, type⟩
  rw [columnView, columnView, name, nullable, schema?_eq_of_variant type]

/--
An Arrow schema describes the same JSON Schema tree as all its variants.
-/
theorem toJsonSchema_eq_ok_iff_of_variant (h : columns.Variant columns') (t : JsonSchema)
    : columns.toJsonSchema = .ok t ↔ columns'.toJsonSchema = .ok t := by
  rcases columns.wrapped_or_struct with ⟨field, metadata, rfl, hname⟩ | hstruct
  . obtain ⟨field', fields, ⟨name, nullable, type⟩, hrest, hfields⟩ :=
      List.forall₂_cons_left_iff.mp h
    obtain rfl := List.forall₂_nil_left_iff.mp hrest
    obtain ⟨_, metadata'⟩ := columns'
    obtain rfl : _ = [field'] := hfields
    exact toJsonSchema_wrapped_iff_of_variant hname (name.trans hname) nullable type t
  . rcases columns'.wrapped_or_struct with ⟨field', metadata', rfl, hname'⟩ | hstruct'
    . obtain ⟨field, fields, ⟨name, nullable, type⟩, hrest, hfields⟩ :=
        List.forall₂_cons_right_iff.mp h
      obtain rfl := List.forall₂_nil_right_iff.mp hrest
      obtain ⟨_, metadata⟩ := columns
      obtain rfl : _ = [field] := hfields
      exact toJsonSchema_wrapped_iff_of_variant (name.symm.trans hname') hname' nullable type t
    . rw [hstruct, hstruct', ← schema?_eq_some_iff, ← schema?_eq_some_iff,
        schema?_struct_congr (map_columnView_of_variant h)]

end Schemas

/-!
Notes are moved to an archive, where numbers get less space and texts get more. The two members of
each note are listed the other way round there.
-/

def noteText : Field := ⟨"text", .text .utf8, false, {}⟩

def noteNumber : Field := ⟨"number", .integer .int64, false, {}⟩

def archivedText : Field := ⟨"body", .text .largeUtf8, true, {}⟩

def archivedNumber : Field := ⟨"count", .integer .int16, true, { dictId := 3 }⟩

def noteColumns : Schema where
  fields := [
    ⟨"id", .integer .int32, false, {}⟩,
    ⟨"notes", .list ⟨itemField, .union [(0, noteText), (1, noteNumber)] .dense, false, {}⟩, true,
      {}⟩]

def archivedColumns : Schema where
  fields := [
    ⟨"id", .integer .uint8, false, { metadata := [("origin", "notes")] }⟩,
    ⟨"notes", .largeList ⟨"note", .union [(5, archivedNumber), (-2, archivedText)] .dense, true,
      {}⟩, true, {}⟩]
  metadata := [("archived", "yes")]

theorem variant_archivedNote
    : (DataType.union [(0, noteText), (1, noteNumber)] .dense).Variant
        (.union [(5, archivedNumber), (-2, archivedText)] .dense) := by
  have hnumbers : (DataType.union [(0, noteText), (1, noteNumber)] .dense).Variant
      (.union [(-2, noteText), (5, noteNumber)] .dense) :=
    .renumber _ (fun id => if id = 0 then -2 else 5) (by decide)
  have horder : (DataType.union [(-2, noteText), (5, noteNumber)] .dense).Variant
      (.union [(5, noteNumber), (-2, noteText)] .dense) :=
    .reorder (.swap _ _ _) (by decide)
  have hnumber : (DataType.union [(5, noteNumber), (-2, noteText)] .dense).Variant
      (.union [(5, archivedNumber), (-2, noteText)] .dense) :=
    .member [] [(-2, noteText)] 5 (.integer .int64 .int16)
  have htext : (DataType.union [(5, archivedNumber), (-2, noteText)] .dense).Variant
      (.union [(5, archivedNumber), (-2, archivedText)] .dense) :=
    .member [(5, archivedNumber)] [] (-2) (.text .utf8 .largeUtf8)
  exact hnumbers.trans (horder.trans (hnumber.trans htext))

theorem variant_archivedColumns : noteColumns.Variant archivedColumns := by
  have hitem : (DataType.list ⟨itemField, _, false, {}⟩).Variant (.list ⟨"note", _, true, {}⟩) :=
    .item variant_archivedNote
  refine .cons ⟨rfl, rfl, .integer .int32 .uint8⟩ (.cons ⟨rfl, rfl, ?_⟩ .nil)
  exact hitem.trans (.largeList _)

def noteDescription : JsonSchema :=
  .plain (.object
    (some [
      ("id", .integer),
      ("notes", .plain (.union {
        first := .array (.plain (.union ⟨.string, .integer, []⟩))
        second := .null
        others := [] }))])
    (some ["id"]) {})

theorem toJsonSchema_eq_ok_iff_of_variant_notes
    : noteColumns.Variant archivedColumns ∧ noteColumns.toJsonSchema = .ok noteDescription ∧
      archivedColumns.toJsonSchema = .ok noteDescription := by
  have hunion : (DataType.union [(0, noteText), (1, noteNumber)] .dense).toJsonSchema =
      .ok (.plain (.union ⟨.string, .integer, []⟩)) :=
    toJsonSchema_union_of_ascending (.refl _) (by decide) (.cons rfl (.cons rfl .nil))
  have hnotes : IsColumn ⟨"notes", .list ⟨itemField, _, false, {}⟩, true, {}⟩ _ :=
    ⟨_, toJsonSchema_list.mpr ⟨_, hunion, rfl⟩, rfl⟩
  have h : noteColumns.toJsonSchema = .ok noteDescription :=
    toJsonSchema_struct.mpr ⟨_, .cons ⟨_, rfl, rfl⟩ (.cons hnotes .nil), by decide, rfl⟩
  exact ⟨variant_archivedColumns, h,
    (toJsonSchema_eq_ok_iff_of_variant variant_archivedColumns noteDescription).mp h⟩

end Arrow

end SchemaBridge
