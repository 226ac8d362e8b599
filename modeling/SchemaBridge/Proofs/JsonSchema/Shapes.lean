import SchemaBridge.Proofs.JsonSchema.Everywhere
import SchemaBridge.Proofs.JsonSchema.Grammar
import SchemaBridge.Proofs.JsonSchema.Writing

/-!
This module contains the proof that what is written under a keyword always has the shape of the
keyword, also where the members of a union share an object. Main statements: `Body.shaped`,
`fits_of_present?`.
-/

namespace SchemaBridge

namespace JsonSchema

variable {D : Json → Prop}

/--
A keyword of some type with a value of the shape that the keyword has.
-/
def Shaped (D : Json → Prop) (entry : String × Json) : Prop :=
  ∃ shape, (entry.1, shape) ∈ keywordShapes ∧ Fits D shape entry.2

theorem shaped_entry {keyword : String} {shape : Shape} {α : Type} {value : Option α}
    {print : α → Json} (known : (keyword, shape) ∈ keywordShapes)
    (h : ∀ a ∈ value, Fits D shape (print a))
    : ∀ e ∈ entry keyword (value.map print), Shaped D e := by
  cases value with
  | none => exact nofun
  | some a => exact List.forall_mem_singleton.mpr ⟨shape, known, h a rfl⟩

theorem fits_ofCount (count : UInt64) : Fits D .count (.ofCount count) := by
  rw [fits_count_iff]
  exact ⟨count, Json.Number.toCount?_ofCount count⟩

theorem strings_stringsToJson (names : List String) : Strings (stringsToJson names) := by
  exact ⟨names, rfl⟩

theorem Annotations.shaped (a : Annotations)
    : ∀ e ∈ a.entries, e.1 = "default" ∨ e.1 = "const" ∨ Shaped D e := by
  have hshaped {keyword : String} {shape : Shape} {α : Type} {value : Option α} {print : α → Json}
      (known : (keyword, shape) ∈ keywordShapes) (h : ∀ a, Fits D shape (print a))
      : ∀ e ∈ entry keyword (value.map print), e.1 = "default" ∨ e.1 = "const" ∨ Shaped D e :=
    fun e he => .inr (.inr (shaped_entry known (fun a _ => h a) e he))
  have hfree {keyword : String} {value : Option Json}
      (h : keyword = "default" ∨ keyword = "const")
      : ∀ e ∈ entry keyword value, e.1 = "default" ∨ e.1 = "const" ∨ Shaped D e := by
    intro e he
    cases value with
    | none => cases he
    | some value =>
      obtain rfl := List.mem_singleton.mp he
      exact h.imp_right .inl
  simp only [entries, List.append_assoc, List.forall_mem_append]
  exact ⟨hshaped (by decide) .string, hshaped (by decide) .string, hshaped (by decide) .string,
    hshaped (by decide) .string, hshaped (by decide) .string, hfree (.inl rfl),
    hshaped (by decide) .array, hshaped (by decide) .boolean, hshaped (by decide) .boolean,
    hshaped (by decide) .boolean, hshaped (by decide) .array, hfree (.inr rfl)⟩

theorem NumericKeywords.shaped (k : NumericKeywords) : ∀ e ∈ k.entries, Shaped D e := by
  simp only [entries, List.append_assoc, List.forall_mem_append]
  exact ⟨shaped_entry (by decide) fun n _ => .number n,
    shaped_entry (by decide) fun n _ => .number n,
    shaped_entry (by decide) fun b _ => .boolean b,
    shaped_entry (by decide) fun b _ => .boolean b,
    shaped_entry (by decide) fun n _ => .number n⟩

theorem StringKeywords.shaped (k : StringKeywords) : ∀ e ∈ k.entries, Shaped D e := by
  simp only [entries, List.append_assoc, List.forall_mem_append]
  exact ⟨shaped_entry (by decide) fun format _ => .string format.name,
    shaped_entry (by decide) fun n _ => fits_ofCount n,
    shaped_entry (by decide) fun n _ => fits_ofCount n,
    shaped_entry (by decide) fun s _ => .string s⟩

section Subschemas

variable {keyword : String}

theorem shaped_schema {s : Option JsonSchema} (known : (keyword, .schema) ∈ keywordShapes)
    (h : ∀ c ∈ s.toList, D c.toJson)
    : ∀ e ∈ entry keyword (s.map toJson), Shaped D e := by
  apply shaped_entry known
  rintro s ⟨⟩
  exact .schema (h s (List.mem_singleton.mpr rfl))

theorem shaped_boolOr {slot : Option (BoolOr JsonSchema)}
    (known : (keyword, .boolOrSchema) ∈ keywordShapes) (h : ∀ c ∈ slotSubschemas slot, D c.toJson)
    : ∀ e ∈ entry keyword ((slot.map (BoolOr.map toJson)).map BoolOr.toJson), Shaped D e := by
  rw [Option.map_map]
  apply shaped_entry known
  rintro (b | s) ⟨⟩
  . exact .bool b
  . exact .orSchema (h s (List.mem_singleton.mpr rfl))

theorem shaped_each {list : Option (List JsonSchema)} (known : (keyword, .schemas) ∈ keywordShapes)
    (h : ∀ c ∈ list.getD [], D c.toJson)
    : ∀ e ∈ entry keyword ((list.map (List.map toJson)).map .array), Shaped D e := by
  rw [Option.map_map]
  apply shaped_entry known
  rintro list ⟨⟩
  exact .schemas _ (List.forall_mem_map.mpr h)

theorem shaped_named {list : Option (List (String × JsonSchema))}
    (known : (keyword, .schemaMap) ∈ keywordShapes) (h : ∀ c ∈ namedSubschemas list, D c.toJson)
    : ∀ e ∈ entry keyword ((list.map (Members.mapValues toJson)).map .object), Shaped D e := by
  rw [Option.map_map]
  apply shaped_entry known
  rintro list ⟨⟩
  apply Fits.schemaMap
  intro member hmember
  obtain ⟨property, hproperty, rfl⟩ := List.mem_map.mp hmember
  exact h property.2 (List.mem_map_of_mem hproperty)

theorem shaped_arrayEntries {items : Option (BoolOr JsonSchema)} {k : ArrayKeywords JsonSchema}
    (h : ∀ c ∈ slotSubschemas items ++ k.subschemas, D c.toJson)
    : ∀ e ∈ arrayEntries (items.map (BoolOr.map toJson)) (k.map toJson), Shaped D e := by
  simp only [ArrayKeywords.subschemas, List.append_assoc, List.forall_mem_append] at h
  obtain ⟨hitems, hpositional, hadditional, hunevaluated, hcontained⟩ := h
  simp only [arrayEntries, ArrayKeywords.map, List.append_assoc, List.forall_mem_append]
  exact ⟨shaped_boolOr (by decide) hitems, shaped_each (by decide) hpositional,
    shaped_boolOr (by decide) hadditional, shaped_boolOr (by decide) hunevaluated,
    shaped_schema (by decide) hcontained, shaped_entry (by decide) fun n _ => fits_ofCount n,
    shaped_entry (by decide) fun n _ => fits_ofCount n,
    shaped_entry (by decide) fun n _ => fits_ofCount n,
    shaped_entry (by decide) fun n _ => fits_ofCount n,
    shaped_entry (by decide) fun b _ => .boolean b⟩

theorem shaped_objectEntries {properties : Option (List (String × JsonSchema))}
    {required : Option (List String)} {k : ObjectKeywords JsonSchema}
    (h : ∀ c ∈ namedSubschemas properties ++ k.subschemas, D c.toJson)
    : ∀ e ∈ objectEntries (properties.map (Members.mapValues toJson)) required (k.map toJson),
      Shaped D e := by
  simp only [ObjectKeywords.subschemas, List.append_assoc, List.forall_mem_append] at h
  obtain ⟨hproperties, hadditional, hpattern, hunevaluated, hall, hany, hone, hnot, hif, hthen,
    helse, hpropertyName, hdependent⟩ := h
  simp only [objectEntries, ObjectKeywords.map, List.append_assoc, List.forall_mem_append]
  exact ⟨shaped_named (by decide) hproperties, shaped_boolOr (by decide) hadditional,
    shaped_named (by decide) hpattern, shaped_boolOr (by decide) hunevaluated,
    shaped_entry (by decide) fun names _ => .strings (strings_stringsToJson names),
    shaped_entry (by decide) fun n _ => fits_ofCount n,
    shaped_entry (by decide) fun n _ => fits_ofCount n, shaped_each (by decide) hall,
    shaped_each (by decide) hany, shaped_each (by decide) hone, shaped_schema (by decide) hnot,
    shaped_schema (by decide) hif, shaped_schema (by decide) hthen, shaped_schema (by decide) helse,
    shaped_schema (by decide) hpropertyName,
    shaped_entry (by decide) fun lists _ => .stringLists _
      (List.forall_mem_map.mpr fun names _ => strings_stringsToJson names.2),
    shaped_named (by decide) hdependent⟩

theorem Body.shaped {body : Body JsonSchema}
    (h : ∀ c ∈ body.subschemas, D c.toJson ∧ ∀ e ∈ c.body.entries, Shaped D e)
    : ∀ e ∈ body.entries, Shaped D e := by
  cases body with
  | untyped => exact nofun
  | null => exact nofun
  | boolean => exact nofun
  | integer k => exact k.shaped
  | number k => exact k.shaped
  | string k => exact k.shaped
  | array items k =>
    rw [entries_array]
    exact shaped_arrayEntries fun c hc => (h c hc).1
  | object properties required k =>
    rw [entries_object]
    exact shaped_objectEntries fun c hc => (h c hc).1
  | union list =>
    rw [entries_union, List.forall_mem_flatMap]
    exact fun member hmember => (h member hmember).2

end Subschemas

/-!
The whole object.
-/

theorem type_not_mem_keywordShapes (shape : Shape) : ("type", shape) ∉ keywordShapes := by
  cases shape <;> decide

theorem Shaped.fits {keyword : String} {shape : Shape} {value : Json}
    (h : Shaped D (keyword, value)) (known : (keyword, shape) ∈ keywordShapes)
    : Fits D shape value := by
  obtain ⟨shape', known', hfits⟩ := h
  have heq := (shape?_of_known known).symm.trans (shape?_of_known known')
  rw [Option.some.inj heq]
  exact hfits

theorem eq_type_of_mem_typeEntry {body : Body Printed} {keyword : String} {value : Json}
    (h : (keyword, value) ∈ Printed.typeEntry body)
    : keyword = "type" := by
  cases body <;> simp_all [Printed.typeEntry]

theorem fits_of_present? {s : JsonSchema} {members : Members Json}
    (hmembers : s.toJson = .object members) (hentries : ∀ e ∈ s.body.entries, Shaped D e)
    {keyword : String} {shape : Shape} {value : Json} (known : (keyword, shape) ∈ keywordShapes)
    (hpresent : present? members keyword = some value)
    : Fits D shape value := by
  have hmem := mem_of_present? hpresent
  rw [toJson_eq] at hmembers
  obtain rfl := Json.object.inj hmembers
  rcases List.mem_append.mp ((Members.ofList_spec _).2 _ hmem) with hmem | hbody
  . rcases List.mem_append.mp hmem with htype | hannotation
    . obtain rfl := eq_type_of_mem_typeEntry htype
      exact (type_not_mem_keywordShapes shape known).elim
    . rcases s.annotations.shaped _ hannotation with hdefault | hconst | hshaped
      . exact (not_free_of_known known (.inl hdefault)).elim
      . exact (not_free_of_known known (.inr hconst)).elim
      . exact hshaped.fits known
  . exact (hentries _ hbody).fits known

/--
What holds of the documents of schemas, as it holds of an object with the entries of a schema if it
holds of the documents in them.
-/
theorem document_and_entries {P : JsonSchema → Prop}
    (hstep : ∀ s, P s → (∀ e ∈ s.body.entries, Shaped D e) → D s.toJson)
    (h : Everywhere Body.subschemas P s)
    : D s.toJson ∧ ∀ e ∈ s.body.entries, Shaped D e := by
  induction h with
  | intro self _ ih =>
    have hentries := Body.shaped ih
    exact ⟨hstep _ self hentries, hentries⟩

end JsonSchema

end SchemaBridge
