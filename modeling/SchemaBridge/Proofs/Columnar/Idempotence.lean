import SchemaBridge.Proofs.Columnar.Settled

/-!
This module contains what holds of all schemas in one that came back from its columns, and the proof
that going through columns once more changes nothing. Main statements: `everywhere_columnForm`,
`roundTrip_idempotent`.
-/

namespace SchemaBridge

namespace JsonSchema

variable {s : JsonSchema}

theorem exists_union_withNull (s : JsonSchema) : ∃ members, s.withNull.body = .union members := by
  obtain ⟨annotations, body⟩ := s
  cases body <;> exact ⟨_, rfl⟩

theorem mem_subschemas_withNull {c : JsonSchema} (hc : c ∈ s.withNull.body.subschemas)
    : c = s ∨ c ∈ s.body.subschemas ∨ c = null := by
  rcases eq_union_or_ne_union s with ⟨annotations, members, rfl⟩ | hunion
  . rw [withNull, Body.subschemas, TwoOrMore.toList_push, List.mem_append,
      List.mem_singleton] at hc
    exact .inr hc
  . rw [withNull_of_not_union hunion] at hc
    rcases List.mem_cons.mp hc with rfl | hc
    . exact .inl rfl
    . exact .inr (.inr (List.mem_singleton.mp hc))

theorem everywhere_folded {P : JsonSchema → Prop} (h : Everywhere Body.subschemas P s)
    (hnull : P null) (hfold : s.isNullable = false → P s.withNull) (nullable : Bool)
    : Everywhere Body.subschemas P (s.folded nullable) := by
  cases nullable with
  | false => exact h
  | true =>
    cases hnullable : s.isNullable with
    | true =>
      rw [folded_of_isNullable hnullable]
      exact h
    | false =>
      rw [folded_true_of_not_isNullable hnullable]
      refine .intro (hfold hnullable) ?_
      intro c hc
      rcases mem_subschemas_withNull hc with rfl | hc | rfl
      . exact h
      . exact h.child hc
      . refine .intro hnull ?_
        intro c hc
        cases hc

theorem mem_subschemas_columnForm (hside : s.side? = none) {c : JsonSchema}
    (hc : c ∈ s.columnForm.body.subschemas)
    : ∃ part ∈ s.body.parts, ∃ nullable, c = part.columnForm.folded nullable := by
  obtain ⟨annotations, body⟩ := s
  cases body with
  | array items k =>
    rcases items with _ | _ | item
    . cases hc
    . cases hc
    . rw [columnForm] at hc
      obtain rfl := List.mem_singleton.mp hc
      exact ⟨item, Body.item_mem_parts item k, false, rfl⟩
  | object properties required k =>
    cases properties with
    | none => cases hc
    | some properties =>
      rw [columnForm_object, toJsonSchema_columns, plain, Body.subschemas, namedSubschemas_present,
        List.mem_append, List.map_map] at hc
      rcases hc with hc | hc
      . obtain ⟨property, hproperty, rfl⟩ := List.mem_map.mp hc
        have hpart := Body.property_mem_parts hproperty required k
        exact ⟨property.2, hpart, optional required property, rfl⟩
      . cases hc
  | union members =>
    rw [columnForm_union hside, plain, Body.subschemas, TwoOrMore.toList_map] at hc
    obtain ⟨member, hmember, rfl⟩ := List.mem_map.mp hc
    exact ⟨member, hmember, false, rfl⟩
  | _ => cases hc

/--
What the parts of a schema establish of its form holds of all schemas in the form. The form itself
may have to satisfy more, `R`, than remains when nullability is added to it.
-/
theorem everywhere_columnForm {Q R P : JsonSchema → Prop}
    (hform : ∀ s : JsonSchema, Q s → s.side? = none → R s.columnForm)
    (hweak : ∀ s : JsonSchema, R s.columnForm → P s.columnForm)
    (hfold : ∀ s : JsonSchema, R s.columnForm → s.columnForm.isNullable = false →
      P s.columnForm.withNull)
    (hnull : P null) (h : Everywhere Body.parts Q s)
    : R s.columnForm ∧
      ∀ nullable, Everywhere Body.subschemas P (s.columnForm.folded nullable) := by
  induction h with
  | @intro s self _ ih =>
    have hall (hroot : R s.columnForm)
        (hbelow : ∀ c ∈ s.columnForm.body.subschemas, Everywhere Body.subschemas P c)
        (nullable : Bool) : Everywhere Body.subschemas P (s.columnForm.folded nullable) := by
      exact everywhere_folded (.intro (hweak s hroot) hbelow) hnull (hfold s hroot) nullable
    cases hside : s.side? with
    | none =>
      have hroot := hform s self hside
      apply And.intro hroot
      apply hall hroot
      intro c hc
      obtain ⟨part, hpart, nullable, rfl⟩ := mem_subschemas_columnForm hside hc
      exact (ih part hpart).2 nullable
    | some side =>
      obtain ⟨annotations, members, rfl, hside⟩ := exists_union_of_side? hside
      rw [columnForm_union_of_side hside]
      exact ih _ (members.get_mem side)

theorem eq_of_present {α : Type} {list list' : List α} (h : present list = some list')
    : list' = list := by
  unfold present at h
  cases list with
  | nil => cases h
  | cons _ _ => exact (Option.some.inj h).symm

theorem nodup_mandatory {properties : List (String × JsonSchema)}
    (hnames : (Members.names properties).Nodup) (required : Option (List String))
    : (mandatory required properties).Nodup := by
  exact (List.filter_sublist.map Prod.fst).nodup hnames

theorem distinct_form (h : s.body.NamesDistinct) (hside : s.side? = none)
    : s.columnForm.body.NamesDistinct ∧ s.columnForm.body.RequiredDistinct := by
  obtain ⟨annotations, body⟩ := s
  cases body with
  | array items k => rcases items with _ | _ | _ <;> exact ⟨trivial, trivial⟩
  | object properties required k =>
    cases properties with
    | none =>
      constructor
      . exact ⟨distinctKeys_none, distinctKeys_none, distinctKeys_none, distinctKeys_none⟩
      . intro names hnames
        cases hnames
    | some properties =>
      have hdistinct : (Members.names properties).Nodup := h.1 properties rfl
      rw [columnForm_object, toJsonSchema_columns, plain]
      refine ⟨⟨?_, distinctKeys_none, distinctKeys_none, distinctKeys_none⟩, ?_⟩
      . intro entries hentries
        rw [eq_of_present hentries, names_columnProperties]
        exact hdistinct
      . intro names hnames
        rw [eq_of_present hnames]
        exact nodup_mandatory hdistinct required
  | union members =>
    rw [columnForm_union hside]
    exact ⟨trivial, trivial⟩
  | _ => exact ⟨trivial, trivial⟩

theorem wellFormed_settled (h : s.NamesDistinct) : s.settled.WellFormed := by
  have hall := everywhere_columnForm
    (R := fun s => s.body.NamesDistinct ∧ s.body.RequiredDistinct)
    (P := fun s => s.body.NamesDistinct ∧ s.body.RequiredDistinct)
    (fun _ => distinct_form) (fun _ h => h) ?_ ⟨trivial, trivial⟩ (everywhere_parts h)
  . have hsettled := hall.2 s.isNullable
    constructor
    . exact hsettled.mono fun _ h => h.1
    . exact hsettled.mono fun _ h => h.2
  . -- Adding nullability gives a union, which has no names of its own.
    intro s _ _
    obtain ⟨members, hmembers⟩ := exists_union_withNull s.columnForm
    rw [hmembers]
    exact ⟨trivial, trivial⟩

/--
A body with columns to whose union, if it is one, nullability can be added.
-/
def Body.WithRoom (body : Body JsonSchema) : Prop :=
  body.Convertible ∧ body.UnionUpTo (unionLimit - 1)

theorem withRoom_form (h : s.body.WithRoom) (hside : s.side? = none)
    : s.columnForm.body.WithRoom := by
  obtain ⟨annotations, body⟩ := s
  obtain ⟨hconvertible, hunion⟩ := h
  cases body with
  | untyped => exact hconvertible.elim
  | array items k =>
    obtain ⟨item, rfl⟩ := hconvertible
    rw [columnForm]
    exact ⟨⟨_, rfl⟩, trivial⟩
  | object properties required k =>
    cases properties with
    | none => exact ⟨trivial, trivial⟩
    | some properties =>
      rw [columnForm_object]
      exact ⟨trivial, trivial⟩
  | union members =>
    rw [columnForm_union hside]
    exact ⟨(Body.convertible_map columnForm _).mpr hconvertible,
      (Body.unionUpTo_map columnForm _).mpr hunion⟩
  | _ => exact ⟨trivial, trivial⟩

theorem convertible_withNull (h : s.body.WithRoom) : s.withNull.body.Convertible := by
  rcases eq_union_or_ne_union s with ⟨annotations, members, rfl⟩ | hunion
  . have hlength : members.toList.length ≤ unionLimit - 1 := h.2
    rw [withNull, Body.Convertible, TwoOrMore.toList_push, List.length_append]
    unfold unionLimit at *
    exact Nat.add_le_of_le_sub (by decide) hlength
  . rw [withNull_of_not_union hunion]
    have htwo : 2 ≤ unionLimit := by decide
    exact htwo

theorem convertible_settled (h : s.Convertible) (hunions : s.UnionsUpTo (unionLimit - 1))
    : s.settled.Convertible := by
  have hparts : Everywhere Body.parts (fun s => s.body.WithRoom) s := h.and hunions
  have hall := everywhere_columnForm (R := fun s => s.body.WithRoom)
    (P := fun s => s.body.Convertible) (fun _ => withRoom_form) (fun _ h => h.1)
    (fun _ h _ => convertible_withNull h) trivial hparts
  exact everywhere_parts (hall.2 s.isNullable)

/--
Let a schema go through its columns. The outcome goes through its columns unchanged, if it has
columns again, and it has if no union of the schema is as large as a union with columns can be.
-/
theorem roundTrip_idempotent {columns : Arrow.Schema} (hnames : s.NamesDistinct)
    (h : s.toColumnar = .ok columns)
    : ∃ t, columns.toJsonSchema = .ok t ∧
      (∀ columns', t.toColumnar = .ok columns' → columns'.toJsonSchema = .ok t) ∧
      (s.UnionsUpTo 127 → ∃ columns', t.toColumnar = .ok columns') := by
  refine ⟨s.settled, toJsonSchema_of_toColumnar hnames h, ?_, ?_⟩
  . intro columns' h'
    rw [toJsonSchema_of_toColumnar (wellFormed_settled hnames).names h', settled_settled hnames]
  . intro hunions
    exact exists_toColumnar_iff.mpr (convertible_settled (exists_toColumnar_iff.mp ⟨_, h⟩) hunions)

def readingSchema : JsonSchema where
  annotations := { title := some "reading" }
  body := .object
    (some [
      ("id", ⟨{}, .integer { minimum := some (.integer 0) }⟩),
      ("value", plain (.union ⟨null, plain (.union ⟨number, string, []⟩), []⟩)),
      ("tags", array (plain (.union ⟨string, null, []⟩)))])
    (some ["id", "value"])
    {}

def readingColumns : Arrow.Schema where
  fields := [
    ⟨"id", .integer .int64, false, {}⟩,
    ⟨"value", .union
      [(0, ⟨"number", .float .float64, false, {}⟩), (1, ⟨"string", .text .utf8, false, {}⟩)] .dense,
      true, {}⟩,
    ⟨"tags", .list ⟨"item", .text .utf8, true, {}⟩, true, {}⟩]

theorem roundTrip_idempotent_reading
    : readingSchema.NamesDistinct ∧ readingSchema.toColumnar = .ok readingColumns ∧
      readingSchema.UnionsUpTo 127 ∧
      ∃ t columns, readingColumns.toJsonSchema = .ok t ∧ t.toColumnar = .ok columns ∧
        columns.toJsonSchema = .ok t := by
  have hnames : readingSchema.NamesDistinct := by decide
  have hcolumns : readingSchema.toColumnar = .ok readingColumns := by rfl
  have hunions : readingSchema.UnionsUpTo 127 := by decide
  obtain ⟨t, ht, hagain, hexists⟩ := roundTrip_idempotent hnames hcolumns
  obtain ⟨columns, h⟩ := hexists hunions
  exact ⟨hnames, hcolumns, hunions, t, columns, ht, h, hagain columns h⟩

end JsonSchema

end SchemaBridge
