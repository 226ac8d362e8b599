import SchemaBridge.Proofs.Json.DistinctNames
import SchemaBridge.Proofs.Json.Pointers
import SchemaBridge.Proofs.JsonSchema.Complaints
import SchemaBridge.Proofs.Members

/-!
This module contains the proof that the path of an error leads to the schema object that has the
error, also in a message, where the path is a text. Main statement: `ofJson_eq_malformed`.
-/

namespace SchemaBridge

namespace SchemaError

/--
The path that a message gives as `text`.
-/
def ofPathText? (text : String) : Option Json.Pointer :=
  if text = "/" then some [] else Json.Pointer.ofText? text

theorem text_eq_slash {step : String} {rest : Json.Pointer}
    (h : Json.Pointer.text (step :: rest) = "/")
    : step = "" := by
  have hread := Json.Pointer.ofText?_text (step :: rest)
  rw [h] at hread
  exact (List.cons.inj (Option.some.inj hread)).1.symm

/--
The path of a message is read back, since it never starts with an empty step.
-/
theorem ofPathText?_pathText {path : Json.Pointer} (h : path.head? ≠ some "")
    : ofPathText? (pathText path) = some path := by
  cases path with
  | nil => rfl
  | cons step rest =>
    have hslash : Json.Pointer.text (step :: rest) ≠ "/" := by
      intro hslash
      rw [text_eq_slash hslash] at h
      exact h rfl
    unfold pathText ofPathText?
    rw [List.isEmpty_cons, if_neg Bool.false_ne_true, if_neg hslash]
    exact Json.Pointer.ofText?_text (step :: rest)

end SchemaError

namespace JsonSchema

section Inside

variable {members : Members Json} {keyword : String} {shape : Shape} {value document : Json}
  {steps : Json.Pointer}

theorem depth_le_of_inside (h : Inside shape value steps document) : document.depth ≤ value.depth := by
  cases h with
  | schema | orSchema => exact Nat.le_refl _
  | item item => exact Nat.le_succ_of_le (Json.depth_le_of_mem_items (List.mem_of_getElem? item))
  | entry entry => exact Nat.le_succ_of_le (Json.depth_le_of_mem_members entry)

theorem distinctNames_of_inside (h : Inside shape value steps document)
    (hvalue : value.distinctNames = true)
    : document.distinctNames = true := by
  cases h with
  | schema | orSchema => exact hvalue
  | item item => exact Json.distinctNames_array_iff.mp hvalue _ (List.mem_of_getElem? item)
  | entry entry => exact (Json.distinctNames_object_iff.mp hvalue).2 _ entry

theorem select?_of_inside (h : Inside shape value steps document)
    (hvalue : value.distinctNames = true)
    : value.select? steps = some document := by
  cases h with
  | schema | orSchema => rfl
  | item item =>
    rw [Json.select?, Json.Pointer.index?_toString, Option.bind_eq_bind, Option.bind_some, item]
    rfl
  | entry entry =>
    have hnames := (Json.distinctNames_object_iff.mp hvalue).1
    rw [Json.select?, (Members.get?_eq_some_iff hnames).mpr entry]
    rfl

theorem select?_keyword (hpresent : present? members keyword = some value) (rest : Json.Pointer)
    : (Json.object members).select? (keyword :: rest) = value.select? rest := by
  simp [Json.select?, (present?_eq_some_iff.mp hpresent).1]

end Inside

/--
The path of an error selects an object, which has a value for the keyword and the same error on its
own.
-/
theorem exists_culprit {document : Json} (hdistinct : document.distinctNames = true)
    (hobject : IsObject document) {path : Json.Pointer} {keyword : String} {expected : Expectation}
    (h : ofJson document = .error (.malformed path keyword expected))
    : ∃ members value, document.select? path = some (.object members) ∧
      present? members keyword = some value ∧
      ofJson (.object members) = .error (.malformed [] keyword expected) := by
  induction hdepth : document.depth using Nat.strongRecOn generalizing document path with
  | ind depth ih =>
    subst hdepth
    obtain ⟨members, rfl⟩ := hobject
    generalize herror : SchemaError.malformed path keyword expected = e at h
    cases complaint_of_ofJson h with
    | type present =>
      cases herror
      exact ⟨members, _, rfl, present, h⟩
    | fewTypes => cases herror
    | own _ present =>
      cases herror
      exact ⟨members, _, rfl, present, h⟩
    | @inner _ _ value steps _ known present hinside object e error =>
      obtain ⟨path, rfl, rfl⟩ := SchemaError.below_eq_malformed_iff.mp herror.symm
      have hmem := mem_of_present? present
      have hvalue := (Json.distinctNames_object_iff.mp hdistinct).2 _ hmem
      have hless := Nat.le_trans (depth_le_of_inside hinside) (Json.depth_le_of_mem_members hmem)
      obtain ⟨culprit, found, hselect, hfound, herror⟩ :=
        ih _ (Nat.lt_succ_of_le hless) (distinctNames_of_inside hinside hvalue) object error rfl
      refine ⟨culprit, found, ?_, hfound, herror⟩
      rw [List.cons_append, select?_keyword present, Json.select?_append,
        select?_of_inside hinside hvalue]
      exact hselect

theorem empty_not_mem_keywordShapes (shape : Shape) : ("", shape) ∉ keywordShapes := by
  cases shape <;> decide

theorem head?_ne_empty_of_ofJson {document : Json} (hobject : IsObject document)
    {path : Json.Pointer} {keyword : String} {expected : Expectation}
    (h : ofJson document = .error (.malformed path keyword expected))
    : path.head? ≠ some "" := by
  obtain ⟨members, rfl⟩ := hobject
  generalize herror : SchemaError.malformed path keyword expected = e at h
  cases complaint_of_ofJson h with
  | type =>
    cases herror
    exact nofun
  | fewTypes => cases herror
  | own =>
    cases herror
    exact nofun
  | inner known =>
    obtain ⟨inner, -, rfl⟩ := SchemaError.below_eq_malformed_iff.mp herror.symm
    rintro ⟨⟩
    exact empty_not_mem_keywordShapes _ known

/--
Either a document is no object at all, or the path of the error, as the message spells it, leads to
an object that has a value for the keyword, and this object has the same error as a document of its
own.
-/
theorem ofJson_eq_malformed {document : Json} (hdistinct : document.distinctNames = true)
    {path : Json.Pointer} {keyword : String} {expected : Expectation}
    (h : ofJson document = .error (.malformed path keyword expected))
    : ((∀ members, document ≠ .object members) ∧ SchemaError.pathText path = "/" ∧
        keyword = "(schema)") ∨
      ∃ pointer, ∃ members : Members Json, ∃ value : Json,
        SchemaError.ofPathText? (SchemaError.pathText path) = some pointer ∧
        document.select? pointer = some (.object members) ∧
        members.get? keyword = some value ∧ value.isNull = false ∧
        ofJson (.object members) = .error (.malformed [] keyword expected) := by
  by_cases hobject : IsObject document
  . right
    obtain ⟨members, value, hselect, hpresent, herror⟩ := exists_culprit hdistinct hobject h
    obtain ⟨hget, hnull⟩ := present?_eq_some_iff.mp hpresent
    have hpath := SchemaError.ofPathText?_pathText (head?_ne_empty_of_ofJson hobject h)
    exact ⟨path, members, value, hpath, hselect, hget, hnull, herror⟩
  . left
    refine ⟨fun members hmembers => hobject ⟨members, hmembers⟩, ?_⟩
    have hnone : document.toObject? = none := by
      cases document with
      | object members => exact (hobject ⟨members, rfl⟩).elim
      | _ => rfl
    have herror : ofJson document = throw (.malformed [] "(schema)" .object) :=
      readAt_eq_throw [] hnone
    rw [herror] at h
    cases h
    exact ⟨rfl, rfl⟩

def routeDocument : Json :=
  .object [
    ("type", .string "object"),
    ("properties", .object [
      ("stops/via~", .object [
        ("type", .array [.string "null", .string "array"]),
        ("title", .null),
        ("prefixItems", .array [
          .object [("minLength", .bool true)],
          .object [("type", .string "string"), ("minLength", .ofInt (-1))]])])])]

theorem ofJson_eq_malformed_route
    : routeDocument.distinctNames = true ∧
      ofJson routeDocument =
        .error (.malformed ["properties", "stops/via~", "prefixItems", "1"] "minLength" .count) ∧
      SchemaError.pathText ["properties", "stops/via~", "prefixItems", "1"] =
        "/properties/stops~1via~0/prefixItems/1" ∧
      ∃ pointer, ∃ members : Members Json, ∃ value : Json,
        SchemaError.ofPathText? "/properties/stops~1via~0/prefixItems/1" = some pointer ∧
        routeDocument.select? pointer = some (.object members) ∧
        members.get? "minLength" = some value ∧ value.isNull = false ∧
        ofJson (.object members) = .error (.malformed [] "minLength" .count) := by
  have hdistinct : routeDocument.distinctNames = true := by decide
  have herror : ofJson routeDocument =
      .error (.malformed ["properties", "stops/via~", "prefixItems", "1"] "minLength" .count) := by
    rfl
  have htext : SchemaError.pathText ["properties", "stops/via~", "prefixItems", "1"] =
      "/properties/stops~1via~0/prefixItems/1" := by decide
  refine ⟨hdistinct, herror, htext, ?_⟩
  have hculprit := ofJson_eq_malformed hdistinct herror
  rw [htext] at hculprit
  exact hculprit.resolve_left fun h => h.1 _ rfl

end JsonSchema

end SchemaBridge
