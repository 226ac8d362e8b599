import SchemaBridge.Proofs.JsonSchema.Documents
import SchemaBridge.Proofs.JsonSchema.Kinds
import SchemaBridge.Proofs.JsonSchema.Writing

/-!
This module contains the schemas that a document can spell, and the proof that exactly these are
read back from the documents written for them. Main statements: `ofJson_toJson_of_spellable`,
`spellable_of_ofJson`, `ofJson_toJson_eq_ok_iff`.
-/

namespace SchemaBridge

namespace JsonSchema

/--
A union whose members select type names, and no two of them the same one.
-/
structure NamedUnion (list : List JsonSchema) : Prop where
  kinds : ∀ member ∈ list, ∃ kind, member.body.kind? = some kind
  distinct : (list.map typeName).Nodup

/--
A union whose members can be spelled in one object: each selects its own type name, none has
annotations of its own, and the two numeric types share their keywords.
-/
structure SpellableUnion (list : List JsonSchema) : Prop where
  kinds : ∀ member ∈ list, ∃ kind, member.body.kind? = some kind
  distinct : (list.map typeName).Nodup
  plain : ∀ member ∈ list, member.annotations = {}
  numeric : ∀ a b k l, ⟨a, .integer k⟩ ∈ list → ⟨b, .number l⟩ ∈ list → k = l

theorem SpellableUnion.named {list : List JsonSchema} (h : SpellableUnion list)
    : NamedUnion list := by
  exact ⟨h.kinds, h.distinct⟩

/--
The name of a custom format is not the name of a registered one, and the unions are spellable.
-/
def Body.Spellable : Body JsonSchema → Prop
  | .string k => ∀ name, k.format = some (.custom name) → StringFormat.ofName? name = none
  | .union list => SpellableUnion list.toList
  | _ => True

def Spellable (s : JsonSchema) : Prop :=
  Everywhere Body.subschemas (fun s => s.body.Spellable) s

namespace Kind

theorem name_injective : Function.Injective name := by
  intro kind kind' hname
  have hkind := ofName?_name kind
  rw [hname, ofName?_name] at hkind
  exact (Option.some.inj hkind).symm

def isNumeric : Kind → Bool
  | .integer | .number => true
  | _ => false

theorem eq_or_isNumeric {k l : Kind} {keyword : String} (hk : keyword ∈ k.keywords)
    (hl : keyword ∈ l.keywords)
    : k = l ∨ k.isNumeric = true ∧ l.isNumeric = true := by
  revert keyword
  cases k <;> cases l <;> decide

theorem type_not_mem_keywords (kind : Kind) : "type" ∉ kind.keywords := by
  cases kind <;> decide

theorem annotation_not_mem_keywords {keyword : String} (h : keyword ∈ Annotations.keywords)
    (kind : Kind)
    : keyword ∉ kind.keywords := by
  revert keyword
  cases kind <;> decide

end Kind

theorem type_not_mem_annotations : "type" ∉ Annotations.keywords := by
  decide

theorem Annotations.last?_entries_eq_none {a : Annotations} {keyword : String}
    (h : keyword ∉ keywords)
    : Members.last? a.entries keyword = none := by
  simp_all [keywords, entries, Members.last?_append, last?_entry, eq_comm]

theorem last?_typeEntry_eq_none {body : Body Printed} {keyword : String} (h : keyword ≠ "type")
    : Members.last? (Printed.typeEntry body) keyword = none := by
  cases body <;> simp [Printed.typeEntry, Members.last?, h.symm]

namespace Body

theorem last?_entries_eq_none {body : Body JsonSchema} {kind : Kind}
    (hkind : body.kind? = some kind) {keyword : String} (h : keyword ∉ kind.keywords)
    : Members.last? body.entries keyword = none := by
  cases body with
  | untyped => cases hkind
  | union list => cases hkind
  | null => rfl
  | boolean => rfl
  | integer k =>
    obtain rfl := Option.some.inj hkind
    simp_all [Kind.keywords, entries, Printed.bodyEntries, Body.map, NumericKeywords.entries,
      Members.last?_append, last?_entry, eq_comm]
  | number k =>
    obtain rfl := Option.some.inj hkind
    simp_all [Kind.keywords, entries, Printed.bodyEntries, Body.map, NumericKeywords.entries,
      Members.last?_append, last?_entry, eq_comm]
  | string k =>
    obtain rfl := Option.some.inj hkind
    simp_all [Kind.keywords, entries, Printed.bodyEntries, Body.map, StringKeywords.entries,
      Members.last?_append, last?_entry, eq_comm]
  | array items k =>
    obtain rfl := Option.some.inj hkind
    rw [entries_array]
    simp_all [Kind.keywords, arrayEntries, Members.last?_append, last?_entry, eq_comm]
  | object properties required k =>
    obtain rfl := Option.some.inj hkind
    rw [entries_object]
    simp_all [Kind.keywords, objectEntries, Members.last?_append, last?_entry, eq_comm]

theorem spelledAs {R : Json → JsonSchema → Prop} {members : Members Json} {body : Body JsonSchema}
    {kind : Kind} (hkind : body.kind? = some kind)
    (h : ∀ keyword ∈ kind.keywords, members.get? keyword = Members.last? body.entries keyword)
    (hR : ∀ s ∈ body.subschemas, R s.toJson s) (hspellable : body.Spellable)
    (hrequired : body.RequiredDistinct)
    : body.SpelledAs R members kind := by
  cases body with
  | untyped => cases hkind
  | union list => cases hkind
  | null =>
    obtain rfl := Option.some.inj hkind
    exact True.intro
  | boolean =>
    obtain rfl := Option.some.inj hkind
    exact True.intro
  | integer k =>
    obtain rfl := Option.some.inj hkind
    exact NumericKeywords.spelledBy h
  | number k =>
    obtain rfl := Option.some.inj hkind
    exact NumericKeywords.spelledBy h
  | string k =>
    obtain rfl := Option.some.inj hkind
    apply StringKeywords.spelledBy h
    rintro (format | name) hformat
    . rw [Format.name, Format.ofName, StringFormat.ofName?_name]
    . rw [Format.name, Format.ofName, hspellable name hformat]
  | array items k =>
    obtain rfl := Option.some.inj hkind
    rw [entries_array] at h
    exact ArrayKeywords.spelledBy h isNull_toJson hR
  | object properties required k =>
    obtain rfl := Option.some.inj hkind
    rw [entries_object] at h
    obtain ⟨hproperties, hk⟩ := ObjectKeywords.spelledBy h isNull_toJson hR
    have hnames := (h "required" (by decide)).trans (last?_required _ _ _)
    exact ⟨hproperties, .required hnames hrequired, hk⟩

end Body

theorem SpellableUnion.entries_eq_of_isNumeric {list : List JsonSchema} (h : SpellableUnion list)
    {member other : JsonSchema} (hmember : member ∈ list) (hother : other ∈ list)
    {kind kind' : Kind} (hkind : member.body.kind? = some kind) (hkind' : other.body.kind? = some kind')
    (hnumeric : kind.isNumeric = true) (hnumeric' : kind'.isNumeric = true) (hne : kind ≠ kind')
    : other.body.entries = member.body.entries := by
  obtain ⟨a, body⟩ := member
  obtain ⟨b, body'⟩ := other
  cases body with
  | integer k =>
    cases hkind
    cases body' with
    | integer l =>
      cases hkind'
      exact (hne rfl).elim
    | number l =>
      rw [h.numeric a b k l hmember hother]
      rfl
    | _ => cases hkind' <;> cases hnumeric'
  | number k =>
    cases hkind
    cases body' with
    | integer l =>
      rw [h.numeric b a l k hother hmember]
      rfl
    | number l =>
      cases hkind'
      exact (hne rfl).elim
    | _ => cases hkind' <;> cases hnumeric'
  | _ => cases hkind <;> cases hnumeric

/--
A member of a union finds its own keywords among those of all members, unless it shares them with a
member of the other numeric type.
-/
theorem NamedUnion.last?_entries {list : List JsonSchema} (h : NamedUnion list)
    {member : JsonSchema} (hmember : member ∈ list) {kind : Kind}
    (hkind : member.body.kind? = some kind)
    (hshared : ∀ other ∈ list, ∀ kind', other.body.kind? = some kind' → kind ≠ kind' →
      kind.isNumeric = true → kind'.isNumeric = true → other.body.entries = member.body.entries)
    {keyword : String} (hkeyword : keyword ∈ kind.keywords)
    : Members.last? (list.flatMap fun member => member.body.entries) keyword =
      Members.last? member.body.entries keyword := by
  apply Members.last?_flatMap ⟨member, hmember, rfl⟩
  intro other hother
  obtain ⟨kind', hkind'⟩ := h.kinds other hother
  by_cases hne : kind = kind'
  . left
    have hname : other.typeName = member.typeName := by
      unfold typeName
      rw [Body.typeName_eq_name hkind, Body.typeName_eq_name hkind', hne]
    rw [List.inj_on_of_nodup_map h.distinct hother hmember hname]
  . -- Another type has the keyword only if both are numeric.
    by_cases hkeyword' : keyword ∈ kind'.keywords
    . left
      obtain ⟨hnumeric, hnumeric'⟩ := (Kind.eq_or_isNumeric hkeyword hkeyword').resolve_left hne
      rw [hshared other hother kind' hkind' hne hnumeric hnumeric']
    . right
      exact Body.last?_entries_eq_none hkind' hkeyword'

theorem SpellableUnion.last?_entries {list : List JsonSchema} (h : SpellableUnion list)
    {member : JsonSchema} (hmember : member ∈ list) {kind : Kind}
    (hkind : member.body.kind? = some kind) {keyword : String} (hkeyword : keyword ∈ kind.keywords)
    : Members.last? (list.flatMap fun member => member.body.entries) keyword =
      Members.last? member.body.entries keyword := by
  apply h.named.last?_entries hmember hkind _ hkeyword
  intro other hother kind' hkind' hne hnumeric hnumeric'
  exact h.entries_eq_of_isNumeric hmember hother hkind hkind' hnumeric hnumeric' hne

theorem last?_entries_eq_none {s : JsonSchema} {keyword : String}
    (h : ∀ kind : Kind, keyword ∉ kind.keywords)
    : Members.last? s.body.entries keyword = none := by
  induction s using JsonSchema.induction with
  | step annotations body ih =>
    cases body with
    | untyped => rfl
    | union list =>
      rw [Body.entries_union]
      exact Members.last?_flatMap_eq_none ih
    | _ => exact Body.last?_entries_eq_none rfl (h _)

/-!
What the whole object holds under `type`, under an annotation keyword and under a keyword of a type.
-/

section Written

variable {s : JsonSchema} {members : Members Json} (hmembers : s.toJson = .object members)
include hmembers

theorem get?_written (keyword : String)
    : members.get? keyword = (Members.last? s.body.entries keyword).or
      ((Members.last? s.annotations.entries keyword).or
        (Members.last? (Printed.typeEntry (s.body.map printed)) keyword)) := by
  rw [toJson_eq] at hmembers
  obtain rfl := Json.object.inj hmembers
  rw [Members.get?_ofList, Members.last?_append, Members.last?_append]
  rfl

theorem get?_type
    : members.get? "type" = Members.last? (Printed.typeEntry (s.body.map printed)) "type" := by
  rw [get?_written hmembers, last?_entries_eq_none Kind.type_not_mem_keywords,
    Annotations.last?_entries_eq_none type_not_mem_annotations]
  rfl

theorem get?_annotation {keyword : String} (hkeyword : keyword ∈ Annotations.keywords)
    : members.get? keyword = Members.last? s.annotations.entries keyword := by
  rw [get?_written hmembers, last?_typeEntry_eq_none,
    last?_entries_eq_none (Kind.annotation_not_mem_keywords hkeyword)]
  . simp
  . rintro rfl
    exact type_not_mem_annotations hkeyword

theorem get?_keyword {kind : Kind} {keyword : String} (hkeyword : keyword ∈ kind.keywords)
    : members.get? keyword = Members.last? s.body.entries keyword := by
  rw [get?_written hmembers, last?_typeEntry_eq_none, Annotations.last?_entries_eq_none]
  . simp
  . intro hannotation
    exact Kind.annotation_not_mem_keywords hannotation kind hkeyword
  . rintro rfl
    exact kind.type_not_mem_keywords hkeyword

end Written

theorem Body.typeEntry_of_kind? {body : Body JsonSchema} {kind : Kind}
    (hkind : body.kind? = some kind)
    : Printed.typeEntry (body.map printed) = [("type", .string kind.name)] := by
  cases body <;> cases hkind <;> rfl

theorem typeNames_eq {kinds : List Kind} {list : List JsonSchema}
    (h : List.Forall₂ (fun kind member => member.body.kind? = some kind) kinds list)
    : list.map typeName = kinds.map Kind.name := by
  induction h with
  | nil => rfl
  | cons hkind _ ih => rw [List.map_cons, List.map_cons, ih, typeName, Body.typeName_eq_name hkind]

theorem exists_kinds {list : List JsonSchema}
    (h : ∀ member ∈ list, ∃ kind, member.body.kind? = some kind)
    : ∃ kinds, List.Forall₂ (fun kind member => member.body.kind? = some kind) kinds list := by
  induction list with
  | nil => exact ⟨[], .nil⟩
  | cons member rest ih =>
    obtain ⟨kind, hkind⟩ := h member (by simp)
    obtain ⟨kinds, hkinds⟩ := ih fun other hother => h other (by simp [hother])
    exact ⟨kind :: kinds, .cons hkind hkinds⟩

theorem typeEntry_union_eq (list : TwoOrMore JsonSchema)
    : Printed.typeEntry ((Body.union list).map printed) =
      [("type", stringsToJson (list.toList.map typeName))] := by
  have hnames : list.toList.map (fun member => member.printed.typeName) =
      list.toList.map typeName := by
    apply List.map_congr_left
    intro member _
    rw [printed_eq]
    exact Body.typeName_map printed member.body
  rw [← hnames]
  simp only [Body.map, Printed.typeEntry, TwoOrMore.toList_map, List.map_map]
  rfl

theorem typeEntry_union {kinds : List Kind} {list : TwoOrMore JsonSchema}
    (h : List.Forall₂ (fun kind member => member.body.kind? = some kind) kinds list.toList)
    : Printed.typeEntry ((Body.union list).map printed) =
      [("type", .array (kinds.map fun kind => .string kind.name))] := by
  rw [typeEntry_union_eq, typeNames_eq h, stringsToJson, List.map_map]
  rfl

theorem spelledBy_of_toJson {R : Json → JsonSchema → Prop} {s : JsonSchema} {members : Members Json}
    (hmembers : s.toJson = .object members) (hspellable : s.Spellable)
    (hrequired : s.RequiredDistinct)
    (hR : ∀ c ∈ s.body.subschemas, R c.toJson c ∧ ∀ d ∈ c.body.subschemas, R d.toJson d)
    : s.SpelledBy R members := by
  have hannotations : s.annotations.SpelledBy members :=
    Annotations.spelledBy fun _ => get?_annotation hmembers
  apply And.intro hannotations
  have htype := get?_type hmembers
  cases hkind : s.body.kind? with
  | some kind =>
    rw [Body.typeEntry_of_kind? hkind] at htype
    apply Body.SpelledBy.single kind _ (present?_of_get? htype rfl)
    exact Body.spelledAs hkind (fun _ => get?_keyword hmembers) (fun c hc => (hR c hc).1)
      hspellable.self hrequired.self
  | none =>
    obtain ⟨annotations, body⟩ := s
    cases body with
    | untyped =>
      apply Body.SpelledBy.untyped
      rw [present?, htype]
      rfl
    | union list =>
      have hunion : SpellableUnion list.toList := hspellable.self
      obtain ⟨kinds, hkinds⟩ := exists_kinds hunion.kinds
      rw [typeEntry_union hkinds] at htype
      apply Body.SpelledBy.union kinds list (present?_of_get? htype rfl)
      . apply List.Nodup.of_map Kind.name
        rw [← typeNames_eq hkinds]
        exact hunion.distinct
      . -- Every member finds its own keywords in the object that it shares with the others.
        have hmem := (List.forall₂_and_left (p := (· ∈ list.toList)) list.toList kinds).mpr
          ⟨fun _ h => h, hkinds.flip⟩
        apply hmem.flip.imp
        rintro kind member ⟨hmember, hkind⟩
        have hget (keyword : String) (hkeyword : keyword ∈ kind.keywords)
            : members.get? keyword = Members.last? member.body.entries keyword := by
          rw [get?_keyword hmembers hkeyword, Body.entries_union]
          exact hunion.last?_entries hmember hkind hkeyword
        apply And.intro (hunion.plain member hmember)
        exact Body.spelledAs hkind hget (hR member hmember).2 (hspellable.child hmember).self
          (hrequired.child hmember).self
    | _ => cases hkind

theorem ofJson_toJson_of_spellable {s : JsonSchema} (hspellable : s.Spellable)
    (hrequired : s.RequiredDistinct)
    : ofJson s.toJson = .ok s := by
  -- The members of a union are spelled without a document of their own, so that the schemas below
  -- them are needed as well.
  suffices ∀ s : JsonSchema, s.Spellable → s.RequiredDistinct →
      ofJson s.toJson = .ok s ∧ ∀ c ∈ s.body.subschemas, ofJson c.toJson = .ok c by
    exact (this s hspellable hrequired).1
  intro s
  induction s using JsonSchema.induction with
  | step annotations body ih =>
    intro hspellable hrequired
    have hR (c : JsonSchema) (hc : c ∈ body.subschemas) :=
      ih c hc (hspellable.child hc) (hrequired.child hc)
    constructor
    . rw [toJson_eq, ofJson_object_eq_ok_iff]
      exact spelledBy_of_toJson (toJson_eq _) hspellable hrequired hR
    . intro c hc
      exact (hR c hc).1

/-!
What a reader gives is spellable.
-/

theorem Body.kind?_of_spelledAs {σ : Type} {R : Json → σ → Prop} {members : Members Json}
    {kind : Kind} {body : Body σ} (h : body.SpelledAs R members kind)
    : body.kind? = some kind := by
  cases kind <;> cases body <;> first | rfl | exact h.elim

theorem Spelled.reads_unique {α : Type} {members : Members Json} {keyword : String}
    {read? : Json → Option α} {a b : Option α} (ha : Spelled members keyword (reads read?) a)
    (hb : Spelled members keyword (reads read?) b)
    : a = b := by
  unfold Spelled at ha hb
  generalize present? members keyword = value at ha hb
  cases ha with
  | none =>
    cases hb
    rfl
  | some ha =>
    cases hb with
    | some hb => exact ha.symm.trans hb

theorem NumericKeywords.SpelledBy.unique {members : Members Json} {k l : NumericKeywords}
    (hk : k.SpelledBy members) (hl : l.SpelledBy members)
    : k = l := by
  cases k
  cases l
  simp only [mk.injEq]
  exact ⟨hk.minimum.reads_unique hl.minimum, hk.maximum.reads_unique hl.maximum,
    hk.exclusiveMinimum.reads_unique hl.exclusiveMinimum,
    hk.exclusiveMaximum.reads_unique hl.exclusiveMaximum,
    hk.multipleOf.reads_unique hl.multipleOf⟩

theorem Body.spellable_of_spelledAs {R : Json → JsonSchema → Prop} {members : Members Json}
    {kind : Kind} {body : Body JsonSchema} (h : body.SpelledAs R members kind)
    : body.Spellable := by
  cases body with
  | string k =>
    cases kind <;> try exact h.elim
    intro name hname
    have hformat := h.format
    rw [hname] at hformat
    obtain ⟨value, -, hvalue⟩ := hformat.exists_value
    obtain ⟨name', -, hname'⟩ := Option.map_eq_some_iff.mp hvalue
    unfold Format.ofName at hname'
    split at hname'
    next => cases hname'
    next hnone =>
      obtain rfl := Format.custom.inj hname'
      exact hnone
  | union list => cases kind <;> exact h.elim
  | _ => exact True.intro

theorem spellableUnion_of_spelledBy {R : Json → JsonSchema → Prop} {members : Members Json}
    {list : TwoOrMore JsonSchema} (h : (Body.union list).SpelledBy R members)
    : SpellableUnion list.toList := by
  cases h with
  | single kind _ _ hspelled => cases kind <;> exact hspelled.elim
  | union kinds _ _ hdistinct hspelled =>
    have hkinds := hspelled.imp fun kind member h => Body.kind?_of_spelledAs h.2
    constructor
    case kinds =>
      intro member hmember
      obtain ⟨kind, _, hkind⟩ := exists_left_of_forall₂ hkinds hmember
      exact ⟨kind, hkind⟩
    case distinct =>
      rw [typeNames_eq hkinds]
      exact hdistinct.map Kind.name_injective
    case plain =>
      intro member hmember
      obtain ⟨kind, _, hplain, _⟩ := exists_left_of_forall₂ hspelled hmember
      exact hplain
    case numeric =>
      intro a b k l hk hl
      obtain ⟨kind, _, _, hk⟩ := exists_left_of_forall₂ hspelled hk
      obtain ⟨kind', _, _, hl⟩ := exists_left_of_forall₂ hspelled hl
      cases kind <;> try exact hk.elim
      cases kind' <;> try exact hl.elim
      exact NumericKeywords.SpelledBy.unique hk hl

theorem spellable_of_ofJson {document : Json} {s : JsonSchema} (h : ofJson document = .ok s)
    : s.Spellable := by
  refine everywhere_of_ofJson (D := fun _ => True) (P := Body.Spellable) ?_ ?_ ?_ ?_ trivial h
  . intros
    trivial
  . trivial
  . intro _ _ _ _ h
    exact Body.spellable_of_spelledAs h
  . intro _ _ _ h
    exact spellableUnion_of_spelledBy h

/--
A schema is read back from the document written for it exactly if it is spellable. `required` is a
set, and so lists no name twice.
-/
theorem ofJson_toJson_eq_ok_iff {s : JsonSchema} (hrequired : s.RequiredDistinct)
    : ofJson s.toJson = .ok s ↔ s.Spellable := by
  constructor
  . exact spellable_of_ofJson
  . intro hspellable
    exact ofJson_toJson_of_spellable hspellable hrequired

def chargesSchema : JsonSchema where
  annotations := { title := some "charges" }
  body := .object
    (some [("items", ⟨{}, .array
      (some (.schema ⟨{}, .union {
        first := ⟨{}, .integer { minimum := some (.integer 0) }⟩
        second := ⟨{}, .number {}⟩
        others := [] }⟩)) {}⟩)])
    (some ["items"])
    {}

/-!
Both members of the union are read with the bound of the first.
-/

theorem ofJson_toJson_eq_ok_iff_charges
    : chargesSchema.RequiredDistinct ∧ ofJson chargesSchema.toJson ≠ .ok chargesSchema ∧
      ¬chargesSchema.Spellable := by
  have hrequired : chargesSchema.RequiredDistinct := by decide
  have hne : ofJson chargesSchema.toJson ≠ .ok chargesSchema := by
    intro h
    injection h with h
    cases h
  exact ⟨hrequired, hne, fun h => hne ((ofJson_toJson_eq_ok_iff hrequired).mpr h)⟩

/--
Writing a schema that was read and reading it again gives the same schema: the same body and
annotations everywhere, with all lists in the same order.
-/
theorem ofJson_toJson_of_ofJson {document : Json} {s : JsonSchema} (h : ofJson document = .ok s)
    : ofJson s.toJson = .ok s := by
  exact ofJson_toJson_of_spellable (spellable_of_ofJson h) (requiredDistinct_of_ofJson h)

def orderDocument : Json :=
  .object [
    ("type", .array [.string "object", .string "null"]),
    ("default", .null),
    ("title", .null),
    ("properties", .object [
      ("price", .object [
        ("type", .array [.string "number", .string "integer"]), ("minimum", .ofNat 0)]),
      ("day", .object [("type", .string "string"), ("format", .string "date")])]),
    ("required", .array [.string "price", .string "day", .string "price"]),
    ("allOf", .array []),
    ("items", .bool true)]

def orderSchema : JsonSchema where
  annotations := { default := some .null }
  body := .union {
    first := ⟨{}, .object
      (some [
        ("price", ⟨{}, .union {
          first := ⟨{}, .number { minimum := some (.integer 0) }⟩
          second := ⟨{}, .integer { minimum := some (.integer 0) }⟩
          others := [] }⟩),
        ("day", ⟨{}, .string { format := some (.known .date) }⟩)])
      (some ["price", "day"])
      { allOf := some [] }⟩
    second := ⟨{}, .null⟩
    others := [] }

theorem ofJson_toJson_of_ofJson_order
    : ofJson orderDocument = .ok orderSchema ∧ ofJson orderSchema.toJson = .ok orderSchema := by
  have h : ofJson orderDocument = .ok orderSchema := by rfl
  exact ⟨h, ofJson_toJson_of_ofJson h⟩

end JsonSchema

end SchemaBridge
