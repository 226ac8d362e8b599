import Mathlib.Data.List.Nodup
import SchemaBridge.JsonSchema.Parser.Lemmas
import SchemaBridge.Proofs.JsonSchema.Spelling
import SchemaBridge.Proofs.Success

/-!
This module contains the proof that the reader of schemas meets the grammar of schema documents: one
statement for each reader of keywords, and from them what it is for a document to be read. Main
statement: `ofJson_object_eq_ok_iff`.
-/

namespace SchemaBridge

namespace JsonSchema

open Success

namespace Node

variable {α : Type} {n : Node}

theorem keyword?_eq (keyword : String) : n.keyword? keyword = present? n.members keyword := rfl

theorem malformed_eq_ok_iff {keyword : String} {expected : Expectation} {a : α}
    : (n.malformed keyword expected : Except SchemaError α) = .ok a ↔ False := by
  exact throw_eq_ok_iff

theorem read_eq_ok_iff {read? : Json → Option α} {expected : Expectation} {keyword : String}
    {result : Option α}
    : (n.read read? expected keyword : Except SchemaError (Option α)) = .ok result ↔
      Spelled n.members keyword (reads read?) result := by
  unfold read Spelled
  rw [keyword?_eq]
  cases present? n.members keyword with
  | none => cases result <;> simp [pure_eq_ok_iff]
  | some value =>
    dsimp
    split
    next hvalue => cases result <;> simp [malformed_eq_ok_iff, reads, hvalue]
    next hvalue => cases result <;> simp [pure_eq_ok_iff, reads, hvalue]

theorem annotations_eq_ok_iff {a : Annotations}
    : (n.annotations : Except SchemaError Annotations) = .ok a ↔ a.SpelledBy n.members := by
  cases a
  simp [annotations, bind_eq_ok_iff, map_eq_ok_iff, string, values, boolean, read_eq_ok_iff,
    Annotations.spelledBy_iff]

theorem numericKeywords_eq_ok_iff {k : NumericKeywords}
    : (n.numericKeywords : Except SchemaError NumericKeywords) = .ok k ↔ k.SpelledBy n.members := by
  cases k
  simp [numericKeywords, bind_eq_ok_iff, map_eq_ok_iff, number, boolean, read_eq_ok_iff,
    NumericKeywords.spelledBy_iff]

theorem map_read {β : Type} (f : α → β) (read? : Json → Option α) (expected : Expectation)
    (keyword : String)
    : Option.map f <$> (n.read read? expected keyword : Except SchemaError (Option α)) =
      n.read (fun document => (read? document).map f) expected keyword := by
  unfold read
  split
  . rfl
  next value _ =>
    dsimp
    cases read? value <;> rfl

theorem format_eq_map_string
    : (n.format : Except SchemaError (Option Format)) =
      Option.map Format.ofName <$> n.string "format" := by
  unfold Node.format
  cases (n.string "format" : Except SchemaError (Option String)) with
  | error e => rfl
  | ok name =>
    cases name with
    | none => rfl
    | some name =>
      simp only [bind, Except.bind, Functor.map, Except.map, Option.map_some]
      split <;> simp [pure, Except.pure]

theorem format_eq_ok_iff {format : Option Format}
    : (n.format : Except SchemaError (Option Format)) = .ok format ↔
      Spelled n.members "format" (reads toFormat?) format := by
  rw [format_eq_map_string, string, map_read, read_eq_ok_iff]
  rfl

theorem stringKeywords_eq_ok_iff {k : StringKeywords}
    : (n.stringKeywords : Except SchemaError StringKeywords) = .ok k ↔ k.SpelledBy n.members := by
  cases k
  simp [stringKeywords, bind_eq_ok_iff, map_eq_ok_iff, format_eq_ok_iff, string, count,
    read_eq_ok_iff, StringKeywords.spelledBy_iff]

theorem reads_stringLists?_eq : reads stringLists? = JsonSchema.stringLists := by
  funext document lists
  unfold reads stringLists? JsonSchema.stringLists named
  cases document with
  | object entries =>
    simp only [Json.toObject?, Option.bind_some, mapM_eq_some_iff, Json.object.injEq,
      exists_eq_left', Option.map_eq_some_iff, Prod.ext_iff, exists_eq_right_right]
    simp only [reads, and_comm]
  | _ => simp [Json.toObject?]

theorem stringLists_eq_ok_iff {keyword : String} {lists : Option (Members (List String))}
    : (n.stringLists keyword : Except SchemaError (Option (Members (List String)))) = .ok lists ↔
      Spelled n.members keyword JsonSchema.stringLists lists := by
  unfold stringLists
  rw [read_eq_ok_iff, reads_stringLists?_eq]

theorem dedup_eq_eraseDups : bodyOfKind.dedup = @List.eraseDups String _ := by
  funext names
  -- The loop goes on behind the names it has kept, and adds the ones that are not among these.
  suffices ∀ kept : List String,
      names.foldl (fun kept name => if kept.contains name then kept else kept ++ [name]) kept =
        kept ++ (names.removeAll kept).eraseDups by
    simpa [bodyOfKind.dedup, List.removeAll] using this []
  induction names with
  | nil => simp [List.removeAll]
  | cons name rest ih =>
    intro kept
    rw [List.foldl_cons, ih]
    split
    next h => simp_all [List.removeAll]
    next h =>
      have hfilter : rest.removeAll (kept ++ [name]) =
          (rest.removeAll kept).filter fun other => !other == name := by
        simp only [List.removeAll, List.filter_filter]
        congr
        funext other
        by_cases other = name <;> simp_all
      simp_all [List.removeAll, List.eraseDups_cons]

theorem required_eq_ok_iff {required : Option (List String)}
    : (∃ listed, (n.strings "required" : Except SchemaError (Option (List String))) = .ok listed ∧
        listed.map bodyOfKind.dedup = required) ↔
      Spelled n.members "required" (reads toRequired?) required := by
  rw [← map_eq_ok_iff, strings, map_read, read_eq_ok_iff, dedup_eq_eraseDups]
  rfl

theorem kindsFrom_eq_ok_iff {kinds : List Kind} (hkinds : kinds.Nodup) {names : List Json}
    {result : List Kind}
    : (n.kindsFrom kinds names : Except SchemaError (List Kind)) = .ok result ↔
      ∃ more, names = more.map (fun kind => .string kind.name) ∧ result = kinds ++ more ∧
        result.Nodup := by
  -- The names that were read before have to be known, since a repeated one is refused.
  induction names generalizing kinds with
  | nil =>
    rw [kindsFrom, pure_eq_ok_iff]
    constructor
    . rintro rfl
      exact ⟨[], rfl, by simp, hkinds⟩
    . rintro ⟨more, hmore, rfl, -⟩
      simp [List.map_eq_nil_iff.mp hmore.symm]
  | cons value rest ih =>
    constructor
    . intro h
      unfold kindsFrom at h
      split at h
      next name =>
        split at h
        next => exact (malformed_eq_ok_iff.mp h).elim
        next kind hkind =>
          split at h
          next => exact (malformed_eq_ok_iff.mp h).elim
          next hnew =>
            have hnew : kind ∉ kinds := by simpa using hnew
            have hkinds : (kinds ++ [kind]).Nodup := by simpa using hkinds.concat hnew
            obtain ⟨more, rfl, rfl, hresult⟩ := (ih hkinds).mp h
            refine ⟨kind :: more, ?_, by simp, hresult⟩
            simp [Kind.name_eq_of_ofName? hkind]
      next => exact (malformed_eq_ok_iff.mp h).elim
    . rintro ⟨_ | ⟨kind, more⟩, hnames, rfl, hresult⟩
      . cases hnames
      . obtain ⟨rfl, rfl⟩ := List.cons.inj hnames
        have hnew : kind ∉ kinds := by
          simp only [List.nodup_append, List.mem_cons] at hresult
          intro hmem
          exact hresult.2.2 kind hmem kind (by simp) rfl
        have hkinds : (kinds ++ [kind]).Nodup := by simpa using hkinds.concat hnew
        simp only [kindsFrom, Kind.ofName?_name, List.contains_eq_mem, hnew, decide_false,
          Bool.false_eq_true, if_false]
        exact (ih hkinds).mpr ⟨more, rfl, by simp, hresult⟩

/-!
For what follows `child` succeeds on a document, wherever it stands, exactly with the schemas that
`R` relates to the document. Only objects are schemas.
-/

section Subschemas

variable {child : Json.Pointer → Json → Except SchemaError JsonSchema}
  {R : Json → JsonSchema → Prop}
  (hchild : ∀ (path : Json.Pointer) {value : Json} {s : JsonSchema},
    child path value = .ok s ↔ R value s)
  (hobject : ∀ {value : Json} {s : JsonSchema}, R value s → ∃ members, value = .object members)
include hchild hobject

theorem subschema_eq_ok_iff {keyword : String} {expected : Expectation} {steps : List String}
    {value : Json} {s : JsonSchema}
    : n.subschema child keyword expected steps value = .ok s ↔ R value s := by
  unfold subschema
  split
  . apply hchild
  next hvalue =>
    rw [malformed_eq_ok_iff, false_iff]
    intro h
    obtain ⟨members, rfl⟩ := hobject h
    exact hvalue members rfl

theorem schema_eq_ok_iff {keyword : String} {s : Option JsonSchema}
    : n.schema child keyword = .ok s ↔ Spelled n.members keyword R s := by
  unfold schema Spelled
  rw [keyword?_eq]
  cases present? n.members keyword with
  | none => cases s <;> simp [pure_eq_ok_iff]
  | some value => cases s <;> simp [map_eq_ok_iff, subschema_eq_ok_iff hchild hobject]

theorem boolOrSchema_eq_ok_iff {keyword : String} {slot : Option (BoolOr JsonSchema)}
    : n.boolOrSchema child keyword = .ok slot ↔ Spelled n.members keyword (boolOr R) slot := by
  unfold boolOrSchema Spelled
  rw [keyword?_eq]
  cases present? n.members keyword with
  | none => cases slot <;> simp [pure_eq_ok_iff]
  | some value =>
    have hbool (b : Bool) (s : JsonSchema) : ¬R (.bool b) s := by
      intro h
      obtain ⟨members, h⟩ := hobject h
      cases h
    cases value with
    | bool b =>
      rcases slot with _ | _ | _ <;> simp [pure_eq_ok_iff, boolOr, hbool]
    | _ =>
      rcases slot with _ | _ | _ <;>
        simp [map_eq_ok_iff, subschema_eq_ok_iff hchild hobject, boolOr]

theorem schemasFrom_eq_ok_iff {keyword : String} {index : Nat} {items : List Json}
    {list : List JsonSchema}
    : n.schemasFrom child keyword index items = .ok list ↔ List.Forall₂ R items list := by
  induction items generalizing index list with
  | nil => rw [schemasFrom, pure_eq_ok_iff, List.forall₂_nil_left_iff, eq_comm]
  | cons value rest ih =>
    simp only [schemasFrom, bind_eq_ok_iff, pure_eq_ok_iff, subschema_eq_ok_iff hchild hobject, ih,
      List.forall₂_cons_left_iff]
    constructor
    . rintro ⟨s, hs, list, hlist, rfl⟩
      exact ⟨s, list, hs, hlist, rfl⟩
    . rintro ⟨s, list, hs, hlist, rfl⟩
      exact ⟨s, hs, list, hlist, rfl⟩

theorem schemas_eq_ok_iff {keyword : String} {list : Option (List JsonSchema)}
    : n.schemas child keyword = .ok list ↔ Spelled n.members keyword (each R) list := by
  unfold schemas Spelled
  rw [keyword?_eq]
  cases present? n.members keyword with
  | none => cases list <;> simp [pure_eq_ok_iff]
  | some value =>
    cases value with
    | array items =>
      cases list <;> simp [map_eq_ok_iff, schemasFrom_eq_ok_iff hchild hobject, each]
    | _ => cases list <;> simp [malformed_eq_ok_iff, each]

theorem namedSchemas_eq_ok_iff {keyword : String} {entries : List (String × Json)}
    {list : List (String × JsonSchema)}
    : n.namedSchemas child keyword entries = .ok list ↔
      List.Forall₂ (fun entry member => entry.1 = member.1 ∧ R entry.2 member.2) entries list := by
  induction entries generalizing list with
  | nil => rw [namedSchemas, pure_eq_ok_iff, List.forall₂_nil_left_iff, eq_comm]
  | cons entry rest ih =>
    simp only [namedSchemas, bind_eq_ok_iff, pure_eq_ok_iff, subschema_eq_ok_iff hchild hobject, ih,
      List.forall₂_cons_left_iff, Prod.exists]
    constructor
    . rintro ⟨s, hs, list, hlist, rfl⟩
      exact ⟨_, s, list, ⟨rfl, hs⟩, hlist, rfl⟩
    . rintro ⟨_, s, list, ⟨rfl, hs⟩, hlist, rfl⟩
      exact ⟨s, hs, list, hlist, rfl⟩

theorem schemaMap_eq_ok_iff {keyword : String} {list : Option (List (String × JsonSchema))}
    : n.schemaMap child keyword = .ok list ↔ Spelled n.members keyword (named R) list := by
  unfold schemaMap Spelled
  rw [keyword?_eq]
  cases present? n.members keyword with
  | none => cases list <;> simp [pure_eq_ok_iff]
  | some value =>
    cases value with
    | object entries =>
      cases list <;> simp [map_eq_ok_iff, namedSchemas_eq_ok_iff hchild hobject, named]
    | _ => cases list <;> simp [malformed_eq_ok_iff, named]

theorem arrayKeywords_eq_ok_iff {k : ArrayKeywords JsonSchema}
    : n.arrayKeywords child = .ok k ↔ k.SpelledBy R n.members := by
  cases k
  simp [arrayKeywords, bind_eq_ok_iff, map_eq_ok_iff, schemas_eq_ok_iff hchild hobject,
    boolOrSchema_eq_ok_iff hchild hobject, schema_eq_ok_iff hchild hobject, count, boolean,
    read_eq_ok_iff, ArrayKeywords.spelledBy_iff]

theorem objectKeywords_eq_ok_iff {k : ObjectKeywords JsonSchema}
    : n.objectKeywords child = .ok k ↔ k.SpelledBy R n.members := by
  cases k
  simp [objectKeywords, bind_eq_ok_iff, map_eq_ok_iff, schemas_eq_ok_iff hchild hobject,
    boolOrSchema_eq_ok_iff hchild hobject, schema_eq_ok_iff hchild hobject,
    schemaMap_eq_ok_iff hchild hobject, stringLists_eq_ok_iff, count, read_eq_ok_iff,
    ObjectKeywords.spelledBy_iff]

theorem bodyOfKind_eq_ok_iff {kind : Kind} {body : Body JsonSchema}
    : n.bodyOfKind child kind = .ok body ↔ body.SpelledAs R n.members kind := by
  cases kind with
  | null => cases body <;> simp [bodyOfKind, pure_eq_ok_iff, Body.SpelledAs]
  | boolean => cases body <;> simp [bodyOfKind, pure_eq_ok_iff, Body.SpelledAs]
  | integer =>
    cases body <;> simp [bodyOfKind, map_eq_ok_iff, numericKeywords_eq_ok_iff, Body.SpelledAs]
  | number =>
    cases body <;> simp [bodyOfKind, map_eq_ok_iff, numericKeywords_eq_ok_iff, Body.SpelledAs]
  | string =>
    cases body <;> simp [bodyOfKind, map_eq_ok_iff, stringKeywords_eq_ok_iff, Body.SpelledAs]
  | array =>
    cases body <;>
      simp [bodyOfKind, bind_eq_ok_iff, map_eq_ok_iff, boolOrSchema_eq_ok_iff hchild hobject,
        arrayKeywords_eq_ok_iff hchild hobject, Body.SpelledAs]
  | object =>
    cases body with
    | object properties required k =>
      simp only [bodyOfKind, bind_eq_ok_iff, pure_eq_ok_iff, schemaMap_eq_ok_iff hchild hobject,
        objectKeywords_eq_ok_iff hchild hobject, Body.SpelledAs, Body.object.injEq]
      rw [← required_eq_ok_iff]
      constructor
      . rintro ⟨listed, hlisted, _, hproperties, _, hk, rfl, hrequired, rfl⟩
        exact ⟨hproperties, ⟨listed, hlisted, hrequired⟩, hk⟩
      . rintro ⟨hproperties, ⟨listed, hlisted, hrequired⟩, hk⟩
        exact ⟨listed, hlisted, _, hproperties, _, hk, rfl, hrequired, rfl⟩
    | _ => simp [bodyOfKind, bind_eq_ok_iff, map_eq_ok_iff, Body.SpelledAs]

theorem unionMembers_eq_ok_iff {kinds : List Kind} {list : List JsonSchema}
    : n.unionMembers child kinds = .ok list ↔
      List.Forall₂
        (fun kind member => member.annotations = {} ∧ member.body.SpelledAs R n.members kind)
        kinds list := by
  induction kinds generalizing list with
  | nil => rw [unionMembers, pure_eq_ok_iff, List.forall₂_nil_left_iff, eq_comm]
  | cons kind rest ih =>
    simp only [unionMembers, bind_eq_ok_iff, pure_eq_ok_iff, bodyOfKind_eq_ok_iff hchild hobject,
      ih, List.forall₂_cons_left_iff]
    constructor
    . rintro ⟨body, hbody, list, hlist, rfl⟩
      exact ⟨⟨{}, body⟩, list, ⟨rfl, hbody⟩, hlist, rfl⟩
    . rintro ⟨⟨_, body⟩, list, ⟨rfl, hbody⟩, hlist, rfl⟩
      exact ⟨body, hbody, list, hlist, rfl⟩

theorem body_eq_ok_iff {body : Body JsonSchema}
    : n.body child = .ok body ↔ body.SpelledBy R n.members := by
  constructor
  . intro h
    unfold Node.body at h
    split at h
    next htype =>
      obtain rfl := pure_eq_ok_iff.mp h
      exact .untyped htype
    next name htype =>
      split at h
      next => exact (malformed_eq_ok_iff.mp h).elim
      next kind hkind =>
        apply Body.SpelledBy.single kind body
        . rw [Kind.name_eq_of_ofName? hkind]
          exact htype
        . exact (bodyOfKind_eq_ok_iff hchild hobject).mp h
    next names htype =>
      obtain ⟨kinds, hkinds, h⟩ := bind_eq_ok_iff.mp h
      obtain ⟨_, -, h⟩ := bind_eq_ok_iff.mp h
      obtain ⟨list, hlist, hbody⟩ := bind_eq_ok_iff.mp h
      obtain ⟨more, rfl, rfl, hdistinct⟩ := (kindsFrom_eq_ok_iff List.nodup_nil).mp hkinds
      rw [unionMembers_eq_ok_iff hchild hobject] at hlist
      split at hbody
      next => exact (throw_eq_ok_iff.mp hbody).elim
      next list' hlist' =>
        obtain rfl := pure_eq_ok_iff.mp hbody
        rw [TwoOrMore.ofList?_eq_some_iff.mp hlist'] at hlist
        exact .union kinds list' htype hdistinct hlist
    next => exact (malformed_eq_ok_iff.mp h).elim
  . intro h
    unfold Node.body
    cases h with
    | untyped htype => rw [keyword?_eq, htype, pure_eq_ok_iff]
    | single kind body htype h =>
      rw [keyword?_eq, htype]
      dsimp
      rw [Kind.ofName?_name]
      exact (bodyOfKind_eq_ok_iff hchild hobject).mpr h
    | union kinds list htype hdistinct h =>
      rw [keyword?_eq, htype]
      simp only [bind_eq_ok_iff]
      refine ⟨kinds, (kindsFrom_eq_ok_iff List.nodup_nil).mpr ⟨kinds, rfl, rfl, hdistinct⟩,
        (), rfl, list.toList, (unionMembers_eq_ok_iff hchild hobject).mpr h, ?_⟩
      rw [TwoOrMore.ofList?_toList, pure_eq_ok_iff]

theorem toSchema_eq_ok_iff {s : JsonSchema}
    : n.toSchema child = .ok s ↔ s.SpelledBy R n.members := by
  obtain ⟨annotations, body⟩ := s
  simp [toSchema, SpelledBy, bind_eq_ok_iff, map_eq_ok_iff, annotations_eq_ok_iff,
    body_eq_ok_iff hchild hobject]

end Subschemas

end Node

theorem exists_object_of_read {depth : Nat} {path : Json.Pointer} {value : Json} {s : JsonSchema}
    (h : (read depth path value : Except SchemaError JsonSchema) = .ok s)
    : ∃ members, value = .object members := by
  unfold read at h
  split at h
  next => exact ⟨_, rfl⟩
  next => exact (throw_eq_ok_iff.mp h).elim

theorem read_eq_ok_iff_of_path {depth : Nat} (path path' : Json.Pointer) {value : Json}
    {s : JsonSchema}
    : (read depth path value : Except SchemaError JsonSchema) = .ok s ↔
      (read depth path' value : Except SchemaError JsonSchema) = .ok s := by
  induction depth generalizing path path' value s with
  | zero => simp only [read, throw_eq_ok_iff]
  | succ depth ih =>
    cases value with
    | object members =>
      have h (path : Json.Pointer) := Node.toSchema_eq_ok_iff (n := ⟨path, members⟩) (s := s)
        (R := fun value s => (read depth [] value : Except SchemaError JsonSchema) = .ok s)
        (fun path => ih path []) exists_object_of_read
      -- The grammar does not mention the path, which only matters for errors.
      simp only [read]
      exact (h path).trans (h path').symm
    | _ => simp only [read, throw_eq_ok_iff]

theorem readAt_eq_ok_iff {path : Json.Pointer} {value : Json} {s : JsonSchema}
    : (readAt path value : Except SchemaError JsonSchema) = .ok s ↔ ofJson value = .ok s := by
  exact read_eq_ok_iff_of_path path []

theorem exists_object_of_ofJson {document : Json} {s : JsonSchema} (h : ofJson document = .ok s)
    : ∃ members, document = .object members := by
  exact exists_object_of_read h

/--
A document is read as the schema that it spells.
-/
theorem ofJson_object_eq_ok_iff {members : Members Json} {s : JsonSchema}
    : ofJson (.object members) = .ok s ↔
      s.SpelledBy (fun document s => ofJson document = .ok s) members := by
  have h : ofJson (.object members) = (Node.mk [] members).toSchema readAt :=
    readAt_object [] members
  rw [h]
  exact Node.toSchema_eq_ok_iff (R := fun document s => ofJson document = .ok s)
    (fun _ => readAt_eq_ok_iff) exists_object_of_ofJson

end JsonSchema

end SchemaBridge
