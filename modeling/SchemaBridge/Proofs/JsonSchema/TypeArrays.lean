import SchemaBridge.Proofs.JsonSchema.Relevance

/-!
This module contains what a `type` array has to do with the types that it names: an object is read
under it as the union of what is read under each of the types alone, or refused as it is under the
first of them that refuses it. Main definitions: `JsonSchema.withKind`, `JsonSchema.withKinds`. Main
statement: `ofJson_withKinds`.
-/

namespace SchemaBridge

namespace JsonSchema

open Success

section Members

variable (members : Members Json) (kind : Kind) (kinds : List Kind)

/--
An object with a value for `type`, which takes the place of the one that was there.
-/
def setType (type : Json) : Members Json :=
  members.insert "type" type

def withKind : Json :=
  .object (setType members (.string kind.name))

def withKinds : Json :=
  .object (setType members (.array (kinds.map fun kind => .string kind.name)))

variable {keyword : String} (type : Json)

theorem present?_setType (h : keyword ≠ "type")
    : present? (setType members type) keyword = present? members keyword := by
  rw [setType, present?, present?, Members.get?_insert, if_neg h.symm]

theorem present?_type_setType (h : type.isNull = false)
    : present? (setType members type) "type" = some type := by
  apply present?_of_get? _ h
  rw [setType, Members.get?_insert, if_pos rfl]

theorem given?_setType (h : keyword ≠ "type")
    : given? (setType members type) keyword = given? members keyword := by
  rw [given?, given?, present?_setType members type h, setType, Members.get?_insert, if_neg h.symm]

theorem Kind.ne_type_of_mem_shapes {kind : Kind} {entry : String × Shape}
    (h : entry ∈ kind.shapes)
    : entry.1 ≠ "type" := by
  have hshapes : ∀ entry ∈ kind.shapes, entry.1 ≠ "type" := by cases kind <;> decide
  exact hshapes entry h

end Members

/-!
The value of `type` decides which readers are run, but none of them reads it.
-/

namespace Node

variable (members : Members Json) (type : Json)

theorem annotations_setType
    : ((mk [] (setType members type)).annotations : Except SchemaError Annotations) =
      (mk [] members).annotations := by
  apply annotations_eq_of_given
  intro keyword hkeyword
  apply given?_setType
  rintro rfl
  exact type_not_mem_annotations hkeyword

theorem bodyOfKind_setType (kind : Kind)
    : ((mk [] (setType members type)).bodyOfKind readAt kind : Except SchemaError _) =
      (mk [] members).bodyOfKind readAt kind := by
  apply bodyOfKind_eq_of_alikeIn fun _ halike path => readAt_eq_of_alikeAs halike path
  intro entry hentry
  exact alikeIn_of_eq (present?_setType members type (Kind.ne_type_of_mem_shapes hentry))

theorem unionMembers_eq_mapM (n : Node)
    (child : Json.Pointer → Json → Except SchemaError JsonSchema) (kinds : List Kind)
    : n.unionMembers child kinds =
      kinds.mapM fun kind => JsonSchema.mk {} <$> n.bodyOfKind child kind := by
  induction kinds with
  | nil => rfl
  | cons kind rest ih =>
    rw [unionMembers, ih, List.mapM_cons]
    cases n.bodyOfKind child kind <;> rfl

theorem body_of_kinds {n : Node} {child : Json.Pointer → Json → Except SchemaError JsonSchema}
    {kinds : List Kind}
    (htype : present? n.members "type" = some (.array (kinds.map fun kind => .string kind.name)))
    (hdistinct : kinds.Nodup)
    : n.body child = do
        let list ← kinds.mapM fun kind => JsonSchema.mk {} <$> n.bodyOfKind child kind
        match TwoOrMore.ofList? list with
        | none => throw (.smallUnion list.length)
        | some list => return .union list := by
  have hkinds : n.kindsFrom [] (kinds.map fun kind => .string kind.name) =
      (.ok kinds : Except SchemaError (List Kind)) :=
    (kindsFrom_eq_ok_iff List.nodup_nil).mpr ⟨kinds, rfl, rfl, hdistinct⟩
  rw [body, keyword?_eq, htype, ← unionMembers_eq_mapM]
  dsimp only
  rw [hkinds]
  rfl

end Node

section Readings

variable {members : Members Json}

theorem ofJson_withKind_eq (kind : Kind)
    : ofJson (withKind members kind) = do
        let annotations ← (Node.mk [] members).annotations
        return ⟨annotations, ← (Node.mk [] members).bodyOfKind readAt kind⟩ := by
  have hread : ofJson (withKind members kind) =
      (Node.mk [] (setType members (.string kind.name))).toSchema readAt :=
    readAt_object [] _
  rw [hread, Node.toSchema, Node.annotations_setType, Node.body, Node.keyword?_eq,
    present?_type_setType members _ rfl]
  simp only [Kind.ofName?_name, Node.bodyOfKind_setType]

theorem ofJson_withKinds_eq {kinds : List Kind} (hdistinct : kinds.Nodup)
    : ofJson (withKinds members kinds) = do
        let annotations ← (Node.mk [] members).annotations
        let list ← kinds.mapM fun kind =>
          JsonSchema.mk {} <$> (Node.mk [] members).bodyOfKind readAt kind
        match TwoOrMore.ofList? list with
        | none => throw (.smallUnion list.length)
        | some list => return ⟨annotations, .union list⟩ := by
  have hread : ofJson (withKinds members kinds) =
      (Node.mk [] (setType members (.array (kinds.map fun kind => .string kind.name)))).toSchema
        readAt :=
    readAt_object [] _
  rw [hread, Node.toSchema, Node.annotations_setType,
    Node.body_of_kinds (present?_type_setType members _ rfl) hdistinct]
  simp only [Node.bodyOfKind_setType]
  apply bind_congr_of_ok
  intro annotations _
  rw [bind_assoc]
  apply bind_congr_of_ok
  intro list _
  cases TwoOrMore.ofList? list <;> rfl

theorem ofJson_withKind_eq_ok_iff {kind : Kind} {s : JsonSchema}
    : ofJson (withKind members kind) = .ok s ↔
      ((Node.mk [] members).annotations : Except SchemaError Annotations) = .ok s.annotations ∧
        ((Node.mk [] members).bodyOfKind readAt kind : Except SchemaError (Body JsonSchema)) =
          .ok s.body := by
  obtain ⟨annotations, body⟩ := s
  simp [ofJson_withKind_eq, bind_eq_ok_iff, map_eq_ok_iff]

theorem exists_union_of_withKind {kinds : List Kind} {results : List JsonSchema}
    (htwo : 2 ≤ kinds.length) (hdistinct : kinds.Nodup)
    (h : List.Forall₂ (fun kind s => ofJson (withKind members kind) = .ok s) kinds results)
    : ∃ annotations list, ofJson (withKinds members kinds) = .ok ⟨annotations, .union list⟩ ∧
      list.toList = results.map (fun s => ⟨{}, s.body⟩) ∧
        ∀ s ∈ results, s.annotations = annotations := by
  have hlist : kinds.mapM (fun kind => JsonSchema.mk {} <$>
        ((Node.mk [] members).bodyOfKind readAt kind : Except SchemaError (Body JsonSchema))) =
      .ok (results.map fun s => ⟨{}, s.body⟩) := by
    rw [mapM_eq_ok_iff, List.forall₂_map_right_iff]
    apply h.imp
    intro kind s hs
    exact map_eq_ok_iff.mpr ⟨s.body, (ofJson_withKind_eq_ok_iff.mp hs).2, rfl⟩
  have hlength : 2 ≤ (results.map fun s => (⟨{}, s.body⟩ : JsonSchema)).length := by
    rw [List.length_map, ← h.length_eq]
    exact htwo
  obtain ⟨list, hresults⟩ := exists_toList_eq hlength
  have hannotations : ∀ s ∈ results,
      ((Node.mk [] members).annotations : Except SchemaError Annotations) = .ok s.annotations := by
    intro s hs
    obtain ⟨kind, _, hread⟩ := exists_left_of_forall₂ h hs
    exact (ofJson_withKind_eq_ok_iff.mp hread).1
  cases results with
  | nil => simp at hlength
  | cons first rest =>
    have hfirst := hannotations first List.mem_cons_self
    refine ⟨first.annotations, list, ?_, hresults.symm, ?_⟩
    . rw [ofJson_withKinds_eq hdistinct, hfirst, hlist, hresults]
      simp [TwoOrMore.ofList?_toList, bind, Except.bind, pure, Except.pure]
    . intro s hs
      simpa [hfirst, eq_comm] using hannotations s hs

theorem exists_withKind_of_withKinds {kinds : List Kind} {s : JsonSchema}
    (hdistinct : kinds.Nodup) (h : ofJson (withKinds members kinds) = .ok s)
    : ∀ kind ∈ kinds, ∃ single, ofJson (withKind members kind) = .ok single := by
  intro kind hkind
  rw [ofJson_withKinds_eq hdistinct] at h
  obtain ⟨annotations, hannotations, h⟩ := bind_eq_ok_iff.mp h
  obtain ⟨list, hlist, _⟩ := bind_eq_ok_iff.mp h
  obtain ⟨member, hmember⟩ := exists_forall₂_iff.mp ⟨list, mapM_eq_ok_iff.mp hlist⟩ kind hkind
  obtain ⟨body, hbody, _⟩ := map_eq_ok_iff.mp hmember
  exact ⟨⟨annotations, body⟩, ofJson_withKind_eq_ok_iff.mpr ⟨hannotations, hbody⟩⟩

theorem ofJson_withKinds_eq_error_of_first {before after : List Kind} {kind : Kind}
    {e : SchemaError} (hdistinct : (before ++ kind :: after).Nodup)
    (hbefore : ∀ other ∈ before, ∃ s, ofJson (withKind members other) = .ok s)
    (h : ofJson (withKind members kind) = .error e)
    : ofJson (withKinds members (before ++ kind :: after)) = .error e := by
  rw [ofJson_withKind_eq] at h
  rw [ofJson_withKinds_eq hdistinct]
  cases hannotations : ((Node.mk [] members).annotations : Except SchemaError Annotations) with
  | error e' =>
    rw [hannotations] at h
    exact h
  | ok annotations =>
    rw [hannotations] at h
    have hlist : (before ++ kind :: after).mapM (fun kind => JsonSchema.mk {} <$>
          ((Node.mk [] members).bodyOfKind readAt kind : Except SchemaError (Body JsonSchema))) =
        .error e := by
      apply mapM_eq_error_of_first
      . intro other hother
        obtain ⟨s, hs⟩ := hbefore other hother
        exact ⟨_, map_eq_ok_iff.mpr ⟨s.body, (ofJson_withKind_eq_ok_iff.mp hs).2, rfl⟩⟩
      . cases hbody : ((Node.mk [] members).bodyOfKind readAt kind :
            Except SchemaError (Body JsonSchema)) with
        | error e' =>
          rw [hbody] at h
          exact h
        | ok body =>
          rw [hbody] at h
          cases h
    rw [hlist]
    rfl

/--
A `type` array makes an object the union of the schemas that it is under the single types: it is
read if it is read under each of them, with the annotations at the union and not at its members, and
otherwise it has the error that it has under the first of them under which it is refused.
-/
theorem ofJson_withKinds (members : Members Json) {kinds : List Kind} (htwo : 2 ≤ kinds.length)
    (hdistinct : kinds.Nodup)
    : ((∃ s, ofJson (withKinds members kinds) = .ok s) ↔
        ∀ kind ∈ kinds, ∃ s, ofJson (withKind members kind) = .ok s) ∧
      (∀ results,
        List.Forall₂ (fun kind s => ofJson (withKind members kind) = .ok s) kinds results →
          ∃ annotations list, ofJson (withKinds members kinds) = .ok ⟨annotations, .union list⟩ ∧
            list.toList = results.map (fun s => ⟨{}, s.body⟩) ∧
              ∀ s ∈ results, s.annotations = annotations) ∧
      (∀ before kind after e, kinds = before ++ kind :: after →
        (∀ other ∈ before, ∃ s, ofJson (withKind members other) = .ok s) →
          ofJson (withKind members kind) = .error e →
            ofJson (withKinds members kinds) = .error e) := by
  refine ⟨⟨?_, ?_⟩, fun results => exists_union_of_withKind htwo hdistinct, ?_⟩
  . rintro ⟨s, hs⟩
    exact exists_withKind_of_withKinds hdistinct hs
  . intro hall
    obtain ⟨results, hresults⟩ := exists_forall₂_iff.mpr hall
    obtain ⟨annotations, list, h, _⟩ := exists_union_of_withKind htwo hdistinct hresults
    exact ⟨_, h⟩
  . rintro before kind after e rfl hbefore herror
    exact ofJson_withKinds_eq_error_of_first hdistinct hbefore herror

end Readings

def amountMembers (minimum : Json) : Members Json :=
  [("type", .string "object"), ("title", .string "amount"), ("minLength", .ofNat 1),
    ("minimum", minimum)]

theorem ofJson_withKinds_amount
    : (2 ≤ [Kind.string, .integer].length ∧ [Kind.string, .integer].Nodup) ∧
      (∃ s, ofJson (withKinds (amountMembers (.ofNat 0)) [.string, .integer]) = .ok s) ∧
      ofJson (withKinds (amountMembers (.bool true)) [.string, .integer]) =
        .error (.malformed [] "minimum" .number) := by
  have htwo : 2 ≤ [Kind.string, .integer].length := by decide
  have hdistinct : [Kind.string, .integer].Nodup := by decide
  refine ⟨⟨htwo, hdistinct⟩, ?_, ?_⟩
  . apply (ofJson_withKinds (amountMembers (.ofNat 0)) htwo hdistinct).1.mpr
    simp only [List.forall_mem_cons]
    exact ⟨⟨_, rfl⟩, ⟨_, rfl⟩, List.forall_mem_nil _⟩
  . have hfirst := (ofJson_withKinds (amountMembers (.bool true)) htwo hdistinct).2.2
    apply hfirst [.string] .integer [] _ rfl
    . rw [List.forall_mem_singleton]
      exact ⟨_, rfl⟩
    . rfl

end JsonSchema

end SchemaBridge
