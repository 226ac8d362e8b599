import Mathlib.Data.List.Forall2
import Mathlib.Data.List.Perm.Subperm
import SchemaBridge.JsonSchema.Agreement
import SchemaBridge.Proofs.Columnar.Nullability
import SchemaBridge.Proofs.Matching
import SchemaBridge.Proofs.Members

/-!
This module contains what it means for schemas to agree: one statement for each kind of body without
further keywords, and the questions to which schemas that agree have the same answer.
-/

namespace SchemaBridge

namespace Members

variable {α β : Type}

theorem agreeWith_mapValues_iff {related : α → β → Bool} {ms : Members α} {others : Members β}
    : agreeWith (mapValues related ms) others = true ↔
      ms.length = others.length ∧
        ∀ entry ∈ ms, ∃ value, others.get? entry.1 = some value ∧ related entry.2 value = true := by
  have hany (found : Option β) (test : β → Bool)
      : found.any test = true ↔ ∃ value, found = some value ∧ test value = true := by
    cases found <;> simp
  unfold agreeWith mapValues
  rw [Bool.and_eq_true, beq_iff_eq, List.length_map, List.all_eq_true, List.forall_mem_map]
  simp only [hany]

/--
Lists of named values agree exactly if they match by name and value, as long as the names in one of
them are distinct.
-/
theorem agreeWith_iff_matched {related : α → β → Bool} {ms : Members α} {others : Members β}
    (hdistinct : ms.names.Nodup)
    : agreeWith (mapValues related ms) others = true ↔
      Matched (fun entry other => other.1 = entry.1 ∧ related entry.2 other.2 = true) ms
        others := by
  rw [agreeWith_mapValues_iff]
  constructor
  . rintro ⟨hlength, hentries⟩
    obtain ⟨found, hfound⟩ : ∃ found, List.Forall₂ (fun entry other => other ∈ others ∧
        other.1 = entry.1 ∧ related entry.2 other.2 = true) ms found := by
      apply exists_forall₂_iff.mpr
      intro entry hentry
      obtain ⟨value, hget, hrelated⟩ := hentries entry hentry
      exact ⟨(entry.1, value), mem_of_get? hget, rfl, hrelated⟩
    -- What is found has distinct names, too, so that it exhausts the list it is found in.
    have hnames : ms.names = names found :=
      map_eq_map_of_forall₂ hfound fun _ _ _ hother => hother.2.1.symm
    have hnodup : found.Nodup := by
      rw [hnames] at hdistinct
      exact hdistinct.of_map
    have hsubset : found ⊆ others := by
      intro other hother
      obtain ⟨_, _, hmem, _⟩ := exists_left_of_forall₂ hfound hother
      exact hmem
    have hperm := (hnodup.subperm hsubset).perm_of_length_le
      (Nat.le_of_eq (hlength.symm.trans hfound.length_eq))
    exact ⟨found, hfound.imp fun _ _ hother => hother.2, hperm⟩
  . intro h
    have hnames : ms.names.Perm others.names := h.map_perm fun _ _ hother => hother.1.symm
    refine ⟨h.length_eq, ?_⟩
    rw [hnames.nodup_iff] at hdistinct
    intro entry hentry
    obtain ⟨other, hmem, hname, hrelated⟩ := h.exists_mem hentry
    rw [← hname]
    exact ⟨other.2, (get?_eq_some_iff hdistinct).mpr hmem, hrelated⟩

end Members

namespace JsonSchema

variable {α β σ τ : Type} {annotations : Annotations}

theorem bothOr_none_iff {related : α → β → Bool} {y : Option β}
    : bothOr related none y = true ↔ y = none := by
  cases y <;> simp [bothOr]

theorem bothOr_some_iff {related : α → β → Bool} {x : α} {y : Option β}
    : bothOr related (some x) y = true ↔ ∃ z, y = some z ∧ related x z = true := by
  cases y <;> simp [bothOr]

theorem bothOr_map {γ : Type} (related : γ → β → Bool) (f : α → γ) (x : Option α) (y : Option β)
    : bothOr related (x.map f) y = bothOr (fun x => related (f x)) x y := by
  cases x <;> cases y <;> rfl

theorem sameNames_iff_perm {xs ys : List String} (hxs : xs.Nodup)
    : sameNames xs ys = true ↔ xs.Perm ys := by
  unfold sameNames
  rw [Bool.and_eq_true, beq_iff_eq, List.all_eq_true]
  simp only [List.contains_iff_mem]
  constructor
  . -- A list without repetition that lies in one of the same length exhausts it.
    rintro ⟨hlength, hsubset⟩
    exact (hxs.subperm hsubset).perm_of_length_le (Nat.le_of_eq hlength.symm)
  . intro hperm
    exact ⟨hperm.length_eq, fun name hname => hperm.mem_iff.mp hname⟩

theorem sameNames_iff {xs ys : List String} (hxs : xs.Nodup) (hys : ys.Nodup)
    : sameNames xs ys = true ↔ ∀ name, name ∈ xs ↔ name ∈ ys := by
  rw [sameNames_iff_perm hxs, List.perm_ext_iff_of_nodup hxs hys]

/--
Objects whose `required` keywords agree require the same properties.
-/
theorem requires_eq_of_agree {required required' : Option (List String)}
    (hdistinct : ∀ names ∈ required, names.Nodup)
    (h : bothOr sameNames required required' = true) (name : String)
    : requires required name = requires required' name := by
  cases required with
  | none => rw [bothOr_none_iff.mp h]
  | some names =>
    obtain ⟨names', rfl, hnames⟩ := bothOr_some_iff.mp h
    have hperm := (sameNames_iff_perm (hdistinct names rfl)).mp hnames
    rw [requires, requires, Bool.eq_iff_iff, List.contains_iff_mem, List.contains_iff_mem,
      hperm.mem_iff]

theorem listAgreesWith_map_iff {related : σ → τ → Bool} {xs : List σ} {ys : List τ}
    : listAgreesWith (xs.map related) ys = true ↔
      List.Forall₂ (fun x y => related x y = true) xs ys := by
  induction xs generalizing ys with
  | nil => cases ys <;> simp [listAgreesWith]
  | cons x rest ih => cases ys <;> simp [listAgreesWith, ih]

/-!
Only the absence of all keywords agrees with the absence of all keywords.
-/

theorem Annotations.empty_agrees_iff {a : Annotations} : agrees {} a = true ↔ a = {} := by
  obtain ⟨_, _, _, _, _, _, _, _, _, _, _, _⟩ := a
  simp only [agrees, Bool.and_eq_true, beq_iff_eq, bothOr_none_iff]
  simp [eq_comm, and_assoc]

theorem NumericKeywords.empty_agrees_iff {k : NumericKeywords} : agrees {} k = true ↔ k = {} := by
  obtain ⟨_, _, _, _, _⟩ := k
  simp only [agrees, Bool.and_eq_true, beq_iff_eq, bothOr_none_iff]
  simp [eq_comm, and_assoc]

theorem ArrayKeywords.empty_agreeWith_iff {k : ArrayKeywords σ}
    : agreeWith {} k = true ↔ k = {} := by
  obtain ⟨_, _, _, _, _, _, _, _, _⟩ := k
  simp only [agreeWith, Bool.and_eq_true, beq_iff_eq, bothOr_none_iff]
  simp [eq_comm, and_assoc]

theorem ObjectKeywords.empty_agreeWith_iff {k : ObjectKeywords σ}
    : agreeWith {} k = true ↔ k = {} := by
  obtain ⟨_, _, _, _, _, _, _, _, _, _, _, _, _, _, _⟩ := k
  simp only [agreeWith, Bool.and_eq_true, beq_iff_eq, bothOr_none_iff]
  simp [eq_comm, and_assoc]

theorem agrees_eq (s other : JsonSchema)
    : s.agrees other =
      (s.annotations.agrees other.annotations && (s.body.map agrees).agreeWith other.body) := by
  unfold agrees
  rw [fold_eq]

/--
Properties with the same name whose schemas agree.
-/
def SameProperty (property property' : String × JsonSchema) : Prop :=
  property'.1 = property.1 ∧ property.2.agrees property'.2 = true

/-!
Which schemas agree with a plain one.
-/

theorem plain_agrees_iff {body : Body JsonSchema} {other : JsonSchema}
    : (plain body).agrees other = true ↔
      other.annotations = {} ∧ (body.map agrees).agreeWith other.body = true := by
  rw [agrees_eq, Bool.and_eq_true]
  exact and_congr_left fun _ => Annotations.empty_agrees_iff

theorem scalar_agrees_iff {kind : Kind} {other : JsonSchema} (hscalar : kind.isScalar = true)
    : (plain kind.body).agrees other = true ↔ other = plain kind.body := by
  obtain ⟨annotations, body⟩ := other
  rw [plain_agrees_iff, plain, mk.injEq]
  apply and_congr_right
  intro _
  cases kind with
  | array => cases hscalar
  | object => cases hscalar
  | integer =>
    cases body <;>
      simp [Kind.body, Body.map, Body.agreeWith, NumericKeywords.empty_agrees_iff]
  | number =>
    cases body <;>
      simp [Kind.body, Body.map, Body.agreeWith, NumericKeywords.empty_agrees_iff]
  | string =>
    cases body with
    | string k =>
      rw [Kind.body, Body.map, Body.agreeWith, beq_iff_eq, Body.string.injEq]
      exact eq_comm
    | _ => simp [Kind.body, Body.map, Body.agreeWith]
  | _ => cases body <;> simp [Kind.body, Body.map, Body.agreeWith]

theorem null_agrees_null : null.agrees null = true := by
  have hscalar : Kind.null.isScalar = true := rfl
  exact (scalar_agrees_iff hscalar).mpr rfl

theorem array_agrees_iff {item other : JsonSchema}
    : (array item).agrees other = true ↔
      ∃ item', other = array item' ∧ item.agrees item' = true := by
  obtain ⟨annotations, body⟩ := other
  rw [array, plain_agrees_iff]
  cases body with
  | array items k =>
    have hk : ArrayKeywords.agreeWith (ArrayKeywords.map agrees {}) k = true ↔ k = {} :=
      ArrayKeywords.empty_agreeWith_iff
    rw [Body.map, Body.agreeWith, Bool.and_eq_true, hk, Option.map_some, bothOr_some_iff]
    constructor
    . rintro ⟨rfl, ⟨slot, rfl, hslot⟩, rfl⟩
      cases slot with
      | bool b => cases hslot
      | schema item' => exact ⟨item', rfl, hslot⟩
    . rintro ⟨item', hother, hitem⟩
      cases hother
      exact ⟨rfl, ⟨_, rfl, hitem⟩, rfl⟩
  | _ => simp [Body.map, Body.agreeWith, plain, array]

theorem union_agrees_iff {members : TwoOrMore JsonSchema} {other : JsonSchema}
    : (plain (.union members)).agrees other = true ↔
      ∃ members', other = plain (.union members') ∧
        List.Forall₂ (fun s t => s.agrees t = true) members.toList members'.toList := by
  obtain ⟨annotations, body⟩ := other
  rw [plain_agrees_iff]
  cases body with
  | union members' =>
    rw [Body.map, Body.agreeWith, TwoOrMore.toList_map, listAgreesWith_map_iff]
    constructor
    . rintro ⟨rfl, hmembers⟩
      exact ⟨members', rfl, hmembers⟩
    . rintro ⟨_, hother, hmembers⟩
      cases hother
      exact ⟨rfl, hmembers⟩
  | _ => simp [Body.map, Body.agreeWith, plain]

theorem object_agrees_iff {properties : Option (List (String × JsonSchema))}
    {required : Option (List String)} {other : JsonSchema}
    : (plain (.object properties required {})).agrees other = true ↔
      ∃ properties' required', other = plain (.object properties' required' {}) ∧
        bothOr (fun ms others => Members.agreeWith (Members.mapValues agrees ms) others)
          properties properties' = true ∧
        bothOr sameNames required required' = true := by
  obtain ⟨annotations, body⟩ := other
  rw [plain_agrees_iff]
  cases body with
  | object properties' required' k =>
    have hk : ObjectKeywords.agreeWith (ObjectKeywords.map agrees {}) k = true ↔ k = {} :=
      ObjectKeywords.empty_agreeWith_iff
    rw [Body.map, Body.agreeWith, Bool.and_eq_true, Bool.and_eq_true, hk, bothOr_map]
    constructor
    . rintro ⟨rfl, ⟨hproperties, hrequired⟩, rfl⟩
      exact ⟨properties', required', rfl, hproperties, hrequired⟩
    . rintro ⟨_, _, hother, hproperties, hrequired⟩
      cases hother
      exact ⟨rfl, ⟨hproperties, hrequired⟩, rfl⟩
  | _ => simp [Body.map, Body.agreeWith, plain]

/-!
Schemas that agree have the same type and the same nullability.
-/

section Agreeing

variable {s t : JsonSchema} (h : s.agrees t = true)
include h

theorem typeName_eq_of_agrees : s.body.typeName = t.body.typeName := by
  rw [agrees_eq, Bool.and_eq_true] at h
  rw [← Body.typeName_map agrees]
  revert h
  generalize s.body.map agrees = body
  generalize t.body = other
  rintro ⟨-, h⟩
  cases body <;> cases other <;> first | rfl | cases h

theorem isNull_eq_of_agrees : s.isNull = t.isNull := by
  rw [isNull, isNull, Body.isNull_eq, Body.isNull_eq, typeName_eq_of_agrees h]

omit h in
theorem map_isNull_eq_of_agree {members others : List JsonSchema}
    (h : List.Forall₂ (fun s t => s.agrees t = true) members others)
    : members.map isNull = others.map isNull := by
  induction h with
  | nil => rfl
  | cons hagrees _ ih => rw [List.map_cons, List.map_cons, ih, isNull_eq_of_agrees hagrees]

omit h in
theorem exists_members_of_agrees {annotations : Annotations} {members : TwoOrMore JsonSchema}
    (h : agrees ⟨annotations, .union members⟩ t = true)
    : ∃ others, t.body = .union others ∧
      List.Forall₂ (fun s t => s.agrees t = true) members.toList others.toList := by
  obtain ⟨annotations', body⟩ := t
  obtain ⟨others, rfl⟩ := Body.exists_union_of_typeName (typeName_eq_of_agrees h).symm
  rw [agrees_eq, Bool.and_eq_true, Body.map, Body.agreeWith, TwoOrMore.toList_map,
    listAgreesWith_map_iff] at h
  exact ⟨others, rfl, h.2⟩

omit h in
theorem exists_items_of_agrees {annotations : Annotations} {items : Option (BoolOr JsonSchema)}
    {k : ArrayKeywords JsonSchema} (h : agrees ⟨annotations, .array items k⟩ t = true)
    : ∃ items' k', t.body = .array items' k' ∧
      bothOr (fun slot => (slot.map agrees).agreeWith) items items' = true := by
  obtain ⟨annotations', body⟩ := t
  rw [agrees_eq, Bool.and_eq_true] at h
  cases body with
  | array items' k' =>
    rw [Body.map, Body.agreeWith, Bool.and_eq_true, bothOr_map] at h
    exact ⟨items', k', rfl, h.2.1⟩
  | _ => cases h.2

omit h in
theorem exists_object_of_agrees {annotations : Annotations}
    {properties : Option (List (String × JsonSchema))} {required : Option (List String)}
    {k : ObjectKeywords JsonSchema}
    (h : agrees ⟨annotations, .object properties required k⟩ t = true)
    : ∃ properties' required' k', t.body = .object properties' required' k' ∧
      bothOr (fun ms => Members.agreeWith (Members.mapValues agrees ms)) properties properties' =
        true ∧
      bothOr sameNames required required' = true := by
  obtain ⟨annotations', body⟩ := t
  rw [agrees_eq, Bool.and_eq_true] at h
  cases body with
  | object properties' required' k' =>
    rw [Body.map, Body.agreeWith, Bool.and_eq_true, Bool.and_eq_true, bothOr_map] at h
    exact ⟨properties', required', k', rfl, h.2.1⟩
  | _ => cases h.2

omit h in
theorem exists_undeclared_of_agrees {annotations : Annotations} {required : Option (List String)}
    {k : ObjectKeywords JsonSchema} (h : agrees ⟨annotations, .object none required k⟩ t = true)
    : ∃ required' k', t.body = .object none required' k' := by
  obtain ⟨properties', required', k', hbody, hproperties, -⟩ := exists_object_of_agrees h
  obtain rfl := bothOr_none_iff.mp hproperties
  exact ⟨required', k', hbody⟩

omit h in
/--
An object that agrees with one that declares its properties has matching properties, of which it
requires the same ones.
-/
theorem exists_properties_of_agrees {annotations : Annotations}
    {properties : List (String × JsonSchema)} {required : Option (List String)}
    {k : ObjectKeywords JsonSchema} (hnames : (Members.names properties).Nodup)
    (hrequired : ∀ names ∈ required, names.Nodup)
    (h : agrees ⟨annotations, .object (some properties) required k⟩ t = true)
    : ∃ properties' required' k', t.body = .object (some properties') required' k' ∧
      Matched SameProperty properties properties' ∧
      ∀ name, requires required name = requires required' name := by
  obtain ⟨_, required', k', hbody, hproperties, hlisted⟩ := exists_object_of_agrees h
  obtain ⟨properties', rfl, hagree⟩ := bothOr_some_iff.mp hproperties
  exact ⟨properties', required', k', hbody, (Members.agreeWith_iff_matched hnames).mp hagree,
    requires_eq_of_agree hrequired hlisted⟩

theorem ne_union_of_agrees (hs : ∀ members, s.body ≠ .union members)
    : ∀ members, t.body ≠ .union members := by
  intro members hmembers
  have hname := typeName_eq_of_agrees h
  rw [hmembers] at hname
  obtain ⟨list, hlist⟩ := Body.exists_union_of_typeName hname
  exact hs list hlist

theorem side?_eq_of_agrees : s.side? = t.side? := by
  rcases eq_union_or_ne_union s with ⟨annotations, members, rfl⟩ | hunion
  . obtain ⟨others, hothers, hagree⟩ := exists_members_of_agrees h
    unfold side?
    rw [hothers]
    exact TwoOrMore.nullableSide?_congr (map_isNull_eq_of_agree hagree)
  . rw [side?_of_not_union hunion, side?_of_not_union (ne_union_of_agrees h hunion)]

theorem isNullable_eq_of_agrees : s.isNullable = t.isNullable := by
  rcases eq_union_or_ne_union s with ⟨annotations, members, rfl⟩ | hunion
  . obtain ⟨others, hothers, hagree⟩ := exists_members_of_agrees h
    have hany (list : List JsonSchema) : list.any isNull = (list.map isNull).any id := by
      rw [List.any_map]
      rfl
    rw [isNullable_union, isNullable, hothers]
    dsimp only
    rw [hany, hany, map_isNull_eq_of_agree hagree]
  . rw [isNullable_eq_isNull hunion, isNullable_eq_isNull (ne_union_of_agrees h hunion),
      isNull_eq_of_agrees h]

end Agreeing

end JsonSchema

end SchemaBridge
