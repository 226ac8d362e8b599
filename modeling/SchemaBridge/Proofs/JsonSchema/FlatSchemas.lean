import SchemaBridge.Proofs.JsonSchema.FlatRequired
import SchemaBridge.Proofs.JsonSchema.RoundTrip

/-!
This module contains what flattening keeps: names that do not repeat, required names that do not
repeat, and unions that a document can spell. Main statement: `everywhere_flatten`.
-/

namespace SchemaBridge

namespace JsonSchema

namespace FlatObject

variable {o o' : FlatObject}

def RequiredDistinct (o : FlatObject) : Prop :=
  ∀ names ∈ o.required, names.Nodup

theorem RequiredDistinct.unrequire (h : o.RequiredDistinct) (name : String)
    : (o.unrequire name).RequiredDistinct := by
  intro names hnames
  obtain ⟨before, hbefore, rfl⟩ := Option.map_eq_some_iff.mp hnames
  exact (h before hbefore).filter _

theorem RequiredDistinct.require (h : o.RequiredDistinct) (name : String)
    : (o.require name).RequiredDistinct := by
  have hbefore : (o.required.getD []).Nodup := by
    cases hrequired : o.required with
    | none => exact List.nodup_nil
    | some names => exact h names hrequired
  intro names hnames
  obtain rfl := Option.some.inj hnames
  split
  next => exact hbefore
  next hnew =>
    rw [← List.concat_eq_append, List.nodup_concat]
    exact ⟨fun hmem => hnew (List.contains_iff_mem.mpr hmem), hbefore⟩

theorem RequiredDistinct.addLifted {separator parent : String} {parentRequired : Bool}
    {childRequired : Option (List String)} {lifted : List (String × JsonSchema)}
    (ho : o.RequiredDistinct)
    (h : (o.addLifted separator parent parentRequired childRequired lifted
      : Except SchemaError FlatObject) = .ok o')
    : o'.RequiredDistinct := by
  induction lifted generalizing o with
  | nil =>
    obtain rfl : o = o' := Except.ok.inj h
    exact ho
  | cons property rest ih =>
    obtain ⟨name, value⟩ := property
    rw [FlatObject.addLifted] at h
    obtain ⟨added, hadded, hrest⟩ := Success.bind_eq_ok_iff.mp h
    refine ih ?_ hrest
    unfold RequiredDistinct
    rw [required_addProperty hadded]
    split
    . exact ho.require _
    . exact ho

theorem RequiredDistinct.addFlattened {separator : String} {levels : Nat}
    {declared : Option (List String)} {property : String × JsonSchema} (ho : o.RequiredDistinct)
    (h : addFlattened separator levels declared o property = .ok o')
    : o'.RequiredDistinct := by
  obtain ⟨nested, -, h⟩ := Success.bind_eq_ok_iff.mp h
  cases nested with
  | none =>
    unfold RequiredDistinct
    rw [required_addProperty h]
    exact ho
  | some nested => exact (ho.unrequire property.1).addLifted h

theorem RequiredDistinct.flattenProperties {separator : String} {levels : Nat}
    {declared : Option (List String)} {properties : List (String × JsonSchema)}
    (ho : o.RequiredDistinct)
    (h : (flattenProperties separator levels declared o properties
      : Except SchemaError FlatObject) = .ok o')
    : o'.RequiredDistinct := by
  rw [flattenProperties_eq_foldlM] at h
  induction properties generalizing o with
  | nil =>
    obtain rfl : o = o' := Except.ok.inj h
    exact ho
  | cons property rest ih =>
    rw [List.foldlM_cons] at h
    obtain ⟨added, hadded, hrest⟩ := Success.bind_eq_ok_iff.mp h
    exact ih (ho.addFlattened hadded) hrest

end FlatObject

variable {P : JsonSchema → Prop}

theorem everywhere_leaves {levels : Nat} {properties : List (String × JsonSchema)}
    (h : ∀ property ∈ properties, Everywhere Body.subschemas P property.2)
    : ∀ leaf ∈ leaves levels properties, Everywhere Body.subschemas P leaf.schema := by
  induction levels using Nat.strongRecOn generalizing properties with
  | ind levels ih =>
    intro leaf hleaf
    rw [leaves_eq_flatMap] at hleaf
    obtain ⟨property, hproperty, hleaf⟩ := List.mem_flatMap.mp hleaf
    rcases mem_leavesAt_iff.mp hleaf with ⟨-, rfl⟩ | ⟨below, hbelow, inner, hinner, rfl⟩
    . exact h property hproperty
    . obtain ⟨_, first, rest, required, k, levels', rfl, hvalue, rfl⟩ := leavesBelow_eq_some hbelow
      refine ih levels' (Nat.lt_succ_self levels') ?_ inner hinner
      intro other hother
      apply (h property hproperty).child
      rw [hvalue]
      exact Body.parts_subset_subschemas _ (Body.property_mem_parts hother required k)

/--
Nothing but properties and required names is changed, and the values of the properties are schemas
that were there before.
-/
theorem everywhere_flatten {s flat : JsonSchema} {maxDepth : Int} {separator : String}
    (hs : Everywhere Body.subschemas P s)
    (hP : ∀ annotations properties required k (o : FlatObject),
      P ⟨annotations, .object (some properties) required k⟩ → o.properties.names.Nodup →
        ((∀ names ∈ required, names.Nodup) → o.RequiredDistinct) →
          P ⟨annotations, .object (some o.properties) o.required k⟩)
    (h : s.flatten maxDepth separator = .ok flat)
    : Everywhere Body.subschemas P flat := by
  rcases flatten_cases s maxDepth separator with
    ⟨annotations, properties, required, k, rfl, hdepth⟩ | hsame
  . rw [flatten_object separator hdepth] at h
    obtain ⟨o, ho, rfl⟩ := Success.map_eq_ok_iff.mp h
    have hcollects := collects_leaves separator maxDepth.toNat required properties
    rw [ho] at hcollects
    obtain ⟨hproperties, hdistinct⟩ := hcollects.of_ok
    apply Everywhere.intro
    . apply hP _ _ _ _ _ hs.self
      . rw [hproperties]
        exact hdistinct
      . intro hrequired
        exact FlatObject.RequiredDistinct.flattenProperties (o := ⟨[], required⟩) hrequired ho
    . intro c hc
      rcases List.mem_append.mp hc with hc | hc
      . rw [hproperties] at hc
        obtain ⟨entry, hentry, rfl⟩ := List.mem_map.mp hc
        obtain ⟨leaf, hleaf, rfl⟩ := List.mem_map.mp hentry
        refine everywhere_leaves ?_ leaf hleaf
        intro property hproperty
        apply hs.child
        exact Body.parts_subset_subschemas _ (Body.property_mem_parts hproperty required k)
      . exact hs.child (List.mem_append_right _ hc)
  . obtain rfl := Except.ok.inj (hsame.symm.trans h)
    exact hs

section Kept

variable {s flat : JsonSchema} {maxDepth : Int} {separator : String}

theorem namesDistinct_flatten (hnames : s.NamesDistinct)
    (h : s.flatten maxDepth separator = .ok flat)
    : flat.NamesDistinct := by
  refine everywhere_flatten hnames ?_ h
  rintro annotations properties required k o ⟨-, hk⟩ hdistinct -
  refine ⟨?_, hk⟩
  rintro _ ⟨⟩
  exact hdistinct

theorem requiredDistinct_flatten (hrequired : s.RequiredDistinct)
    (h : s.flatten maxDepth separator = .ok flat)
    : flat.RequiredDistinct := by
  refine everywhere_flatten hrequired ?_ h
  intro annotations properties required k o hrequired _ hkept
  exact hkept hrequired

theorem spellable_flatten (hspellable : s.Spellable) (h : s.flatten maxDepth separator = .ok flat)
    : flat.Spellable := by
  refine everywhere_flatten hspellable ?_ h
  intros
  trivial

/--
What a flattened document becomes is read back as it is.
-/
theorem ofJson_toJson_flatten {document : Json} (hs : ofJson document = .ok s)
    (hflat : s.flatten maxDepth separator = .ok flat)
    : ofJson flat.toJson = .ok flat := by
  apply ofJson_toJson_of_spellable
  . exact spellable_flatten (spellable_of_ofJson hs) hflat
  . exact requiredDistinct_flatten (requiredDistinct_of_ofJson hs) hflat

end Kept

end JsonSchema

end SchemaBridge
