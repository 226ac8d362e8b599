import SchemaBridge.Proofs.JsonSchema.Flattening

/-!
This module contains what it means to flatten an object in two passes: it has the properties that it
has after one pass on as many levels as the two together. Main definitions:
`JsonSchema.withoutRequired`, `JsonSchema.SameButRequired`. Main statement: `flatten_flatten`.
-/

namespace SchemaBridge

namespace JsonSchema

section Leaves

variable (separator : String)

theorem leavesAt_whole {levels : Nat} {property : String × JsonSchema}
    (h : levels = 0 ∨ property.2.hasProperties = false)
    : leavesAt levels property = [.own property] := by
  rw [leavesAt, leavesBelow_eq_none_iff.mpr h]

theorem leafEntries_own (property : String × JsonSchema)
    : leafEntries separator [.own property] = [property] := by
  rw [leafEntries, List.map_singleton, Leaf.key_own]
  rfl

theorem leafEntries_leaves (levels : Nat) (properties : List (String × JsonSchema))
    : leafEntries separator (leaves levels properties) =
      properties.flatMap fun property => leafEntries separator (leavesAt levels property) := by
  rw [leaves_eq_flatMap]
  exact List.map_flatMap

theorem leafEntries_leavesAt_lift (levels : Nat) (parent : String)
    (property : String × JsonSchema)
    : leafEntries separator (leavesAt levels (lift separator parent property)) =
      (leafEntries separator (leavesAt levels property)).map (lift separator parent) := by
  unfold leavesAt
  dsimp only [lift]
  cases leavesBelow levels property.2 with
  | none => rw [leafEntries_own, leafEntries_own, List.map_singleton, lift]
  | some below =>
    simp only [leafEntries_below, List.map_map]
    apply List.map_congr_left
    intro entry _
    simp [lift, String.append_assoc]

theorem leafEntries_leaves_lift (levels : Nat) (parent : String)
    (properties : List (String × JsonSchema))
    : leafEntries separator (leaves levels (properties.map (lift separator parent))) =
      (leafEntries separator (leaves levels properties)).map (lift separator parent) := by
  simp only [leafEntries_leaves, List.flatMap_map, List.map_flatMap, leafEntries_leavesAt_lift]

theorem leafEntries_leaves_zero (properties : List (String × JsonSchema))
    : leafEntries separator (leaves 0 properties) = properties := by
  simp only [leafEntries_leaves, leavesAt_whole (.inl rfl), leafEntries_own,
    List.flatMap_singleton']

/--
The leaves of the leaves are the leaves further down, under the same keys.
-/
theorem leafEntries_leaves_add (levels further : Nat) (properties : List (String × JsonSchema))
    : leafEntries separator (leaves further (leafEntries separator (leaves levels properties))) =
      leafEntries separator (leaves (levels + further) properties) := by
  induction levels generalizing properties with
  | zero => rw [leafEntries_leaves_zero, Nat.zero_add]
  | succ levels ih =>
    simp only [leafEntries_leaves separator _ properties]
    rw [leafEntries_leaves, List.flatMap_assoc]
    apply List.flatMap_congr
    intro property hproperty
    rw [← leafEntries_leaves, Nat.add_right_comm]
    cases hbelow : leavesBelow (levels + 1) property.2 with
    | none =>
      have hopen := (leavesBelow_eq_none_iff.mp hbelow).resolve_left (Nat.succ_ne_zero levels)
      rw [leavesAt_whole (.inr hopen), leavesAt_whole (.inr hopen), leafEntries_own,
        leafEntries_leaves, List.flatMap_singleton, leavesAt_whole (.inr hopen), leafEntries_own]
    | some below =>
      obtain ⟨_, first, rest, _, _, _, hlevels, hvalue, rfl⟩ := leavesBelow_eq_some hbelow
      obtain rfl := Nat.succ.inj hlevels
      have hfurther : leavesBelow (levels + further + 1) property.2 =
          some (leaves (levels + further) (first :: rest)) :=
        leavesBelow_of_properties (by rw [hvalue])
      simp only [leavesAt, hbelow, hfurther, leafEntries_below, leafEntries_leaves_lift, ih]

end Leaves

def withoutRequired (s : JsonSchema) : JsonSchema :=
  match s.body with
  | .object properties _ k => ⟨s.annotations, .object properties none k⟩
  | _ => s

/--
Two runs give schemas that are the same but for the names that the roots require, or both collide.
-/
inductive SameButRequired
    : Except SchemaError JsonSchema → Except SchemaError JsonSchema → Prop where
  | ok {s t : JsonSchema} (h : s.withoutRequired = t.withoutRequired)
      : SameButRequired (.ok s) (.ok t)
  | collision (key key' : String)
      : SameButRequired (.error (.keyCollision key)) (.error (.keyCollision key'))

theorem sameButRequired_of_collects {x y : Except SchemaError FlatObject}
    {entries : Members JsonSchema} (hx : Collects x entries) (hy : Collects y entries)
    (annotations : Annotations) (k : ObjectKeywords JsonSchema)
    : SameButRequired
        ((fun o => ⟨annotations, .object (some o.properties) o.required k⟩) <$> x)
        ((fun o => ⟨annotations, .object (some o.properties) o.required k⟩) <$> y) := by
  cases hx with
  | @done o _ properties distinct =>
    cases hy with
    | @done o' _ properties' _ =>
      apply SameButRequired.ok
      simp only [withoutRequired, properties, properties']
    | collision key repeated => exact (repeated distinct).elim
  | collision key repeated =>
    cases hy with
    | done _ distinct => exact (repeated distinct).elim
    | collision key' _ => exact .collision key key'

theorem sameButRequired_flatten (s : JsonSchema) (maxDepth : Int) (separator : String)
    : SameButRequired (s.flatten maxDepth separator) (s.flatten maxDepth separator) := by
  rcases flatten_cases s maxDepth separator with
    ⟨annotations, properties, required, k, rfl, hdepth⟩ | hsame
  . rw [flatten_object separator hdepth]
    have hcollects := collects_leaves separator maxDepth.toNat required properties
    exact sameButRequired_of_collects hcollects hcollects annotations k
  . rw [hsame]
    exact .ok rfl

section TwoPasses

variable {levels further : Int} {separator : String}

theorem flatten_flatten_object {annotations : Annotations}
    {properties : List (String × JsonSchema)} {required : Option (List String)}
    {k : ObjectKeywords JsonSchema} {t : JsonSchema} (hlevels : 0 < levels)
    (hfurther : 0 < further)
    (h : flatten ⟨annotations, .object (some properties) required k⟩ levels separator = .ok t)
    : SameButRequired (t.flatten further separator)
        (flatten ⟨annotations, .object (some properties) required k⟩ (levels + further)
          separator) := by
  rw [flatten_object separator hlevels] at h
  obtain ⟨o, ho, rfl⟩ := Success.map_eq_ok_iff.mp h
  have hcollects := collects_leaves separator levels.toNat required properties
  rw [ho] at hcollects
  have hentries : leafEntries separator (leaves further.toNat o.properties) =
      leafEntries separator (leaves (levels + further).toNat properties) := by
    rw [hcollects.of_ok.1, leafEntries_leaves_add, Int.toNat_add (Int.le_of_lt hlevels)
      (Int.le_of_lt hfurther)]
  rw [flatten_object separator hfurther,
    flatten_object separator (Int.add_pos hlevels hfurther)]
  apply sameButRequired_of_collects _ (collects_leaves separator _ _ _)
  rw [← hentries]
  exact collects_leaves separator _ _ _

/--
Flattening twice is flattening once on the levels of both passes: the second pass succeeds exactly
if the single one does, with the same schema but for the required names, and otherwise both fail by
a collision of keys.
-/
theorem flatten_flatten {s t : JsonSchema} (hlevels : 0 ≤ levels) (hfurther : 0 ≤ further)
    (h : s.flatten levels separator = .ok t)
    : SameButRequired (t.flatten further separator) (s.flatten (levels + further) separator) := by
  rcases object_or_not s with ⟨annotations, properties, required, k, rfl⟩ | hnot
  . rcases Int.lt_or_eq_of_le hlevels with hpositive | rfl
    . rcases Int.lt_or_eq_of_le hfurther with hpositive' | rfl
      . exact flatten_flatten_object hpositive hpositive' h
      . rw [flatten_of_not_object separator (.inr (Int.le_refl 0)), Int.add_zero, h]
        exact .ok rfl
    . rw [flatten_of_not_object separator (.inr (Int.le_refl 0))] at h
      obtain rfl := Except.ok.inj h
      rw [Int.zero_add]
      exact sameButRequired_flatten _ further separator
  . rw [flatten_of_not_object separator (.inl hnot)] at h
    obtain rfl := Except.ok.inj h
    rw [flatten_of_not_object separator (.inl hnot), flatten_of_not_object separator (.inl hnot)]
    exact .ok rfl

end TwoPasses

def geo : JsonSchema :=
  plain (.object (some [("lat", number)]) (some ["lat"]) {})

def site (required : List String) : JsonSchema :=
  plain (.object (some [("address", object [("geo", geo)])]) (some required) {})

def siteOnce : JsonSchema :=
  plain (.object (some [("address_geo", geo)]) (some ["address_geo"]) {})

def siteTwice (required : List String) : JsonSchema :=
  plain (.object (some [("address_geo_lat", number)]) (some required) {})

/--
The required names differ: one that is not declared at first is the name of a property that the
second pass takes apart.
-/
theorem flatten_flatten_site
    : (site ["address_geo"]).flatten 1 "_" = .ok siteOnce ∧
      siteOnce.flatten 1 "_" = .ok (siteTwice ["address_geo_lat"]) ∧
      (site ["address_geo"]).flatten 2 "_" = .ok (siteTwice ["address_geo"]) ∧
      SameButRequired (siteOnce.flatten 1 "_") ((site ["address_geo"]).flatten 2 "_") := by
  have hfirst : (site ["address_geo"]).flatten 1 "_" = .ok siteOnce := by rfl
  exact ⟨hfirst, by rfl, by rfl, flatten_flatten (by decide) (by decide) hfirst⟩

end JsonSchema

end SchemaBridge
