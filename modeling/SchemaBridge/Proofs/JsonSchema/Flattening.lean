import SchemaBridge.JsonSchema.Flatten
import SchemaBridge.Proofs.JsonSchema.Leaves
import SchemaBridge.Proofs.Success

/-!
This module contains the proof that flattening an object gives its leaves, each under the names on
the way to it, and fails where two leaves get one key. Main statement: `flatten_eq_leaves`.
-/

namespace SchemaBridge

namespace JsonSchema

def leafEntries (separator : String) (leaves : List Leaf) : Members JsonSchema :=
  leaves.map fun leaf => (leaf.key separator, leaf.schema)

theorem leafEntries_append (separator : String) (xs ys : List Leaf)
    : leafEntries separator (xs ++ ys) = leafEntries separator xs ++ leafEntries separator ys := by
  exact List.map_append

theorem mem_names_leafEntries {leaf : Leaf} {leaves : List Leaf} (h : leaf ∈ leaves)
    (separator : String)
    : leaf.key separator ∈ Members.names (leafEntries separator leaves) := by
  exact List.mem_map_of_mem (f := Prod.fst) (List.mem_map_of_mem h)

/--
The outcome of collecting entries: an object with them, or a collision if two have one name.
-/
inductive Collects : Except SchemaError FlatObject → Members JsonSchema → Prop where
  | done {o : FlatObject} {entries : Members JsonSchema} (properties : o.properties = entries)
      (distinct : entries.names.Nodup) : Collects (.ok o) entries
  | collision {entries : Members JsonSchema} (key : String) (repeated : ¬ entries.names.Nodup)
      : Collects (.error (.keyCollision key)) entries

theorem Collects.bind {x : Except SchemaError FlatObject} {entries more : Members JsonSchema}
    {f : FlatObject → Except SchemaError FlatObject} (hx : Collects x entries)
    (hf : ∀ o : FlatObject, o.properties.names.Nodup → Collects (f o) (o.properties ++ more))
    : Collects (x >>= f) (entries ++ more) := by
  cases hx with
  | @done o _ properties distinct =>
    subst properties
    exact hf o distinct
  | collision key repeated =>
    apply Collects.collision
    rw [Members.names_append]
    exact fun h => repeated h.of_append_left

theorem Collects.of_ok {o : FlatObject} {entries : Members JsonSchema}
    (h : Collects (.ok o) entries)
    : o.properties = entries ∧ entries.names.Nodup := by
  cases h with
  | done properties distinct => exact ⟨properties, distinct⟩

theorem Collects.exists_ok {x : Except SchemaError FlatObject} {entries : Members JsonSchema}
    (h : Collects x entries) (hdistinct : entries.names.Nodup)
    : ∃ o, x = .ok o ∧ o.properties = entries := by
  cases h with
  | @done o _ properties _ => exact ⟨o, rfl, properties⟩
  | collision key repeated => exact (repeated hdistinct).elim

theorem Collects.exists_error {x : Except SchemaError FlatObject} {entries : Members JsonSchema}
    (h : Collects x entries) (hrepeated : ¬ entries.names.Nodup)
    : ∃ key, x = .error (.keyCollision key) := by
  cases h with
  | done _ distinct => exact (hrepeated distinct).elim
  | collision key _ => exact ⟨key, rfl⟩

theorem addProperty_eq_ok_iff {o o' : FlatObject} {key : String} {value : JsonSchema}
    : (o.addProperty key value : Except SchemaError FlatObject) = .ok o' ↔
      key ∉ o.properties.names ∧ o' = { o with properties := o.properties ++ [(key, value)] } := by
  rw [FlatObject.addProperty, Members.mem_names_iff_contains]
  split
  next h => simp [Success.throw_eq_ok_iff, h]
  next h => simp [Success.pure_eq_ok_iff, h, @eq_comm _ o']

theorem addProperty_eq_error_iff {o : FlatObject} {key : String} {value : JsonSchema}
    {e : SchemaError}
    : (o.addProperty key value : Except SchemaError FlatObject) = .error e ↔
      key ∈ o.properties.names ∧ e = .keyCollision key := by
  rw [FlatObject.addProperty, Members.mem_names_iff_contains]
  split
  next h => simp [Success.throw_eq_error_iff, h, @eq_comm _ e]
  next h => simp [Success.pure_eq_error_iff, h]

theorem collects_addProperty {o : FlatObject} (ho : o.properties.names.Nodup) (key : String)
    (value : JsonSchema)
    : Collects (o.addProperty key value) (o.properties ++ [(key, value)]) := by
  have hdistinct : (Members.names (o.properties ++ [(key, value)])).Nodup ↔
      key ∉ o.properties.names := by
    have hnames : Members.names (o.properties ++ [(key, value)]) =
        o.properties.names.concat key := by
      rw [Members.names_append, List.concat_eq_append]
      rfl
    rw [hnames, List.nodup_concat]
    exact and_iff_left ho
  cases hadded : (o.addProperty key value : Except SchemaError FlatObject) with
  | ok o' =>
    obtain ⟨hkey, rfl⟩ := addProperty_eq_ok_iff.mp hadded
    exact .done rfl (hdistinct.mpr hkey)
  | error e =>
    obtain ⟨hkey, rfl⟩ := addProperty_eq_error_iff.mp hadded
    exact .collision key fun h => hdistinct.mp h hkey

def lift (separator parent : String) (property : String × JsonSchema) : String × JsonSchema :=
  (parent ++ separator ++ property.1, property.2)

theorem names_lift (separator parent : String) (ms : Members JsonSchema)
    : Members.names (ms.map (lift separator parent)) =
      ms.names.map (parent ++ separator ++ ·) := by
  unfold Members.names
  rw [List.map_map, List.map_map]
  rfl

theorem leafEntries_below (separator name : String) (below : List Leaf)
    : leafEntries separator (below.map (Leaf.below name)) =
      (leafEntries separator below).map (lift separator name) := by
  unfold leafEntries
  rw [List.map_map, List.map_map]
  apply List.map_congr_left
  intro leaf _
  exact Prod.ext (leaf.key_below separator name) rfl

theorem collects_addLifted {o : FlatObject} (ho : o.properties.names.Nodup)
    (separator parent : String) (parentRequired : Bool) (childRequired : Option (List String))
    (lifted : List (String × JsonSchema))
    : Collects (o.addLifted separator parent parentRequired childRequired lifted)
        (o.properties ++ lifted.map (lift separator parent)) := by
  induction lifted generalizing o with
  | nil =>
    rw [List.map_nil, List.append_nil]
    exact .done rfl ho
  | cons property rest ih =>
    obtain ⟨name, value⟩ := property
    rw [List.map_cons, List.append_cons, FlatObject.addLifted]
    -- Requiring the joined key leaves the properties as they are.
    refine Collects.bind ?_ ?_
    . split
      . exact collects_addProperty (o := o.require _) ho _ value
      . exact collects_addProperty ho _ value
    . intro o' ho'
      exact ih ho'

/--
Add a property, or in its place the ones below it if it is taken apart.
-/
def addFlattened (separator : String) (levels : Nat) (declared : Option (List String))
    (o : FlatObject) (property : String × JsonSchema) : Except SchemaError FlatObject := do
  match ← flattenNested separator levels property.2 with
  | none => o.addProperty property.1 property.2
  | some nested =>
    (o.unrequire property.1).addLifted separator property.1 (requires declared property.1)
      nested.required nested.properties

theorem flattenProperties_eq_foldlM (separator : String) (levels : Nat)
    (declared : Option (List String)) (o : FlatObject) (properties : List (String × JsonSchema))
    : (flattenProperties separator levels declared o properties : Except SchemaError FlatObject) =
      properties.foldlM (addFlattened separator levels declared) o := by
  induction properties generalizing o with
  | nil => rfl
  | cons property rest ih =>
    obtain ⟨name, value⟩ := property
    rw [flattenProperties, List.foldlM_cons, addFlattened, bind_assoc]
    congr 1
    funext nested
    cases nested with
    | none => simp only [ih]
    | some nested =>
      simp only [ih]
      rfl

/--
Whether a schema is taken apart, and into what.
-/
inductive TakesApart (separator : String) (levels : Nat) (s : JsonSchema) : Prop where
  | whole (leaf : leavesBelow levels s = none)
      (flat : (flattenNested separator levels s : Except SchemaError _) = .ok none)
  | apart (below : List Leaf) (outcome : Except SchemaError FlatObject)
      (leaves : leavesBelow levels s = some below)
      (flat : flattenNested separator levels s = some <$> outcome)
      (collects : Collects outcome (leafEntries separator below))

theorem collects_addFlattened {separator : String} {levels : Nat}
    {property : String × JsonSchema} (h : TakesApart separator levels property.2)
    (declared : Option (List String)) {o : FlatObject} (ho : o.properties.names.Nodup)
    : Collects (addFlattened separator levels declared o property)
        (o.properties ++ leafEntries separator (leavesAt levels property)) := by
  unfold addFlattened leavesAt
  cases h with
  | whole leaf flat =>
    rw [flat, leaf]
    exact collects_addProperty ho property.1 property.2
  | apart below outcome leaves flat collects =>
    rw [flat, leaves, leafEntries_below]
    cases collects with
    | @done nested _ properties distinct =>
      rw [← properties]
      exact collects_addLifted (o := o.unrequire property.1) ho _ _ _ _ _
    | collision key repeated =>
      -- Keys that are equal before the name of the property is joined to them are equal after it.
      apply Collects.collision
      rw [Members.names_append, names_lift]
      exact fun h => repeated (h.of_append_right.of_map _)

theorem collects_flattenProperties {separator : String} {levels : Nat}
    (declared : Option (List String)) {o : FlatObject} {properties : List (String × JsonSchema)}
    (hproperties : ∀ property ∈ properties, TakesApart separator levels property.2)
    (ho : o.properties.names.Nodup)
    : Collects (flattenProperties separator levels declared o properties)
        (o.properties ++ leafEntries separator (leaves levels properties)) := by
  rw [flattenProperties_eq_foldlM, leaves_eq_flatMap]
  induction properties generalizing o with
  | nil =>
    rw [List.flatMap_nil, leafEntries, List.map_nil, List.append_nil]
    exact .done rfl ho
  | cons property rest ih =>
    obtain ⟨hproperty, hrest⟩ := List.forall_mem_cons.mp hproperties
    rw [List.foldlM_cons, List.flatMap_cons, leafEntries_append, ← List.append_assoc]
    refine Collects.bind (collects_addFlattened hproperty declared ho) ?_
    intro o' ho'
    exact ih hrest ho'

theorem takesApart (separator : String) (levels : Nat) (s : JsonSchema)
    : TakesApart separator levels s := by
  induction s using JsonSchema.induction generalizing levels with
  | step annotations body ih =>
    cases body with
    | object properties required k =>
      match properties, levels with
      | none, _ => exact .whole rfl rfl
      | some [], _ => exact .whole rfl rfl
      | some (_ :: _), 0 => exact .whole rfl rfl
      | some (property :: rest), levels + 1 =>
        apply TakesApart.apart _ _ rfl rfl
        apply collects_flattenProperties (o := ⟨[], required⟩) required _ List.nodup_nil
        intro other hother
        have hpart := Body.property_mem_parts hother required k
        exact ih _ (Body.parts_subset_subschemas _ hpart) levels
    | _ => exact .whole rfl rfl

theorem flatten_object {annotations : Annotations} {properties : List (String × JsonSchema)}
    {required : Option (List String)} {k : ObjectKeywords JsonSchema} {maxDepth : Int}
    (separator : String) (hdepth : 0 < maxDepth)
    : flatten ⟨annotations, .object (some properties) required k⟩ maxDepth separator =
      (fun flat : FlatObject => ⟨annotations, .object (some flat.properties) flat.required k⟩) <$>
        (flattenProperties separator maxDepth.toNat required ⟨[], required⟩ properties
          : Except SchemaError FlatObject) := by
  rw [flatten, flattenM, if_pos hdepth]
  rfl

theorem collects_leaves (separator : String) (levels : Nat) (required : Option (List String))
    (properties : List (String × JsonSchema))
    : Collects (flattenProperties separator levels required ⟨[], required⟩ properties)
        (leafEntries separator (leaves levels properties)) := by
  exact collects_flattenProperties required (fun _ _ => takesApart separator levels _)
    List.nodup_nil

theorem object_or_not (s : JsonSchema)
    : (∃ annotations properties required k,
        s = ⟨annotations, .object (some properties) required k⟩) ∨
      ∀ properties required k, s.body ≠ .object (some properties) required k := by
  obtain ⟨annotations, body⟩ := s
  by_cases h : ∃ properties required k, body = .object (some properties) required k
  . obtain ⟨properties, required, k, rfl⟩ := h
    exact .inl ⟨annotations, properties, required, k, rfl⟩
  . exact .inr fun properties required k hbody => h ⟨properties, required, k, hbody⟩

theorem flatten_of_not_object {s : JsonSchema} {maxDepth : Int} (separator : String)
    (h : (∀ properties required k, s.body ≠ .object (some properties) required k) ∨ maxDepth ≤ 0)
    : s.flatten maxDepth separator = .ok s := by
  obtain ⟨annotations, body⟩ := s
  cases body with
  | object properties required k =>
    cases properties with
    | none => rfl
    | some properties =>
      have hdepth := h.resolve_left fun h => h properties required k rfl
      rw [flatten, flattenM, if_neg (Int.not_lt.mpr hdepth)]
      rfl
  | _ => rfl

theorem flatten_cases (s : JsonSchema) (maxDepth : Int) (separator : String)
    : (∃ annotations properties required k,
        s = ⟨annotations, .object (some properties) required k⟩ ∧ 0 < maxDepth) ∨
      s.flatten maxDepth separator = .ok s := by
  rcases object_or_not s with ⟨annotations, properties, required, k, rfl⟩ | hnot
  . rcases Int.lt_or_le 0 maxDepth with hdepth | hdepth
    . exact .inl ⟨annotations, properties, required, k, rfl, hdepth⟩
    . exact .inr (flatten_of_not_object separator (.inr hdepth))
  . exact .inr (flatten_of_not_object separator (.inl hnot))

/--
An object comes out with its leaves as properties and is otherwise as it was but for the required
names, unless two leaves have one key. Everything else comes out unchanged.
-/
theorem flatten_eq_leaves (s : JsonSchema) (maxDepth : Int) (separator : String)
    : (∀ annotations properties required k,
        s = ⟨annotations, .object (some properties) required k⟩ → 0 < maxDepth →
          let entries := leafEntries separator (leaves maxDepth.toNat properties)
          (entries.names.Nodup → ∃ required', s.flatten maxDepth separator =
            .ok ⟨annotations, .object (some entries) required' k⟩) ∧
          (¬ entries.names.Nodup → ∃ key,
            s.flatten maxDepth separator = .error (.keyCollision key))) ∧
      ((∀ properties required k, s.body ≠ .object (some properties) required k) ∨ maxDepth ≤ 0 →
        s.flatten maxDepth separator = .ok s) := by
  constructor
  . rintro annotations properties required k rfl hdepth
    rw [flatten_object separator hdepth]
    have hcollects := collects_leaves separator maxDepth.toNat required properties
    constructor
    . intro hdistinct
      obtain ⟨o, ho, hproperties⟩ := hcollects.exists_ok hdistinct
      rw [ho, ← hproperties]
      exact ⟨o.required, rfl⟩
    . intro hrepeated
      obtain ⟨key, hkey⟩ := hcollects.exists_error hrepeated
      rw [hkey]
      exact ⟨key, rfl⟩
  . exact flatten_of_not_object separator

def customer (key : String) : JsonSchema :=
  plain (.object (some [("address", object [("city", string)]), (key, integer)]) (some [key]) {})

theorem flatten_eq_leaves_customer
    : (∃ required, (customer "id").flatten 1 "__" =
        .ok (plain (.object (some [("address__city", string), ("id", integer)]) required {}))) ∧
      (∃ key, (customer "address__city").flatten 1 "__" = .error (.keyCollision key)) ∧
      string.flatten 1 "__" = .ok string := by
  refine ⟨?_, ?_, ?_⟩
  . apply ((flatten_eq_leaves _ 1 "__").1 _ _ _ _ rfl (by decide)).1
    exact (by simp : ["address__city", "id"].Nodup)
  . apply ((flatten_eq_leaves _ 1 "__").1 _ _ _ _ rfl (by decide)).2
    exact (by simp : ¬ ["address__city", "address__city"].Nodup)
  . apply (flatten_eq_leaves string 1 "__").2
    exact .inl (by simp [string, plain])

end JsonSchema

end SchemaBridge
