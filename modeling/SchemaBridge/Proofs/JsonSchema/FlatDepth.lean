import Mathlib.Order.Bounds.Basic
import SchemaBridge.Proofs.JsonSchema.FlatLevels
import SchemaBridge.Proofs.JsonSchema.FlatSchemas

/-!
This module contains how deep objects with properties stand one in another. Flattening on that many
levels leaves no further one to take apart, so that neither more levels nor a second pass change
anything. Main definition: `JsonSchema.openDepth`. Main statement: `flatten_saturates`.
-/

namespace SchemaBridge

namespace JsonSchema

mutual

/--
How many objects with properties stand one in another, counting the schema itself.
-/
def openHeight : JsonSchema → Nat
  | ⟨_, .object (some (property :: rest)) _ _⟩ => deepest (property :: rest) + 1
  | _ => 0

def deepest : List (String × JsonSchema) → Nat
  | [] => 0
  | (_, value) :: rest => max value.openHeight (deepest rest)

end

/--
How many objects with properties stand one in another below a schema.
-/
def openDepth (s : JsonSchema) : Nat :=
  match s.body with
  | .object (some properties) _ _ => deepest properties
  | _ => 0

/--
Each name on a path leads to an object with properties.
-/
def opensAll (s : JsonSchema) : List String → Bool
  | [] => true
  | name :: rest => (s.property? name).any fun value => value.hasProperties && value.opensAll rest

theorem deepest_le_iff {properties : List (String × JsonSchema)} {levels : Nat}
    : deepest properties ≤ levels ↔ ∀ property ∈ properties, property.2.openHeight ≤ levels := by
  induction properties with
  | nil => simp [deepest]
  | cons property rest ih => rw [deepest, Nat.max_le, ih, List.forall_mem_cons]

theorem exists_deepest {properties : List (String × JsonSchema)} (h : deepest properties ≠ 0)
    : ∃ property ∈ properties, property.2.openHeight = deepest properties := by
  induction properties with
  | nil => exact (h rfl).elim
  | cons property rest ih =>
    rw [deepest] at h ⊢
    rcases Nat.le_total (deepest rest) property.2.openHeight with hle | hle
    . exact ⟨property, List.mem_cons_self, (Nat.max_eq_left hle).symm⟩
    . rw [Nat.max_eq_right hle] at h ⊢
      obtain ⟨deep, hdeep, hheight⟩ := ih h
      exact ⟨deep, List.mem_cons_of_mem _ hdeep, hheight⟩

theorem openHeight_of_hasProperties {s : JsonSchema} (h : s.hasProperties = true)
    : s.openHeight = s.openDepth + 1 := by
  obtain ⟨annotations, body⟩ := s
  cases body with
  | object properties required k =>
    rcases properties with _ | _ | _
    . cases h
    . cases h
    . rfl
  | _ => cases h

theorem openHeight_eq_zero_iff {s : JsonSchema} : s.openHeight = 0 ↔ s.hasProperties = false := by
  obtain ⟨annotations, body⟩ := s
  cases body with
  | object properties required k =>
    rcases properties with _ | _ | _ <;> simp [openHeight, hasProperties]
  | _ => simp [openHeight, hasProperties]

/-!
The depth is the length of the longest path that leads through objects with properties only.
-/

theorem length_le_openDepth {s : JsonSchema} {path : List String} (h : s.opensAll path = true)
    : path.length ≤ s.openDepth := by
  induction path generalizing s with
  | nil => exact Nat.zero_le _
  | cons name rest ih =>
    obtain ⟨value, hvalue, h⟩ := (Option.any_eq_true _ _).mp h
    obtain ⟨hproperties, hrest⟩ := Bool.and_eq_true_iff.mp h
    have hlength := ih hrest
    unfold property? at hvalue
    split at hvalue
    next properties required k hbody =>
      have hheight := deepest_le_iff.mp (Nat.le_refl _) _ (Members.mem_of_get? hvalue)
      rw [openHeight_of_hasProperties hproperties] at hheight
      rw [openDepth, hbody]
      exact Nat.le_trans (Nat.succ_le_succ hlength) hheight
    next => cases hvalue

theorem exists_opensAll {s : JsonSchema} (hnames : s.NamesDistinct)
    : ∃ path, s.opensAll path = true ∧ path.length = s.openDepth := by
  induction s using JsonSchema.induction with
  | step annotations body ih =>
    by_cases hdepth : openDepth ⟨annotations, body⟩ = 0
    . exact ⟨[], rfl, hdepth.symm⟩
    . cases body with
      | object properties required k =>
        cases properties with
        | none => exact (hdepth rfl).elim
        | some properties =>
          obtain ⟨property, hproperty, hheight⟩ := exists_deepest hdepth
          have hmem := Body.parts_subset_subschemas _ (Body.property_mem_parts hproperty required k)
          obtain ⟨path, hpath, hlength⟩ := ih _ hmem (hnames.child hmem)
          have hget : Members.get? properties property.1 = some property.2 :=
            (Members.get?_eq_some_iff (hnames.self.1 properties rfl)).mpr hproperty
          have hopen : property.2.hasProperties = true := by
            rw [← Bool.not_eq_false, ← openHeight_eq_zero_iff, hheight]
            exact hdepth
          refine ⟨property.1 :: path, ?_, ?_⟩
          . simp [opensAll, property?, hget, hopen, hpath]
          . rw [List.length_cons, hlength, ← openHeight_of_hasProperties hopen, hheight]
            rfl
      | _ => exact (hdepth rfl).elim

theorem isGreatest_openDepth {s : JsonSchema} (hnames : s.NamesDistinct)
    : IsGreatest {n | ∃ path, s.opensAll path = true ∧ path.length = n} s.openDepth := by
  refine ⟨exists_opensAll hnames, ?_⟩
  rintro _ ⟨path, hpath, rfl⟩
  exact length_le_openDepth hpath

section Levels

variable {separator : String} {levels levels' : Nat}

theorem flattenProperties_congr {properties : List (String × JsonSchema)}
    (h : ∀ property ∈ properties, (flattenNested separator levels property.2
      : Except SchemaError (Option FlatObject)) = flattenNested separator levels' property.2)
    (declared : Option (List String)) (o : FlatObject)
    : (flattenProperties separator levels declared o properties : Except SchemaError FlatObject) =
      flattenProperties separator levels' declared o properties := by
  rw [flattenProperties_eq_foldlM, flattenProperties_eq_foldlM]
  induction properties generalizing o with
  | nil => rfl
  | cons property rest ih =>
    obtain ⟨hproperty, hrest⟩ := List.forall_mem_cons.mp h
    rw [List.foldlM_cons, List.foldlM_cons, addFlattened, addFlattened, hproperty]
    congr 1
    funext added
    exact ih hrest added

theorem flattenNested_congr {s : JsonSchema} (h : s.openHeight ≤ levels)
    (h' : s.openHeight ≤ levels')
    : (flattenNested separator levels s : Except SchemaError (Option FlatObject)) =
      flattenNested separator levels' s := by
  induction s using JsonSchema.induction generalizing levels levels' with
  | step annotations body ih =>
    cases body with
    | object properties required k =>
      match properties, levels, levels' with
      | none, _, _ => rfl
      | some [], _, _ => rfl
      | some (_ :: _), 0, _ => cases h
      | some (_ :: _), _, 0 => cases h'
      | some (property :: rest), levels + 1, levels' + 1 =>
        have hlevels := deepest_le_iff.mp (Nat.le_of_succ_le_succ h)
        have hlevels' := deepest_le_iff.mp (Nat.le_of_succ_le_succ h')
        rw [flattenNested, flattenNested, flattenProperties_congr]
        intro other hother
        have hpart := Body.property_mem_parts hother required k
        exact ih _ (Body.parts_subset_subschemas _ hpart) (hlevels _ hother) (hlevels' _ hother)
    | _ => rfl

theorem hasProperties_of_mem_leaves {properties : List (String × JsonSchema)} {leaf : Leaf}
    (h : deepest properties ≤ levels) (hleaf : leaf ∈ leaves levels properties)
    : leaf.schema.hasProperties = false := by
  induction levels generalizing properties leaf with
  | zero =>
    rw [leaves_eq_flatMap] at hleaf
    obtain ⟨property, hproperty, hleaf⟩ := List.mem_flatMap.mp hleaf
    rw [leavesAt_whole (.inl rfl), List.mem_singleton] at hleaf
    rw [hleaf]
    exact openHeight_eq_zero_iff.mp (Nat.le_zero.mp (deepest_le_iff.mp h property hproperty))
  | succ levels ih =>
    rw [leaves_eq_flatMap] at hleaf
    obtain ⟨property, hproperty, hleaf⟩ := List.mem_flatMap.mp hleaf
    rcases mem_leavesAt_iff.mp hleaf with ⟨hnone, rfl⟩ | ⟨below, hsome, inner, hinner, rfl⟩
    . exact (leavesBelow_eq_none_iff.mp hnone).resolve_left (Nat.succ_ne_zero levels)
    . obtain ⟨_, _, _, _, _, _, hlevels, hvalue, rfl⟩ := leavesBelow_eq_some hsome
      obtain rfl := Nat.succ.inj hlevels
      have hheight := deepest_le_iff.mp h property hproperty
      rw [hvalue] at hheight
      have hclosed := ih (Nat.le_of_succ_le_succ hheight) hinner
      exact hclosed

end Levels

section Runs

variable {s flat : JsonSchema} {maxDepth maxDepth' : Int} {separator : String}

theorem flattenNested_whole {levels : Nat} (h : s.hasProperties = false)
    : (flattenNested separator levels s : Except SchemaError (Option FlatObject)) = .ok none := by
  cases takesApart separator levels s with
  | whole _ flat => exact flat
  | apart _ _ leaves => cases leaves.symm.trans (leavesBelow_eq_none_iff.mpr (.inr h))

theorem addFlattened_whole {levels : Nat} {declared : Option (List String)}
    {property : String × JsonSchema} {o : FlatObject} (h : property.2.hasProperties = false)
    (hname : property.1 ∉ o.properties.names)
    : addFlattened separator levels declared o property =
      .ok { o with properties := o.properties ++ [property] } := by
  rw [addFlattened, flattenNested_whole h]
  exact addProperty_eq_ok_iff.mpr ⟨hname, rfl⟩

/--
Properties that are not taken apart are added as they are, and the required names stay.
-/
theorem flattenProperties_whole {levels : Nat} {declared : Option (List String)}
    {properties : List (String × JsonSchema)} {o : FlatObject}
    (hwhole : ∀ property ∈ properties, property.2.hasProperties = false)
    (hdistinct : (Members.names (o.properties ++ properties)).Nodup)
    : (flattenProperties separator levels declared o properties : Except SchemaError FlatObject) =
      .ok { o with properties := o.properties ++ properties } := by
  rw [flattenProperties_eq_foldlM]
  induction properties generalizing o with
  | nil =>
    rw [List.append_nil]
    rfl
  | cons property rest ih =>
    obtain ⟨hproperty, hrest⟩ := List.forall_mem_cons.mp hwhole
    have hname : property.1 ∉ o.properties.names := by
      intro hname
      rw [Members.names_append, List.nodup_append] at hdistinct
      exact hdistinct.2.2 _ hname _ List.mem_cons_self rfl
    rw [List.append_cons] at hdistinct ⊢
    rw [List.foldlM_cons, addFlattened_whole hproperty hname]
    exact ih hrest hdistinct

/--
A schema without objects to take apart is what it is flattened to, on any number of levels.
-/
theorem flatten_of_openDepth_eq_zero (hnames : s.NamesDistinct) (h : s.openDepth = 0)
    (maxDepth : Int) (separator : String)
    : s.flatten maxDepth separator = .ok s := by
  rcases flatten_cases s maxDepth separator with
    ⟨annotations, properties, required, k, rfl, hdepth⟩ | hsame
  . have hwhole : ∀ property ∈ properties, property.2.hasProperties = false := by
      intro property hproperty
      have hheight := deepest_le_iff.mp (Nat.le_of_eq h) property hproperty
      exact openHeight_eq_zero_iff.mp (Nat.le_zero.mp hheight)
    rw [flatten_object separator hdepth,
      flattenProperties_whole hwhole (o := ⟨[], required⟩) (hnames.self.1 properties rfl)]
    rfl
  . exact hsame

theorem openDepth_flatten (hdepth : s.openDepth ≤ maxDepth)
    (h : s.flatten maxDepth separator = .ok flat)
    : flat.openDepth = 0 := by
  rcases object_or_not s with ⟨annotations, properties, required, k, rfl⟩ | hnot
  . rcases Int.lt_or_le 0 maxDepth with hpositive | hnegative
    . rw [flatten_object separator hpositive] at h
      obtain ⟨o, ho, rfl⟩ := Success.map_eq_ok_iff.mp h
      have hcollects := collects_leaves separator maxDepth.toNat required properties
      rw [ho] at hcollects
      have hlevels : deepest properties ≤ maxDepth.toNat := Int.toNat_le_toNat hdepth
      apply Nat.le_zero.mp
      apply deepest_le_iff.mpr
      rw [hcollects.of_ok.1]
      intro property hproperty
      obtain ⟨leaf, hleaf, rfl⟩ := List.mem_map.mp hproperty
      exact Nat.le_zero.mpr (openHeight_eq_zero_iff.mpr (hasProperties_of_mem_leaves hlevels hleaf))
    . rw [flatten_of_not_object separator (.inr hnegative)] at h
      obtain rfl := Except.ok.inj h
      omega
  . rw [flatten_of_not_object separator (.inl hnot)] at h
    obtain rfl := Except.ok.inj h
    unfold openDepth
    split
    next properties required k hbody => exact (hnot properties required k hbody).elim
    next => rfl

theorem flatten_eq_of_openDepth_le (hnames : s.NamesDistinct) (hdepth : s.openDepth ≤ maxDepth)
    (hdepth' : s.openDepth ≤ maxDepth')
    : s.flatten maxDepth separator = s.flatten maxDepth' separator := by
  by_cases hzero : s.openDepth = 0
  . rw [flatten_of_openDepth_eq_zero hnames hzero, flatten_of_openDepth_eq_zero hnames hzero]
  . rcases object_or_not s with ⟨annotations, properties, required, k, rfl⟩ | hnot
    . have hpositive : 0 < maxDepth := by omega
      have hpositive' : 0 < maxDepth' := by omega
      rw [flatten_object separator hpositive, flatten_object separator hpositive',
        flattenProperties_congr]
      intro property hproperty
      apply flattenNested_congr
      . exact deepest_le_iff.mp (Int.toNat_le_toNat hdepth) property hproperty
      . exact deepest_le_iff.mp (Int.toNat_le_toNat hdepth') property hproperty
    . rw [flatten_of_not_object separator (.inl hnot), flatten_of_not_object separator (.inl hnot)]

end Runs

/--
On as many levels as there are, flattening gives what it gives on any more of them, and what comes
out stays as it is on any number of levels and with any separator.
-/
theorem flatten_saturates {s : JsonSchema} (hnames : s.NamesDistinct) (separator : String)
    : IsGreatest {n | ∃ path, s.opensAll path = true ∧ path.length = n} s.openDepth ∧
      ∀ maxDepth maxDepth' : Int, s.openDepth ≤ maxDepth → s.openDepth ≤ maxDepth' →
        s.flatten maxDepth separator = s.flatten maxDepth' separator ∧
        ∀ flat, s.flatten maxDepth separator = .ok flat →
          ∀ further separator', flat.flatten further separator' = .ok flat := by
  refine ⟨isGreatest_openDepth hnames, ?_⟩
  intro maxDepth maxDepth' hdepth hdepth'
  constructor
  . exact flatten_eq_of_openDepth_le hnames hdepth hdepth'
  . intro flat hflat further separator'
    apply flatten_of_openDepth_eq_zero
    . exact namesDistinct_flatten hnames hflat
    . exact openDepth_flatten hdepth hflat

def place : JsonSchema :=
  plain (.object (some [("row", integer), ("notes", object [])]) (some ["row"]) {})

def shelf : JsonSchema :=
  plain (.object (some [("place", place)]) (some ["place"]) {})

def store (properties : List (String × JsonSchema)) (required : String) : JsonSchema :=
  plain (.object (some (properties ++ [("labels", array (object [("text", string)]))]))
    (some [required]) {})

def storeFlat : JsonSchema :=
  store [("shelf.place.row", integer), ("shelf.place.notes", object [])] "shelf.place.row"

/--
An object without properties and an array of objects are not taken apart.
-/
theorem flatten_saturates_store
    : (store [("shelf", shelf)] "shelf").NamesDistinct ∧
      (store [("shelf", shelf)] "shelf").openDepth = 2 ∧
      (store [("shelf", shelf)] "shelf").flatten 10 "." = .ok storeFlat ∧
      storeFlat.flatten 3 "_" = .ok storeFlat := by
  have hnames : (store [("shelf", shelf)] "shelf").NamesDistinct := by decide
  have hdepth : (store [("shelf", shelf)] "shelf").openDepth = 2 := by rfl
  have hflat : (store [("shelf", shelf)] "shelf").flatten 2 "." = .ok storeFlat := by rfl
  obtain ⟨hsame, hfixed⟩ := (flatten_saturates hnames ".").2 2 10 (by decide) (by decide)
  exact ⟨hnames, hdepth, hsame.symm.trans hflat, hfixed storeFlat hflat 3 "_"⟩

end JsonSchema

end SchemaBridge
