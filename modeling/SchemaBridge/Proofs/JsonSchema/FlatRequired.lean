import SchemaBridge.Proofs.JsonSchema.Flattening

/-!
This module contains the names that a flattened object requires. A leaf is required if each name on
the way to it is, provided that its key is not taken for a name that was there before. Main
definitions: `requiresAll`, `KeyApart`. Main statement: `requires_flatten`.
-/

namespace SchemaBridge

namespace JsonSchema

def requiresProperty (s : JsonSchema) (name : String) : Bool :=
  match s.body with
  | .object _ required _ => requires required name
  | _ => false

/--
Each name on a path is required by the object that it is looked up in.
-/
def requiresAll (s : JsonSchema) : List String → Bool
  | [] => true
  | name :: rest =>
    s.requiresProperty name && (s.property? name).any fun value => value.requiresAll rest

/--
The names of the properties that are taken apart.
-/
def openedNames (levels : Nat) (properties : List (String × JsonSchema)) : List String :=
  Members.names (properties.filter fun property => (leavesBelow levels property.2).isSome)

/--
The properties declared after the one called `name`.
-/
def declaredAfter (name : String) (properties : List (String × JsonSchema))
    : List (String × JsonSchema) :=
  (properties.dropWhile fun property => property.1 != name).tail

/--
In no object on a path is the key of the rest of the path a name that a property taken apart later
has as well, or one that is required without being declared.
-/
def KeyApart (separator : String) : Nat → JsonSchema → List String → Prop
  | levels + 1, ⟨_, .object (some properties) required _⟩, name :: next :: rest =>
    separator.intercalate (name :: next :: rest) ∉
        openedNames levels (declaredAfter name properties) ∧
      (requires required (separator.intercalate (name :: next :: rest)) = true →
        separator.intercalate (name :: next :: rest) ∈ Members.names properties) ∧
      ∀ value ∈ Members.get? properties name, KeyApart separator levels value (next :: rest)
  | _, _, _ => True

theorem keyApart_singleton (separator : String) (levels : Nat) (s : JsonSchema) (name : String)
    : KeyApart separator levels s [name] := by
  simp [KeyApart]

theorem requires_unrequire (o : FlatObject) (name key : String)
    : requires (o.unrequire name).required key = true ↔
      requires o.required key = true ∧ key ≠ name := by
  cases hrequired : o.required with
  | none => simp [FlatObject.unrequire, hrequired, requires]
  | some names => simp [FlatObject.unrequire, hrequired, requires]

theorem requires_require (o : FlatObject) (name key : String)
    : requires (o.require name).required key = true ↔
      requires o.required key = true ∨ name = key := by
  have hlist (names : List String)
      : key ∈ (if names.contains name then names else names ++ [name]) ↔
        key ∈ names ∨ name = key := by
    split
    next h =>
      constructor
      . exact .inl
      . rintro (h' | rfl)
        . exact h'
        . exact List.contains_iff_mem.mp h
    next => simp [eq_comm]
  cases hrequired : o.required with
  | none => simp [FlatObject.require, hrequired, requires, eq_comm]
  | some names => simpa [FlatObject.require, hrequired, requires] using hlist names

theorem required_addProperty {o o' : FlatObject} {key : String} {value : JsonSchema}
    (h : (o.addProperty key value : Except SchemaError FlatObject) = .ok o')
    : o'.required = o.required := by
  obtain ⟨-, rfl⟩ := addProperty_eq_ok_iff.mp h
  rfl

section Step

variable {separator : String} {o o' : FlatObject}

theorem requires_addLifted {parent : String} {parentRequired : Bool}
    {childRequired : Option (List String)} {lifted : Members JsonSchema}
    (h : (o.addLifted separator parent parentRequired childRequired lifted
      : Except SchemaError FlatObject) = .ok o') (key : String)
    : requires o'.required key = true ↔ requires o.required key = true ∨
      parentRequired = true ∧ ∃ name ∈ Members.names lifted, requires childRequired name = true ∧
        parent ++ separator ++ name = key := by
  induction lifted generalizing o with
  | nil =>
    obtain rfl : o = o' := Except.ok.inj h
    simp [Members.names]
  | cons property rest ih =>
    obtain ⟨name, value⟩ := property
    rw [FlatObject.addLifted] at h
    obtain ⟨added, hadded, hrest⟩ := Success.bind_eq_ok_iff.mp h
    rw [ih hrest, required_addProperty hadded, Members.names_cons, List.exists_mem_cons_iff]
    split
    next hboth =>
      obtain ⟨hparent, hchild⟩ := Bool.and_eq_true_iff.mp hboth
      simp only [requires_require, hparent, hchild, true_and, or_assoc]
    next hboth =>
      have hnot : ¬ (parentRequired = true ∧ requires childRequired name = true ∧
          parent ++ separator ++ name = key) := fun h => hboth (by simp [h.1, h.2.1])
      rw [and_or_left, or_iff_right hnot]

variable {levels : Nat} {declared : Option (List String)} {property : String × JsonSchema}

theorem required_addFlattened_whole
    (h : addFlattened separator levels declared o property = .ok o')
    (hwhole : leavesBelow levels property.2 = none)
    : o'.required = o.required := by
  cases takesApart separator levels property.2 with
  | whole _ flat =>
    rw [addFlattened, flat] at h
    exact required_addProperty h
  | apart _ _ leaves _ _ => cases hwhole.symm.trans leaves

theorem requires_addFlattened_apart {below : List Leaf}
    (h : addFlattened separator levels declared o property = .ok o')
    (hbelow : leavesBelow levels property.2 = some below)
    : ∃ nested, (flattenNested separator levels property.2 : Except SchemaError _) =
        .ok (some nested) ∧
      nested.properties = leafEntries separator below ∧
      ∀ key, requires o'.required key = true ↔
        requires o.required key = true ∧ key ≠ property.1 ∨
        requires declared property.1 = true ∧ ∃ name ∈ nested.properties.names,
          requires nested.required name = true ∧ property.1 ++ separator ++ name = key := by
  cases takesApart separator levels property.2 with
  | whole leaf _ => cases leaf.symm.trans hbelow
  | apart below' outcome leaves flat collects =>
    obtain rfl : below' = below := Option.some.inj (leaves.symm.trans hbelow)
    rw [addFlattened, flat] at h
    cases outcome with
    | error e => cases h
    | ok nested =>
      refine ⟨nested, flat, collects.of_ok.1, ?_⟩
      intro key
      rw [requires_addLifted h key, requires_unrequire]

/--
A key that a property does not bring in is required after the property as it was before, unless it
is the name of the property and this is taken apart.
-/
theorem requires_addFlattened_of_notMem {key : String}
    (h : addFlattened separator levels declared o property = .ok o')
    (hkey : key ∉ Members.names (leafEntries separator (leavesAt levels property)))
    : requires o'.required key = true ↔
      requires o.required key = true ∧ key ∉ openedNames levels [property] := by
  cases hbelow : leavesBelow levels property.2 with
  | none => simp [required_addFlattened_whole h hbelow, openedNames, hbelow, Members.names]
  | some below =>
    obtain ⟨nested, -, hproperties, hrequires⟩ := requires_addFlattened_apart h hbelow
    rw [leavesAt, hbelow, leafEntries_below, names_lift, ← hproperties, List.mem_map] at hkey
    have hnot : ¬ (requires declared property.1 = true ∧ ∃ name ∈ nested.properties.names,
        requires nested.required name = true ∧ property.1 ++ separator ++ name = key) := by
      rintro ⟨-, name, hname, -, rfl⟩
      exact hkey ⟨name, hname, rfl⟩
    rw [hrequires, or_iff_left hnot]
    simp [openedNames, hbelow, Members.names]

end Step

section Run

variable {separator : String} {levels : Nat} {declared : Option (List String)}
  {properties : List (String × JsonSchema)} {o o' : FlatObject}

theorem openedNames_append (xs ys : List (String × JsonSchema))
    : openedNames levels (xs ++ ys) = openedNames levels xs ++ openedNames levels ys := by
  rw [openedNames, List.filter_append, Members.names_append]
  rfl

theorem openedNames_subset : openedNames levels properties ⊆ Members.names properties := by
  exact (List.filter_sublist.map Prod.fst).subset

theorem requires_foldlM_of_notMem {key : String}
    (h : properties.foldlM (addFlattened separator levels declared) o = .ok o')
    (hkey : key ∉ Members.names (leafEntries separator (leaves levels properties)))
    : requires o'.required key = true ↔
      requires o.required key = true ∧ key ∉ openedNames levels properties := by
  rw [leaves_eq_flatMap] at hkey
  induction properties generalizing o with
  | nil =>
    obtain rfl : o = o' := Except.ok.inj h
    exact (and_iff_left List.not_mem_nil).symm
  | cons property rest ih =>
    rw [List.foldlM_cons] at h
    obtain ⟨added, hadded, hrest⟩ := Success.bind_eq_ok_iff.mp h
    rw [List.flatMap_cons, leafEntries_append, Members.names_append, List.mem_append,
      not_or] at hkey
    rw [ih hrest hkey.2, requires_addFlattened_of_notMem hadded hkey.1, and_assoc, ← not_or,
      ← List.mem_append, ← openedNames_append, List.singleton_append]

theorem mem_leafEntries_of_notMem_openedNames {name : String}
    (hname : name ∈ Members.names properties) (hwhole : name ∉ openedNames levels properties)
    : name ∈ Members.names (leafEntries separator (leaves levels properties)) := by
  obtain ⟨property, hproperty, rfl⟩ := List.mem_map.mp hname
  have hnone : leavesBelow levels property.2 = none := by
    apply Option.not_isSome_iff_eq_none.mp
    intro hsome
    exact hwhole (List.mem_map_of_mem (List.mem_filter.mpr ⟨hproperty, hsome⟩))
  rw [← Leaf.key_own separator property, leaves_eq_flatMap]
  apply mem_names_leafEntries
  exact List.mem_flatMap.mpr ⟨property, hproperty, mem_leavesAt_iff.mpr (.inl ⟨hnone, rfl⟩)⟩

section Split

variable {before after : List (String × JsonSchema)} {property : String × JsonSchema} {key : String}

/--
A key that one property brings in comes from no other property.
-/
theorem notMem_of_split
    (hdistinct : (Members.names (leafEntries separator
      (leaves levels (before ++ property :: after)))).Nodup)
    (hkey : key ∈ Members.names (leafEntries separator (leavesAt levels property)))
    : key ∉ Members.names (leafEntries separator (leaves levels before)) ∧
      key ∉ Members.names (leafEntries separator (leaves levels after)) := by
  simp only [leaves_eq_flatMap, List.flatMap_append, List.flatMap_cons, leafEntries_append,
    Members.names_append] at hdistinct ⊢
  obtain ⟨-, hright, hbefore⟩ := List.nodup_append.mp hdistinct
  obtain ⟨-, -, hafter⟩ := List.nodup_append.mp hright
  constructor
  . intro hmem
    exact hbefore key hmem key (List.mem_append_left _ hkey) rfl
  . intro hmem
    exact hafter key hkey key hmem rfl

/--
Only the property that brings a key in and the ones that are taken apart under that name have to do
with whether the key is required.
-/
theorem requires_foldlM_split
    (h : (before ++ property :: after).foldlM (addFlattened separator levels declared) o = .ok o')
    (hbefore : key ∉ Members.names (leafEntries separator (leaves levels before)))
    (hafter : key ∉ Members.names (leafEntries separator (leaves levels after)))
    : ∃ old new, addFlattened separator levels declared old property = .ok new ∧
      (requires old.required key = true ↔
        requires o.required key = true ∧ key ∉ openedNames levels before) ∧
      (requires o'.required key = true ↔
        requires new.required key = true ∧ key ∉ openedNames levels after) := by
  rw [List.foldlM_append] at h
  obtain ⟨old, hold, h⟩ := Success.bind_eq_ok_iff.mp h
  rw [List.foldlM_cons] at h
  obtain ⟨new, hnew, h⟩ := Success.bind_eq_ok_iff.mp h
  exact ⟨old, new, hnew, requires_foldlM_of_notMem hold hbefore,
    requires_foldlM_of_notMem h hafter⟩

theorem declaredAfter_split (hnames : (Members.names (before ++ property :: after)).Nodup)
    : declaredAfter property.1 (before ++ property :: after) = after := by
  rw [Members.names_append, Members.names_cons, List.nodup_append] at hnames
  have hbefore : ∀ other ∈ before, (other.1 != property.1) = true := by
    intro other hother
    rw [bne_iff_ne]
    exact hnames.2.2 _ (List.mem_map_of_mem hother) _ List.mem_cons_self
  rw [declaredAfter, List.dropWhile_append_of_pos hbefore, List.dropWhile_cons_of_neg (by simp)]
  rfl

end Split

end Run

theorem requiresAll_own {s : JsonSchema} {property : String × JsonSchema}
    (hproperty : s.property? property.1 = some property.2)
    : s.requiresAll (Leaf.own property).path = s.requiresProperty property.1 := by
  simp [Leaf.own, requiresAll, hproperty]

theorem requiresAll_below {s : JsonSchema} {property : String × JsonSchema}
    (hproperty : s.property? property.1 = some property.2) (inner : Leaf)
    : s.requiresAll (inner.below property.1).path =
      (s.requiresProperty property.1 && property.2.requiresAll inner.path) := by
  simp [Leaf.below, requiresAll, hproperty]

theorem KeyApart.of_below {separator : String} {levels : Nat} {s : JsonSchema}
    {properties : List (String × JsonSchema)} {required : Option (List String)}
    {k : ObjectKeywords JsonSchema} {property : String × JsonSchema} {inner : Leaf}
    (h : KeyApart separator (levels + 1) s (inner.below property.1).path)
    (hbody : s.body = .object (some properties) required k)
    (hproperty : Members.get? properties property.1 = some property.2)
    : (inner.below property.1).key separator ∉
        openedNames levels (declaredAfter property.1 properties) ∧
      (requires required ((inner.below property.1).key separator) = true →
        (inner.below property.1).key separator ∈ Members.names properties) ∧
      KeyApart separator levels property.2 inner.path := by
  obtain ⟨annotations, body⟩ := s
  obtain rfl : body = .object (some properties) required k := hbody
  obtain ⟨path, schema, nonempty⟩ := inner
  obtain ⟨name, rest, rfl⟩ := List.exists_cons_of_ne_nil nonempty
  exact ⟨h.1, h.2.1, h.2.2 property.2 hproperty⟩

section OneLevel

variable {separator : String} {levels : Nat} {required : Option (List String)}
  {before after : List (String × JsonSchema)} {property : String × JsonSchema} {flat : FlatObject}

theorem requires_own
    (hflat : (before ++ property :: after).foldlM (addFlattened separator levels required)
      ⟨[], required⟩ = .ok flat)
    (hnames : (Members.names (before ++ property :: after)).Nodup)
    (hwhole : leavesBelow levels property.2 = none)
    : requires flat.required property.1 = requires required property.1 := by
  have hkeys := collects_leaves separator levels required (before ++ property :: after)
  rw [flattenProperties_eq_foldlM, hflat] at hkeys
  have hkey : property.1 ∈ Members.names (leafEntries separator (leavesAt levels property)) := by
    rw [← Leaf.key_own separator property]
    exact mem_names_leafEntries (mem_leavesAt_iff.mpr (.inl ⟨hwhole, rfl⟩)) separator
  obtain ⟨hbefore, hafter⟩ := notMem_of_split hkeys.of_ok.2 hkey
  obtain ⟨old, new, hnew, hold, hrequires⟩ := requires_foldlM_split hflat hbefore hafter
  rw [Members.names_append, Members.names_cons, List.nodup_append] at hnames
  obtain ⟨-, hright, hleft⟩ := hnames
  have hnotBefore : property.1 ∉ openedNames levels before :=
    fun h => hleft _ (openedNames_subset h) _ List.mem_cons_self rfl
  have hnotAfter : property.1 ∉ openedNames levels after :=
    fun h => (List.nodup_cons.mp hright).1 (openedNames_subset h)
  rw [Bool.eq_iff_iff, hrequires, required_addFlattened_whole hnew hwhole, hold,
    and_iff_left hnotBefore, and_iff_left hnotAfter]

/--
What the names required in the end have to do with the ones required in a nested object. A joined
key that was required all along stays required unless a property of that name is taken apart, and it
is not required if that happens later.
-/
theorem requires_below_iff {below : List Leaf} {inner : Leaf}
    (hflat : (before ++ property :: after).foldlM (addFlattened separator levels required)
      ⟨[], required⟩ = .ok flat)
    (hbelow : leavesBelow levels property.2 = some below) (hinner : inner ∈ below)
    : ∃ nested, (flattenNested separator levels property.2 : Except SchemaError _) =
        .ok (some nested) ∧
      (requires flat.required ((inner.below property.1).key separator) = true ↔
        (requires required ((inner.below property.1).key separator) = true ∧
            (inner.below property.1).key separator ∉
              openedNames levels (before ++ [property]) ∨
          requires required property.1 = true ∧
            requires nested.required (inner.key separator) = true) ∧
        (inner.below property.1).key separator ∉ openedNames levels after) := by
  have hkeys := collects_leaves separator levels required (before ++ property :: after)
  rw [flattenProperties_eq_foldlM, hflat] at hkeys
  have hkey : (inner.below property.1).key separator ∈
      Members.names (leafEntries separator (leavesAt levels property)) := by
    apply mem_names_leafEntries
    exact mem_leavesAt_iff.mpr (.inr ⟨below, hbelow, inner, hinner, rfl⟩)
  obtain ⟨hbefore, hafter⟩ := notMem_of_split hkeys.of_ok.2 hkey
  obtain ⟨old, new, hnew, hold, hrequires⟩ := requires_foldlM_split hflat hbefore hafter
  obtain ⟨nested, hnested, hproperties, hadded⟩ := requires_addFlattened_apart hnew hbelow
  have hopened (key : String)
      : key ∉ openedNames levels (before ++ [property]) ↔
        key ∉ openedNames levels before ∧ key ≠ property.1 := by
    simp [openedNames, Members.names, hbelow]
  refine ⟨nested, hnested, ?_⟩
  rw [hrequires, hadded, hold, hopened, and_assoc]
  apply and_congr_left'
  apply or_congr_right
  apply and_congr_right
  intro _
  constructor
  . rintro ⟨name, -, hname, heq⟩
    rw [Leaf.key_below, String.append_right_inj] at heq
    rw [← heq]
    exact hname
  . intro hname
    refine ⟨inner.key separator, ?_, hname, (inner.key_below separator property.1).symm⟩
    rw [hproperties]
    exact List.mem_map_of_mem (List.mem_map_of_mem hinner)

/--
A joined key that was required all along and is a declared name is the name of a property that is
taken apart, for otherwise it would collide with that property.
-/
theorem mem_openedNames_of_declared {key : String}
    (hflat : (before ++ property :: after).foldlM (addFlattened separator levels required)
      ⟨[], required⟩ = .ok flat)
    (hkey : key ∈ Members.names (leafEntries separator (leavesAt levels property)))
    (hopened : (leavesBelow levels property.2).isSome = true)
    (hname : key ∈ Members.names (before ++ property :: after))
    : key ∈ openedNames levels (before ++ [property]) ∨ key ∈ openedNames levels after := by
  have hkeys := collects_leaves separator levels required (before ++ property :: after)
  rw [flattenProperties_eq_foldlM, hflat] at hkeys
  obtain ⟨hbefore, hafter⟩ := notMem_of_split hkeys.of_ok.2 hkey
  rw [openedNames_append, List.mem_append]
  rw [Members.names_append, Members.names_cons, List.mem_append, List.mem_cons] at hname
  rcases hname with hname | rfl | hname
  . left
    left
    by_contra h
    exact hbefore (mem_leafEntries_of_notMem_openedNames hname h)
  . left
    right
    exact List.mem_map_of_mem (List.mem_filter.mpr ⟨List.mem_singleton_self _, hopened⟩)
  . right
    by_contra h
    exact hafter (mem_leafEntries_of_notMem_openedNames hname h)

end OneLevel

theorem requires_flattenProperties {s : JsonSchema} {properties : List (String × JsonSchema)}
    {required : Option (List String)} {k : ObjectKeywords JsonSchema} {separator : String}
    {levels : Nat} {flat : FlatObject} {leaf : Leaf} (hnames : s.NamesDistinct)
    (hbody : s.body = .object (some properties) required k)
    (hflat : (flattenProperties separator levels required ⟨[], required⟩ properties
      : Except SchemaError FlatObject) = .ok flat)
    (hleaf : leaf ∈ leaves levels properties)
    (hapart : KeyApart separator (levels + 1) s leaf.path)
    : requires flat.required (leaf.key separator) = s.requiresAll leaf.path := by
  induction s using JsonSchema.induction generalizing properties required k levels flat leaf with
  | step annotations body ih =>
    obtain rfl : body = .object (some properties) required k := hbody
    have hdistinct : (Members.names properties).Nodup := hnames.self.1 properties rfl
    rw [leaves_eq_flatMap, List.mem_flatMap] at hleaf
    obtain ⟨property, hproperty, hleaf⟩ := hleaf
    have hget : Members.get? properties property.1 = some property.2 :=
      (Members.get?_eq_some_iff hdistinct).mpr hproperty
    obtain ⟨before, after, rfl⟩ := List.append_of_mem hproperty
    rw [flattenProperties_eq_foldlM] at hflat
    rcases mem_leavesAt_iff.mp hleaf with ⟨hnone, rfl⟩ | ⟨below, hsome, inner, hinner, rfl⟩
    . rw [Leaf.key_own, requires_own hflat hdistinct hnone]
      exact (requiresAll_own (s := ⟨annotations, .object (some _) required k⟩) hget).symm
    . obtain ⟨nested, hnested, hrequires⟩ := requires_below_iff hflat hsome hinner
      obtain ⟨hlater, hdeclared, hinnerApart⟩ := hapart.of_below rfl hget
      rw [declaredAfter_split hdistinct] at hlater
      have hnotOld : ¬ (requires required ((inner.below property.1).key separator) = true ∧
          (inner.below property.1).key separator ∉
            openedNames levels (before ++ [property])) := by
        rintro ⟨hrequired, hnot⟩
        have hopened := mem_openedNames_of_declared hflat (mem_names_leafEntries hleaf separator)
          (by rw [hsome]; rfl) (hdeclared hrequired)
        exact hopened.elim hnot hlater
      have hinnerRequires : requires nested.required (inner.key separator) =
          property.2.requiresAll inner.path := by
        obtain ⟨_, _, _, _, _, levels, rfl, hvalue, rfl⟩ := leavesBelow_eq_some hsome
        rw [hvalue] at hnested
        obtain ⟨nested', hflat', hnested'⟩ := Success.map_eq_ok_iff.mp hnested
        obtain rfl := Option.some.inj hnested'
        have hmem := Body.parts_subset_subschemas _ (Body.property_mem_parts hproperty required k)
        exact ih _ hmem (hnames.child hmem) (by rw [hvalue]) hflat' hinner hinnerApart
      rw [Bool.eq_iff_iff, hrequires, or_iff_right hnotOld, and_iff_left hlater,
        requiresAll_below (s := ⟨annotations, .object (some _) required k⟩) hget,
        Bool.and_eq_true, hinnerRequires]
      rfl

/--
A leaf of a flattened object is required exactly if each name on the way to it is.
-/
theorem requires_flatten {s flat : JsonSchema} {properties : List (String × JsonSchema)}
    {required : Option (List String)} {k : ObjectKeywords JsonSchema} {maxDepth : Int}
    {separator : String} {leaf : Leaf} (hnames : s.NamesDistinct)
    (hbody : s.body = .object (some properties) required k) (hdepth : 0 < maxDepth)
    (hflat : s.flatten maxDepth separator = .ok flat)
    (hleaf : leaf ∈ leaves maxDepth.toNat properties)
    (hapart : KeyApart separator (maxDepth.toNat + 1) s leaf.path)
    : flat.requiresProperty (leaf.key separator) = s.requiresAll leaf.path := by
  obtain ⟨annotations, body⟩ := s
  obtain rfl : body = .object (some properties) required k := hbody
  rw [flatten_object separator hdepth] at hflat
  obtain ⟨o, ho, rfl⟩ := Success.map_eq_ok_iff.mp hflat
  exact requires_flattenProperties hnames rfl ho hleaf hapart

/--
A parcel whose address has to name a city, with one further property.
-/
def parcelProperties (other : String) : List (String × JsonSchema) :=
  [("address", plain (.object (some [("city", string)]) (some ["city"]) {})),
    (other, object [("note", string)])]

def parcel (other : String) (required : List String) : JsonSchema :=
  plain (.object (some (parcelProperties other)) (some required) {})

def parcelFlat (other : String) (required : List String) : JsonSchema :=
  plain (.object (some [("address__city", string), (other ++ "__note", string)]) (some required) {})

def parcelCity : Leaf :=
  ⟨["address", "city"], string, nofun⟩

theorem parcelCity_mem (other : String) : parcelCity ∈ leaves 1 (parcelProperties other) := by
  exact List.mem_cons_self

theorem requires_flatten_parcel
    : (parcel "sender" ["address"]).flatten 1 "__" =
        .ok (parcelFlat "sender" ["address__city"]) ∧
      (parcelFlat "sender" ["address__city"]).requiresProperty "address__city" = true := by
  have hnames : (parcel "sender" ["address"]).NamesDistinct := by decide
  have hflat : (parcel "sender" ["address"]).flatten 1 "__" =
      .ok (parcelFlat "sender" ["address__city"]) := by rfl
  have hapart : KeyApart "__" 2 (parcel "sender" ["address"]) parcelCity.path := by
    refine ⟨?_, nofun, fun value _ => keyApart_singleton _ _ value _⟩
    exact (by decide : "address__city" ∉ ["sender"])
  exact ⟨hflat, requires_flatten hnames rfl (by decide) hflat (parcelCity_mem "sender") hapart⟩

/--
A joined key is not required where a later property of the same name is taken apart, and it is
required, though its property is not, where the name was required without being declared.
-/
theorem not_requires_flatten_parcel
    : (∀ other, parcelCity ∈ leaves 1 (parcelProperties other)) ∧
      (∃ flat : JsonSchema, (parcel "address__city" ["address"]).flatten 1 "__" = .ok flat ∧
        flat.requiresProperty (parcelCity.key "__") = false ∧
        (parcel "address__city" ["address"]).requiresAll parcelCity.path = true) ∧
      (∃ flat : JsonSchema, (parcel "sender" ["address__city"]).flatten 1 "__" = .ok flat ∧
        flat.requiresProperty (parcelCity.key "__") = true ∧
        (parcel "sender" ["address__city"]).requiresAll parcelCity.path = false) := by
  refine ⟨parcelCity_mem, ?_, ?_⟩
  . exact ⟨parcelFlat "address__city" [], by rfl, by decide, by decide⟩
  . exact ⟨parcelFlat "sender" ["address__city"], by rfl, by decide, by decide⟩

end JsonSchema

end SchemaBridge
