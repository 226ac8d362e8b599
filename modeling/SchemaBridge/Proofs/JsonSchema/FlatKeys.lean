import Mathlib.Data.List.Duplicate
import SchemaBridge.Proofs.JsonSchema.FlatLevels

/-!
This module contains what the keys of a flattened object say about the paths that they stand for. A
separator that is one character and stands in no name can be split at again, so that no two keys are
equal. Otherwise a collision names the key of two leaves, without the names above the object in
which they meet. Main definitions: `splitKey`, `SharesKey`. Main statements: `flatten_of_clean`,
`sharesKey_of_flatten`.
-/

namespace SchemaBridge

namespace JsonSchema

/--
The names that a key was joined from.
-/
def splitKey (separator : Char) (key : String) : List String :=
  (key.split separator).toList.map (·.copy)

section Clean

variable {separator : Char}

theorem splitKey_key {leaf : Leaf} (h : ∀ name ∈ leaf.path, separator ∉ name.toList)
    : splitKey separator (leaf.key (String.singleton separator)) = leaf.path := by
  rw [splitKey, Leaf.key, String.toList_split_intercalate h, if_neg leaf.nonempty]

theorem splitKey_leafEntries {ls : List Leaf}
    (h : ∀ leaf ∈ ls, ∀ name ∈ leaf.path, separator ∉ name.toList)
    : (leafEntries (String.singleton separator) ls).map
        (fun entry => (splitKey separator entry.1, entry.2)) =
      ls.map fun leaf => (leaf.path, leaf.schema) := by
  rw [leafEntries, List.map_map]
  apply List.map_congr_left
  intro leaf hleaf
  rw [Function.comp_apply, splitKey_key (h leaf hleaf)]

theorem nodup_names_of_clean {ls : List Leaf} (hpaths : (ls.map Leaf.path).Nodup)
    (h : ∀ leaf ∈ ls, ∀ name ∈ leaf.path, separator ∉ name.toList)
    : (Members.names (leafEntries (String.singleton separator) ls)).Nodup := by
  apply List.Nodup.of_map (splitKey separator)
  have hsplit := congrArg (List.map Prod.fst) (splitKey_leafEntries h)
  rw [List.map_map, List.map_map] at hsplit
  rw [Members.names, List.map_map]
  exact (congrArg List.Nodup hsplit).mpr hpaths

/--
With a separator that stands in no name on the paths to the leaves, flattening succeeds. It gives
one property for each leaf, and its key is split into the names on the path.
-/
theorem flatten_of_clean {s : JsonSchema} {properties : List (String × JsonSchema)}
    {required : Option (List String)} {k : ObjectKeywords JsonSchema} {maxDepth : Int}
    (hnames : s.NamesDistinct) (hbody : s.body = .object (some properties) required k)
    (hdepth : 0 < maxDepth)
    (hclean : ∀ leaf ∈ leaves maxDepth.toNat properties, ∀ name ∈ leaf.path,
      separator ∉ name.toList)
    : ∃ entries required', s.flatten maxDepth (String.singleton separator) =
        .ok ⟨s.annotations, .object (some entries) required' k⟩ ∧
      (Members.names entries).Nodup ∧
      ((leaves maxDepth.toNat properties).map Leaf.path).Nodup ∧
      entries.map (fun entry => (splitKey separator entry.1, entry.2)) =
        (leaves maxDepth.toNat properties).map fun leaf => (leaf.path, leaf.schema) := by
  obtain ⟨annotations, body⟩ := s
  obtain rfl : body = .object (some properties) required k := hbody
  have hpaths : ((leaves maxDepth.toNat properties).map Leaf.path).Nodup :=
    nodup_paths_leaves hnames rfl
  have hdistinct := nodup_names_of_clean hpaths hclean
  obtain ⟨o, ho, hentries⟩ :=
    (collects_leaves _ maxDepth.toNat required properties).exists_ok hdistinct
  refine ⟨o.properties, o.required, ?_, ?_, hpaths, ?_⟩
  . rw [flatten_object _ hdepth, ho]
    rfl
  . rw [hentries]
    exact hdistinct
  . rw [hentries]
    exact splitKey_leafEntries hclean

def label : JsonSchema :=
  plain (.object (some [("", string), ("en", string)]) (some [""]) {})

def product : JsonSchema :=
  plain (.object (some [("", integer), ("label", label)]) (some ["label"]) {})

def productFlat : JsonSchema :=
  plain (.object (some [("", integer), ("label.", string), ("label.en", string)])
    (some ["label."]) {})

/--
Empty names are told apart as well: the key of one that is below another name ends in the separator.
-/
theorem flatten_of_clean_product
    : product.flatten 1 (String.singleton '.') = .ok productFlat ∧
      ["", "label.", "label.en"].map (splitKey '.') = [[""], ["label", ""], ["label", "en"]] := by
  have hflat : product.flatten 1 (String.singleton '.') = .ok productFlat := by rfl
  have hnames : product.NamesDistinct := by decide
  have hclean : ∀ leaf ∈ leaves (1 : Int).toNat [("", integer), ("label", label)],
      ∀ name ∈ leaf.path, '.' ∉ name.toList := by decide
  obtain ⟨entries, required, h, -, -, hsplit⟩ :=
    flatten_of_clean hnames rfl (by decide) hclean
  rw [hflat] at h
  cases h
  exact ⟨hflat, congrArg (List.map Prod.fst) hsplit⟩

end Clean

/--
Two leaves with different paths have the key `key`.
-/
def SharesKey (separator key : String) (ls : List Leaf) : Prop :=
  ∃ x ∈ ls, ∃ y ∈ ls, x.path ≠ y.path ∧ x.key separator = key ∧ y.key separator = key

def leavesUnder (above : List String) (ls : List Leaf) : List Leaf :=
  ls.filter fun leaf => above.isPrefixOf leaf.path

theorem leavesUnder_nil (ls : List Leaf) : leavesUnder [] ls = ls := by
  apply List.filter_eq_self.mpr
  intro leaf _
  rfl

theorem sharesKey_of_duplicate {separator key : String} {ls : List Leaf}
    (hpaths : (ls.map Leaf.path).Nodup)
    (h : List.Duplicate key (Members.names (leafEntries separator ls)))
    : SharesKey separator key ls := by
  rw [Members.names, leafEntries, List.map_map, List.duplicate_iff_sublist,
    List.sublist_map_iff] at h
  obtain ⟨pair, hpair, hkeys⟩ := h
  obtain ⟨x, _, rfl, hxkey, hrest⟩ := List.map_eq_cons_iff.mp hkeys.symm
  obtain ⟨y, _, rfl, hykey, hnil⟩ := List.map_eq_cons_iff.mp hrest
  obtain rfl := List.map_eq_nil_iff.mp hnil
  have hdistinct := hpaths.sublist (hpair.map Leaf.path)
  refine ⟨x, hpair.subset (by simp), y, hpair.subset (by simp), ?_, hxkey, hykey⟩
  simpa using hdistinct

theorem SharesKey.below {separator key name : String} {above : List String} {inner ls : List Leaf}
    (h : SharesKey separator (separator.intercalate (above ++ [key])) (leavesUnder above inner))
    (hsubset : inner.map (Leaf.below name) ⊆ ls)
    : SharesKey separator (separator.intercalate (name :: above ++ [key]))
        (leavesUnder (name :: above) ls) := by
  have hbelow : ∀ leaf ∈ leavesUnder above inner,
      leaf.below name ∈ leavesUnder (name :: above) ls := by
    intro leaf hleaf
    obtain ⟨hmem, habove⟩ := List.mem_filter.mp hleaf
    apply List.mem_filter.mpr
    refine ⟨hsubset (List.mem_map_of_mem hmem), ?_⟩
    simpa [Leaf.below] using habove
  have hkey : separator.intercalate (name :: above ++ [key]) =
      name ++ separator ++ separator.intercalate (above ++ [key]) :=
    String.intercalate_cons_of_ne_nil (by simp)
  obtain ⟨x, hx, y, hy, hpaths, hxkey, hykey⟩ := h
  refine ⟨_, hbelow x hx, _, hbelow y hy, ?_, ?_, ?_⟩
  . simpa [Leaf.below] using hpaths
  . rw [Leaf.key_below, hkey, hxkey]
  . rw [Leaf.key_below, hkey, hykey]

section Collision

variable {separator key : String} {o o' : FlatObject}

theorem properties_addProperty {name : String} {value : JsonSchema}
    (h : (o.addProperty name value : Except SchemaError FlatObject) = .ok o')
    : o'.properties = o.properties ++ [(name, value)] := by
  obtain ⟨-, rfl⟩ := addProperty_eq_ok_iff.mp h
  rfl

theorem duplicate_of_addProperty {name : String} {value : JsonSchema}
    (h : (o.addProperty name value : Except SchemaError FlatObject) = .error (.keyCollision key))
    : List.Duplicate key (Members.names (o.properties ++ [(name, value)])) := by
  obtain ⟨hname, heq⟩ := addProperty_eq_error_iff.mp h
  cases heq
  rw [Members.names_append, List.duplicate_iff_sublist]
  exact (List.singleton_sublist.mpr hname).append (List.Sublist.refl [key])

theorem duplicate_of_addLifted {parent : String} {parentRequired : Bool}
    {childRequired : Option (List String)} {lifted : List (String × JsonSchema)}
    (h : (o.addLifted separator parent parentRequired childRequired lifted
      : Except SchemaError FlatObject) = .error (.keyCollision key))
    : List.Duplicate key
        (Members.names (o.properties ++ lifted.map (lift separator parent))) := by
  induction lifted generalizing o with
  | nil => cases h
  | cons property rest ih =>
    obtain ⟨name, value⟩ := property
    rw [FlatObject.addLifted] at h
    rw [List.map_cons, List.append_cons]
    -- Requiring the joined key leaves the properties as they are.
    have hproperties : (if parentRequired && requires childRequired name
        then o.require (parent ++ separator ++ name) else o).properties = o.properties := by
      split <;> rfl
    rcases Success.bind_eq_error_iff.mp h with h | ⟨added, hadded, h⟩
    . have hduplicate := duplicate_of_addProperty h
      rw [hproperties] at hduplicate
      exact hduplicate.mono_sublist ((List.sublist_append_left _ _).map Prod.fst)
    . have hrest := ih h
      rw [properties_addProperty hadded, hproperties] at hrest
      exact hrest

variable {levels : Nat} {declared : Option (List String)}

theorem duplicate_of_addFlattened {property : String × JsonSchema}
    (h : addFlattened separator levels declared o property = .error (.keyCollision key))
    : flattenNested separator levels property.2 =
        (.error (.keyCollision key) : Except SchemaError (Option FlatObject)) ∨
      List.Duplicate key
        (Members.names (o.properties ++ leafEntries separator (leavesAt levels property))) := by
  cases takesApart separator levels property.2 with
  | whole leaf flat =>
    rw [addFlattened, flat] at h
    rw [leavesAt, leaf]
    exact .inr (duplicate_of_addProperty h)
  | apart below outcome leaves flat collects =>
    rw [addFlattened, flat] at h
    cases outcome with
    | error e =>
      cases h
      exact .inl flat
    | ok nested =>
      rw [leavesAt, leaves, leafEntries_below, ← collects.of_ok.1]
      exact .inr (duplicate_of_addLifted (o := o.unrequire property.1) h)

theorem map_below_subset_leaves {properties : List (String × JsonSchema)}
    {property : String × JsonSchema} {below : List Leaf} (hproperty : property ∈ properties)
    (hbelow : leavesBelow levels property.2 = some below)
    : below.map (Leaf.below property.1) ⊆ leaves levels properties := by
  intro leaf hleaf
  rw [leaves_eq_flatMap]
  refine List.mem_flatMap.mpr ⟨property, hproperty, ?_⟩
  rw [leavesAt, hbelow]
  exact hleaf

/--
A collision comes from one of the nested objects, or else the key is there twice.
-/
theorem duplicate_of_flattenProperties {properties : List (String × JsonSchema)}
    (ho : o.properties.names.Nodup)
    (h : (flattenProperties separator levels declared o properties
      : Except SchemaError FlatObject) = .error (.keyCollision key))
    : (∃ property ∈ properties, flattenNested separator levels property.2 =
        (.error (.keyCollision key) : Except SchemaError (Option FlatObject))) ∨
      List.Duplicate key
        (Members.names (o.properties ++ leafEntries separator (leaves levels properties))) := by
  rw [flattenProperties_eq_foldlM] at h
  induction properties generalizing o with
  | nil => cases h
  | cons property rest ih =>
    rw [List.foldlM_cons] at h
    rw [leafEntries_leaves, List.flatMap_cons, ← leafEntries_leaves, ← List.append_assoc]
    rcases Success.bind_eq_error_iff.mp h with h | ⟨added, hadded, h⟩
    . rcases duplicate_of_addFlattened h with hnested | hduplicate
      . exact .inl ⟨property, List.mem_cons_self, hnested⟩
      . right
        exact hduplicate.mono_sublist ((List.sublist_append_left _ _).map Prod.fst)
    . have hcollects := collects_addFlattened (takesApart separator levels property.2) declared ho
      rw [hadded] at hcollects
      obtain ⟨hproperties, hdistinct⟩ := hcollects.of_ok
      rw [← hproperties] at hdistinct ⊢
      rcases ih hdistinct h with ⟨other, hother, hnested⟩ | hduplicate
      . exact .inl ⟨other, List.mem_cons_of_mem _ hother, hnested⟩
      . exact .inr hduplicate

theorem sharesKey_of_flattenProperties {s : JsonSchema} {properties : List (String × JsonSchema)}
    {required : Option (List String)} {k : ObjectKeywords JsonSchema} (hnames : s.NamesDistinct)
    (hbody : s.body = .object (some properties) required k)
    (h : (flattenProperties separator levels required ⟨[], required⟩ properties
      : Except SchemaError FlatObject) = .error (.keyCollision key))
    : ∃ above, SharesKey separator (separator.intercalate (above ++ [key]))
        (leavesUnder above (leaves levels properties)) := by
  induction s using JsonSchema.induction generalizing properties required k levels with
  | step annotations body ih =>
    obtain rfl : body = .object (some properties) required k := hbody
    rcases duplicate_of_flattenProperties (o := ⟨[], required⟩) List.nodup_nil h with
      ⟨property, hproperty, hnested⟩ | hduplicate
    . cases takesApart separator levels property.2 with
      | whole _ flat => cases flat.symm.trans hnested
      | apart below outcome leaves _ _ =>
        have hsubset := map_below_subset_leaves hproperty leaves
        obtain ⟨_, first, rest, _, _, levels', rfl, hvalue, rfl⟩ := leavesBelow_eq_some leaves
        rw [hvalue] at hnested
        have hmem := Body.parts_subset_subschemas _ (Body.property_mem_parts hproperty required k)
        obtain ⟨above, habove⟩ := ih _ hmem (hnames.child hmem) (by rw [hvalue])
          (Success.map_eq_error_iff.mp hnested)
        exact ⟨property.1 :: above, habove.below hsubset⟩
    . refine ⟨[], ?_⟩
      rw [leavesUnder_nil, List.nil_append, String.intercalate_singleton]
      exact sharesKey_of_duplicate (nodup_paths_leaves hnames rfl) hduplicate

end Collision

/--
A collision is at the key that two leaves have below some object, without the names above it. It is
the whole key if no keys are equal below one property.
-/
theorem sharesKey_of_flatten {s : JsonSchema} {properties : List (String × JsonSchema)}
    {required : Option (List String)} {k : ObjectKeywords JsonSchema} {maxDepth : Int}
    {separator key : String} (hnames : s.NamesDistinct)
    (hbody : s.body = .object (some properties) required k) (hdepth : 0 < maxDepth)
    (h : s.flatten maxDepth separator = .error (.keyCollision key))
    : (∃ above, SharesKey separator (separator.intercalate (above ++ [key]))
        (leavesUnder above (leaves maxDepth.toNat properties))) ∧
      ((∀ property ∈ properties, ∀ below ∈ leavesBelow maxDepth.toNat property.2,
          (Members.names (leafEntries separator below)).Nodup) →
        SharesKey separator key (leaves maxDepth.toNat properties)) := by
  obtain ⟨annotations, body⟩ := s
  obtain rfl : body = .object (some properties) required k := hbody
  rw [flatten_object separator hdepth] at h
  have hcollision := Success.map_eq_error_iff.mp h
  constructor
  . exact sharesKey_of_flattenProperties hnames rfl hcollision
  . intro hbelow
    rcases duplicate_of_flattenProperties (o := ⟨[], required⟩) List.nodup_nil hcollision with
      ⟨property, hproperty, hnested⟩ | hduplicate
    . cases takesApart separator maxDepth.toNat property.2 with
      | whole _ flat => cases flat.symm.trans hnested
      | apart below outcome leaves flat collects =>
        obtain ⟨nested, rfl, -⟩ := collects.exists_ok (hbelow property hproperty below leaves)
        cases flat.symm.trans hnested
    . exact sharesKey_of_duplicate (nodup_paths_leaves hnames rfl) hduplicate

def itemProperties : List (String × JsonSchema) :=
  [("size", object [("unit", string)]), ("size__unit", string)]

def item : JsonSchema :=
  plain (.object (some itemProperties) none {})

theorem sharesKey_of_flatten_item
    : item.flatten 1 "__" = .error (.keyCollision "size__unit") ∧
      SharesKey "__" "size__unit" (leaves 1 itemProperties) := by
  have hnames : item.NamesDistinct := by decide
  have hflat : item.flatten 1 "__" = .error (.keyCollision "size__unit") := by rfl
  have hbelow : ∀ property ∈ itemProperties, ∀ below ∈ leavesBelow 1 property.2,
      (Members.names (leafEntries "__" below)).Nodup := by decide
  exact ⟨hflat, (sharesKey_of_flatten hnames rfl (by decide) hflat).2 hbelow⟩

def catalogProperties : List (String × JsonSchema) :=
  [("item", item)]

def catalog : JsonSchema :=
  plain (.object (some catalogProperties) none {})

/--
The collision inside of the item is not named by a key of the catalog.
-/
theorem not_sharesKey_catalog
    : catalog.flatten 10 "__" = .error (.keyCollision "size__unit") ∧
      (leaves 10 catalogProperties).map (Leaf.key "__") =
        ["item__size__unit", "item__size__unit"] ∧
      ¬ SharesKey "__" "size__unit" (leaves 10 catalogProperties) := by
  have hkeys : (leaves 10 catalogProperties).map (Leaf.key "__") =
      ["item__size__unit", "item__size__unit"] := by rfl
  refine ⟨by rfl, hkeys, ?_⟩
  rintro ⟨x, hx, -, -, -, hkey, -⟩
  have hmem := List.mem_map_of_mem (f := Leaf.key "__") hx
  rw [hkeys, hkey] at hmem
  exact absurd hmem (by decide)

end JsonSchema

end SchemaBridge
