import SchemaBridge.Proofs.JsonSchema.Everywhere
import SchemaBridge.Proofs.Members

/-!
This module contains the properties at the end of paths of names in an object: the ones that are
left when nested objects with properties are taken apart on a number of levels. Main definition:
`JsonSchema.leaves`. Main statement: `mem_leaves_iff`.
-/

namespace SchemaBridge

namespace JsonSchema

/--
A property that is not taken apart, with the names on the way to it.
-/
structure Leaf where
  path : List String
  schema : JsonSchema
  nonempty : path ≠ []

namespace Leaf

def own (property : String × JsonSchema) : Leaf :=
  ⟨[property.1], property.2, List.cons_ne_nil _ _⟩

def below (name : String) (leaf : Leaf) : Leaf :=
  ⟨name :: leaf.path, leaf.schema, List.cons_ne_nil _ _⟩

def key (separator : String) (leaf : Leaf) : String :=
  separator.intercalate leaf.path

@[simp]
theorem key_own (separator : String) (property : String × JsonSchema)
    : (own property).key separator = property.1 := by
  exact String.intercalate_singleton

@[simp]
theorem key_below (separator name : String) (leaf : Leaf)
    : (leaf.below name).key separator = name ++ separator ++ leaf.key separator := by
  exact String.intercalate_cons_of_ne_nil leaf.nonempty

end Leaf

mutual

/--
The leaves of a value that is taken apart: of an object with properties, while levels are left.
-/
def leavesBelow (levels : Nat) : JsonSchema → Option (List Leaf)
  | ⟨_, .object (some (property :: rest)) _ _⟩ =>
    match levels with
    | 0 => none
    | levels + 1 => some (leaves levels (property :: rest))
  | _ => none

/--
The leaves of declared properties in the order of the document, where values are taken apart on
`levels` levels.
-/
def leaves (levels : Nat) : List (String × JsonSchema) → List Leaf
  | [] => []
  | (name, value) :: rest =>
    (match leavesBelow levels value with
      | none => [.own (name, value)]
      | some below => below.map (Leaf.below name)) ++ leaves levels rest

end

def leavesAt (levels : Nat) (property : String × JsonSchema) : List Leaf :=
  match leavesBelow levels property.2 with
  | none => [.own property]
  | some below => below.map (Leaf.below property.1)

theorem leaves_eq_flatMap (levels : Nat) (properties : List (String × JsonSchema))
    : leaves levels properties = properties.flatMap (leavesAt levels) := by
  induction properties with
  | nil => rfl
  | cons property rest ih =>
    rw [leaves, ih, List.flatMap_cons]
    rfl

theorem mem_leavesAt_iff {levels : Nat} {property : String × JsonSchema} {leaf : Leaf}
    : leaf ∈ leavesAt levels property ↔
      leavesBelow levels property.2 = none ∧ leaf = .own property ∨
        ∃ below, leavesBelow levels property.2 = some below ∧
          ∃ inner ∈ below, leaf = inner.below property.1 := by
  unfold leavesAt
  cases leavesBelow levels property.2 with
  | none => simp
  | some below => simp [eq_comm]

def hasProperties (s : JsonSchema) : Bool :=
  match s.body with
  | .object (some (_ :: _)) _ _ => true
  | _ => false

theorem leavesBelow_eq_none_iff {levels : Nat} {s : JsonSchema}
    : leavesBelow levels s = none ↔ levels = 0 ∨ s.hasProperties = false := by
  obtain ⟨annotations, body⟩ := s
  cases body with
  | object properties required k =>
    rcases properties with _ | _ | _ <;> cases levels <;> simp [leavesBelow, hasProperties]
  | _ => simp [leavesBelow, hasProperties]

theorem leavesBelow_eq_some {levels : Nat} {s : JsonSchema} {below : List Leaf}
    (h : leavesBelow levels s = some below)
    : ∃ annotations property rest required k levels', levels = levels' + 1 ∧
      s = ⟨annotations, .object (some (property :: rest)) required k⟩ ∧
        below = leaves levels' (property :: rest) := by
  obtain ⟨annotations, body⟩ := s
  cases body with
  | object properties required k =>
    match properties, levels with
    | some (property :: rest), levels + 1 =>
      exact ⟨_, _, _, _, _, _, rfl, rfl, (Option.some.inj h).symm⟩
    | some (_ :: _), 0 => cases h
    | some [], _ => cases h
    | none, _ => cases h
  | _ => cases h

theorem leavesBelow_of_properties {levels : Nat} {s : JsonSchema} {property : String × JsonSchema}
    {rest : List (String × JsonSchema)} {required : Option (List String)}
    {k : ObjectKeywords JsonSchema} (h : s.body = .object (some (property :: rest)) required k)
    : leavesBelow (levels + 1) s = some (leaves levels (property :: rest)) := by
  obtain ⟨annotations, body⟩ := s
  obtain rfl : body = .object (some (property :: rest)) required k := h
  rfl

theorem head?_path_of_mem_leavesAt {levels : Nat} {property : String × JsonSchema} {leaf : Leaf}
    (h : leaf ∈ leavesAt levels property)
    : leaf.path.head? = some property.1 := by
  rcases mem_leavesAt_iff.mp h with ⟨-, rfl⟩ | ⟨below, -, inner, -, rfl⟩
  . rfl
  . rfl

/--
No two leaves have the same path.
-/
theorem nodup_paths_leaves {s : JsonSchema} {properties : List (String × JsonSchema)}
    {required : Option (List String)} {k : ObjectKeywords JsonSchema} {levels : Nat}
    (hnames : s.NamesDistinct) (hbody : s.body = .object (some properties) required k)
    : ((leaves levels properties).map Leaf.path).Nodup := by
  induction s using JsonSchema.induction generalizing properties required k levels with
  | step annotations body ih =>
    obtain rfl : body = .object (some properties) required k := hbody
    have hdistinct : (Members.names properties).Nodup := hnames.self.1 properties rfl
    rw [leaves_eq_flatMap, List.map_flatMap, List.nodup_flatMap]
    constructor
    . intro property hproperty
      cases hbelow : leavesBelow levels property.2 with
      | none => simp [leavesAt, hbelow]
      | some below =>
        obtain ⟨_, first, rest, _, _, levels', rfl, hvalue, rfl⟩ := leavesBelow_eq_some hbelow
        have hmem := Body.parts_subset_subschemas _ (Body.property_mem_parts hproperty required k)
        have hinner : ((leaves levels' (first :: rest)).map Leaf.path).Nodup :=
          ih _ hmem (hnames.child hmem) (by rw [hvalue])
        rw [← List.nodup_map_iff (List.cons_injective (a := property.1)), List.map_map] at hinner
        rw [leavesAt, hbelow, List.map_map]
        exact hinner
    . -- Paths of different properties differ in their first name.
      apply (List.pairwise_map.mp hdistinct).imp
      intro property other hne path hpath hpath'
      obtain ⟨leaf, hleaf, rfl⟩ := List.mem_map.mp hpath
      obtain ⟨leaf', hleaf', heq⟩ := List.mem_map.mp hpath'
      have hhead := head?_path_of_mem_leavesAt hleaf
      rw [← heq, head?_path_of_mem_leavesAt hleaf'] at hhead
      exact hne (Option.some.inj hhead).symm

/-!
The same leaves, without regard to their order: the schemas that paths of names lead to.
-/

def property? (s : JsonSchema) (name : String) : Option JsonSchema :=
  match s.body with
  | .object (some properties) _ _ => Members.get? properties name
  | _ => none

/--
The schema at the end of a path of property names.
-/
def follow? (s : JsonSchema) : List String → Option JsonSchema
  | [] => some s
  | name :: rest => (s.property? name).bind fun value => value.follow? rest

theorem exists_properties_of_follow? {s t : JsonSchema} {name : String} {path : List String}
    (h : s.follow? (name :: path) = some t)
    : ∃ property rest required k, s.body = .object (some (property :: rest)) required k := by
  obtain ⟨value, hvalue, -⟩ := Option.bind_eq_some_iff.mp h
  unfold property? at hvalue
  split at hvalue
  next properties required k hbody =>
    obtain ⟨property, rest, rfl⟩ :=
      List.exists_cons_of_ne_nil (List.ne_nil_of_mem (Members.mem_of_get? hvalue))
    exact ⟨property, rest, required, k, hbody⟩
  next => cases hvalue

/--
Paths end where a value has no properties, and otherwise after `levels + 1` names.
-/
theorem mem_leaves_iff {s : JsonSchema} {properties : List (String × JsonSchema)}
    {required : Option (List String)} {k : ObjectKeywords JsonSchema} {levels : Nat} {leaf : Leaf}
    (hnames : s.NamesDistinct) (hbody : s.body = .object (some properties) required k)
    : leaf ∈ leaves levels properties ↔
      s.follow? leaf.path = some leaf.schema ∧ leaf.path.length ≤ levels + 1 ∧
        (leaf.schema.hasProperties = true → leaf.path.length = levels + 1) := by
  induction s using JsonSchema.induction generalizing properties required k levels leaf with
  | step annotations body ih =>
    obtain rfl : body = .object (some properties) required k := hbody
    have hdistinct : (Members.names properties).Nodup := hnames.self.1 properties rfl
    rw [leaves_eq_flatMap, List.mem_flatMap]
    constructor
    . rintro ⟨property, hproperty, hleaf⟩
      have hget : Members.get? properties property.1 = some property.2 :=
        (Members.get?_eq_some_iff hdistinct).mpr hproperty
      have hmem := Body.parts_subset_subschemas _ (Body.property_mem_parts hproperty required k)
      rcases mem_leavesAt_iff.mp hleaf with ⟨hnone, rfl⟩ | ⟨below, hsome, inner, hinner, rfl⟩
      . refine ⟨?_, ?_, ?_⟩
        . simp [Leaf.own, follow?, property?, hget]
        . exact Nat.succ_le_succ (Nat.zero_le levels)
        . intro hproperties
          rcases leavesBelow_eq_none_iff.mp hnone with rfl | hfalse
          . rfl
          . cases hproperties.symm.trans hfalse
      . obtain ⟨_, _, _, _, _, levels, rfl, hvalue, rfl⟩ := leavesBelow_eq_some hsome
        obtain ⟨hfollow, hlength, hopen⟩ :=
          (ih _ hmem (hnames.child hmem) (by rw [hvalue])).mp hinner
        refine ⟨?_, Nat.succ_le_succ hlength, fun h => congrArg Nat.succ (hopen h)⟩
        rw [Leaf.below, follow?, property?]
        dsimp only
        rw [hget]
        exact hfollow
    . rintro ⟨hfollow, hlength, hopen⟩
      obtain ⟨path, schema, nonempty⟩ := leaf
      obtain ⟨name, rest, rfl⟩ := List.exists_cons_of_ne_nil nonempty
      obtain ⟨value, hget, hfollow⟩ := Option.bind_eq_some_iff.mp hfollow
      have hproperty : (name, value) ∈ properties := Members.mem_of_get? hget
      have hmem := Body.parts_subset_subschemas _ (Body.property_mem_parts hproperty required k)
      refine ⟨(name, value), hproperty, mem_leavesAt_iff.mpr ?_⟩
      cases rest with
      | nil =>
        left
        obtain rfl : value = schema := Option.some.inj hfollow
        refine ⟨leavesBelow_eq_none_iff.mpr ?_, rfl⟩
        cases hproperties : value.hasProperties with
        | false => exact .inr rfl
        | true => exact .inl (Nat.succ.inj (hopen hproperties)).symm
      | cons next rest =>
        right
        have hpositive : levels ≠ 0 := by
          rintro rfl
          exact absurd hlength (by simp)
        obtain ⟨levels, rfl⟩ := Nat.exists_eq_add_one_of_ne_zero hpositive
        obtain ⟨_, _, _, _, hvalue⟩ := exists_properties_of_follow? hfollow
        refine ⟨_, leavesBelow_of_properties hvalue, ⟨next :: rest, schema, nofun⟩, ?_, rfl⟩
        rw [ih value hmem (hnames.child hmem) hvalue]
        exact ⟨hfollow, Nat.le_of_succ_le_succ hlength, fun h => Nat.succ.inj (hopen h)⟩

end JsonSchema

end SchemaBridge
