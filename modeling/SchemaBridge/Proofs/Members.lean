import Mathlib.Data.List.Induction
import Mathlib.Data.List.Nodup
import SchemaBridge.Members

/-!
This module contains what a look-up finds in lists of named values: in one that is built from
entries, and in one whose names are distinct.
-/

namespace SchemaBridge

namespace Members

universe u v

variable {α : Type u}

@[simp]
theorem names_cons (entry : String × α) (ms : Members α)
    : names (entry :: ms) = entry.1 :: names ms := rfl

theorem names_append (ms ns : Members α) : names (ms ++ ns) = names ms ++ names ns := by
  exact List.map_append

/--
If names are distinct, a name is among those of a selection only if the selection has its bearer.
-/
theorem mem_names_filter_iff {β : Type v} {name : β → String} {p : β → Bool} {xs : List β}
    (hdistinct : (xs.map name).Nodup) {x : β} (hx : x ∈ xs)
    : name x ∈ (xs.filter p).map name ↔ p x = true := by
  rw [List.mem_map]
  constructor
  . rintro ⟨other, hother, hname⟩
    obtain ⟨hmem, hp⟩ := List.mem_filter.mp hother
    obtain rfl := List.inj_on_of_nodup_map hdistinct hmem hx hname
    exact hp
  . intro hp
    exact ⟨x, List.mem_filter.mpr ⟨hx, hp⟩, rfl⟩

/--
The value of the last entry called `name`.
-/
def last? (entries : List (String × α)) (name : String) : Option α :=
  match entries with
  | [] => none
  | (other, value) :: rest => (last? rest name).or (if other = name then some value else none)

@[simp]
theorem last?_nil (name : String) : last? ([] : List (String × α)) name = none := rfl

theorem last?_append (xs ys : List (String × α)) (name : String)
    : last? (xs ++ ys) name = (last? ys name).or (last? xs name) := by
  induction xs with
  | nil => simp
  | cons entry rest ih => simp only [List.cons_append, last?, ih, Option.or_assoc]

theorem last?_flatMap_eq_none {β : Type v} {f : β → List (String × α)} {xs : List β}
    {name : String} (h : ∀ x ∈ xs, last? (f x) name = none)
    : last? (xs.flatMap f) name = none := by
  induction xs with
  | nil => rfl
  | cons x rest ih => simp_all [last?_append]

theorem last?_flatMap {β : Type v} {f : β → List (String × α)} {xs : List β} {name : String}
    {value : Option α} (hmem : ∃ x ∈ xs, last? (f x) name = value)
    (hall : ∀ x ∈ xs, last? (f x) name = value ∨ last? (f x) name = none)
    : last? (xs.flatMap f) name = value := by
  induction xs with
  | nil => simp at hmem
  | cons x rest ih =>
    rw [List.flatMap_cons, last?_append]
    have hx := hall x (by simp)
    have hrest := fun y hy => hall y (List.mem_cons_of_mem x hy)
    -- The last list that has a value for the name decides.
    by_cases hmem' : ∃ y ∈ rest, last? (f y) name = value
    . rw [ih hmem' hrest]
      cases value <;> simp_all
    . have hnone : last? (rest.flatMap f) name = none := by
        apply last?_flatMap_eq_none
        intro y hy
        exact (hrest y hy).resolve_left fun h => hmem' ⟨y, hy, h⟩
      rw [hnone, Option.none_or]
      obtain ⟨y, hy, h⟩ := hmem
      cases hy with
      | head => exact h
      | tail _ hy => exact (hmem' ⟨y, hy, h⟩).elim

theorem get?_ofList (entries : List (String × α)) (name : String)
    : (ofList entries).get? name = last? entries name := by
  -- What was there before an entry counts only where no later entry has the name.
  suffices ∀ ms : Members α,
      get? (entries.foldl (fun ms entry => insert ms entry.1 entry.2) ms) name =
        (last? entries name).or (ms.get? name) by
    simpa [ofList] using this []
  induction entries with
  | nil => simp
  | cons entry rest ih =>
    intro ms
    rw [List.foldl_cons, ih, get?_insert, last?, Option.or_assoc]
    split <;> simp

theorem get?_eq_some_iff {ms : Members α} (h : ms.names.Nodup) {name : String} {value : α}
    : ms.get? name = some value ↔ (name, value) ∈ ms := by
  constructor
  . exact mem_of_get?
  . intro hmem
    induction ms with
    | nil => cases hmem
    | cons entry rest ih =>
      obtain ⟨other, old⟩ := entry
      simp only [names, List.map_cons, List.nodup_cons] at h
      rw [get?_cons]
      cases hmem with
      | head => simp
      | tail _ hmem =>
        have hne : other ≠ name := by
          rintro rfl
          exact h.1 (List.mem_map_of_mem hmem)
        rw [if_neg hne]
        exact ih h.2 hmem

theorem mem_of_mem_insert {ms : Members α} {name : String} {value : α} {entry : String × α}
    (h : entry ∈ ms.insert name value)
    : entry ∈ ms ∨ entry = (name, value) := by
  induction ms with
  | nil => exact .inr (List.mem_singleton.mp h)
  | cons first rest ih =>
    obtain ⟨other, old⟩ := first
    rw [insert] at h
    split at h
    next hname =>
      rcases List.mem_cons.mp h with rfl | h
      . exact .inr (by rw [hname])
      . exact .inl (List.mem_cons_of_mem _ h)
    next =>
      rcases List.mem_cons.mp h with rfl | h
      . exact .inl (by simp)
      . exact (ih h).imp_left (List.mem_cons_of_mem _)

theorem nodup_names_insert {ms : Members α} (h : ms.names.Nodup) (name : String) (value : α)
    : (ms.insert name value).names.Nodup := by
  induction ms with
  | nil => exact List.nodup_singleton name
  | cons first rest ih =>
    obtain ⟨other, old⟩ := first
    obtain ⟨hother, hrest⟩ := List.nodup_cons.mp h
    rw [insert]
    split
    . exact List.nodup_cons.mpr ⟨hother, hrest⟩
    next hname =>
      rw [names, List.map_cons, List.nodup_cons]
      constructor
      . intro hmem
        obtain ⟨entry, hentry, hother'⟩ := List.mem_map.mp hmem
        rcases mem_of_mem_insert hentry with hentry | rfl
        . exact hother (hother' ▸ List.mem_map_of_mem hentry)
        . exact hname hother'.symm
      . exact ih hrest

theorem ofList_concat (entries : List (String × α)) (name : String) (value : α)
    : ofList (entries ++ [(name, value)]) = insert (ofList entries) name value := by
  simp [ofList]

/--
A list that is built from entries has no other entries and repeats no name.
-/
theorem ofList_spec (entries : List (String × α))
    : (ofList entries).names.Nodup ∧ ∀ entry ∈ ofList entries, entry ∈ entries := by
  induction entries using List.reverseRecOn with
  | nil => exact ⟨List.nodup_nil, fun _ h => h⟩
  | append_singleton entries last ih =>
    rw [ofList_concat]
    constructor
    . exact nodup_names_insert ih.1 last.1 last.2
    . intro entry hentry
      rcases mem_of_mem_insert hentry with hentry | rfl
      . exact List.mem_append_left _ (ih.2 entry hentry)
      . exact List.mem_append_right _ (List.mem_singleton.mpr rfl)

theorem insert_eq_self {ms : Members α} {name : String} {value : α}
    (h : ms.get? name = some value)
    : ms.insert name value = ms := by
  induction ms with
  | nil => cases h
  | cons entry rest ih =>
    obtain ⟨other, old⟩ := entry
    rw [get?_cons] at h
    rw [insert]
    split
    next hname =>
      rw [if_pos hname] at h
      rw [Option.some.inj h]
    next hname =>
      rw [if_neg hname] at h
      rw [ih h]

theorem insert_eq_append {ms : Members α} {name : String} (h : ms.get? name = none) (value : α)
    : ms.insert name value = ms ++ [(name, value)] := by
  induction ms with
  | nil => rfl
  | cons entry rest ih =>
    obtain ⟨other, old⟩ := entry
    rw [get?_cons] at h
    split at h
    next => cases h
    next hname =>
      rw [insert, if_neg hname, ih h]
      rfl

theorem get?_append (ms ns : Members α) (name : String)
    : get? (ms ++ ns) name = (ms.get? name).or (ns.get? name) := by
  induction ms with
  | nil => rfl
  | cons entry rest ih =>
    obtain ⟨other, value⟩ := entry
    rw [List.cons_append, get?_cons, get?_cons, ih]
    split <;> rfl

end Members

end SchemaBridge
