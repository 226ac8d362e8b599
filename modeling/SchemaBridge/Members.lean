/-!
This module contains the ordered name-to-value lists that hold the members of JSON objects, the
properties of object schemas and the metadata of fields. A list has at most one entry per name when
it is built by `insert`; the entries keep the order in which their names first came.
-/

namespace SchemaBridge

universe u v

/--
Named values in insertion order.
-/
abbrev Members (α : Type u) := List (String × α)

namespace Members

variable {α : Type u} {β : Type v}

/--
The value of the first entry called `name`.
-/
def get? (ms : Members α) (name : String) : Option α :=
  match ms with
  | [] => none
  | (other, value) :: rest => if other = name then some value else get? rest name

def contains (ms : Members α) (name : String) : Bool :=
  (ms.get? name).isSome

def names (ms : Members α) : List String :=
  ms.map Prod.fst

/--
Give `name` the value `value`: an entry of that name keeps its place, a new one goes to the end.
-/
def insert (ms : Members α) (name : String) (value : α) : Members α :=
  match ms with
  | [] => [(name, value)]
  | (other, old) :: rest =>
    if other = name then (other, value) :: rest else (other, old) :: insert rest name value

/--
Insert the entries one after the other, so a repeated name keeps its first place and its last
value.
-/
def ofList (entries : List (String × α)) : Members α :=
  entries.foldl (fun ms entry => insert ms entry.1 entry.2) []

def mapValues (f : α → β) (ms : Members α) : Members β :=
  ms.map fun entry => (entry.1, f entry.2)

/--
Every entry of `ms` finds its name in `others` and accepts the value there, and the lists are
equally long: for lists without repeated names this is a comparison without order.
-/
def agreeWith (ms : Members (α → Bool)) (others : Members α) : Bool :=
  ms.length == others.length &&
    ms.all fun entry => (get? others entry.1).any entry.2

@[simp]
theorem get?_nil (name : String) : get? ([] : Members α) name = none := rfl

theorem get?_cons (other : String) (value : α) (rest : Members α) (name : String)
    : get? ((other, value) :: rest) name = if other = name then some value else get? rest name :=
  rfl

theorem mem_of_get? {ms : Members α} {name : String} {value : α} (h : ms.get? name = some value)
    : (name, value) ∈ ms := by
  induction ms with
  | nil => simp at h
  | cons entry rest ih =>
    obtain ⟨other, old⟩ := entry
    rw [get?_cons] at h
    split at h
    . simp_all
    . exact List.mem_cons_of_mem _ (ih h)

@[simp]
theorem names_mapValues (f : α → β) (ms : Members α) : (ms.mapValues f).names = ms.names := by
  simp [names, mapValues]

theorem get?_insert (ms : Members α) (name : String) (value : α) (other : String)
    : (ms.insert name value).get? other = if name = other then some value else ms.get? other := by
  induction ms with
  | nil => simp [insert, get?_cons]
  | cons entry rest ih =>
    obtain ⟨first, old⟩ := entry
    by_cases h : first = name
    . by_cases h' : first = other <;> simp_all [insert, get?_cons]
    . by_cases h' : first = other <;> simp_all [insert, get?_cons, eq_comm]

theorem mem_names_iff_contains (ms : Members α) (name : String)
    : name ∈ ms.names ↔ ms.contains name = true := by
  induction ms with
  | nil => simp [names, contains]
  | cons entry rest ih =>
    obtain ⟨other, value⟩ := entry
    simp only [names, contains, List.map_cons, List.mem_cons, get?_cons] at *
    by_cases h : other = name
    . simp [h]
    . simp only [Ne.symm h, false_or, ih, if_neg h]

end Members

end SchemaBridge
