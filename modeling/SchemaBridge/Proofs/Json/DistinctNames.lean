import SchemaBridge.Json.Parser
import SchemaBridge.Proofs.Members
import SchemaBridge.Proofs.Success

/-!
This module contains the documents in which no object repeats a name, and the proof that all
documents that are read from a text are of this kind. Main statement: `distinctNames_of_parse`.
-/

namespace SchemaBridge

namespace Json

mutual

/--
Whether no object in a document repeats a name.
-/
def distinctNames : Json → Bool
  | .array items => itemsDistinctNames items
  | .object members => decide (Members.names members).Nodup && valuesDistinctNames members
  | _ => true

def itemsDistinctNames : List Json → Bool
  | [] => true
  | item :: rest => item.distinctNames && itemsDistinctNames rest

def valuesDistinctNames : List (String × Json) → Bool
  | [] => true
  | (_, value) :: rest => value.distinctNames && valuesDistinctNames rest

end

theorem distinctNames_array_iff {items : List Json}
    : (Json.array items).distinctNames = true ↔ ∀ item ∈ items, item.distinctNames = true := by
  rw [distinctNames]
  induction items with
  | nil => simp [itemsDistinctNames]
  | cons item rest ih => rw [itemsDistinctNames, Bool.and_eq_true, ih, List.forall_mem_cons]

theorem distinctNames_object_iff {members : Members Json}
    : (Json.object members).distinctNames = true ↔
      members.names.Nodup ∧ ∀ member ∈ members, member.2.distinctNames = true := by
  rw [distinctNames, Bool.and_eq_true, decide_eq_true_iff]
  apply and_congr Iff.rfl
  induction members with
  | nil => simp [valuesDistinctNames]
  | cons member rest ih =>
    obtain ⟨name, value⟩ := member
    rw [valuesDistinctNames, Bool.and_eq_true, ih, List.forall_mem_cons]

namespace Scanner

variable {α β : Type}

/--
Whatever a scanner reads has the property `P`.
-/
def Reads (P : α → Prop) (x : Scanner α) : Prop :=
  ∀ c a c', x c = .ok (a, c') → P a

theorem Reads.pure {P : α → Prop} {a : α} (h : P a) : Reads P (Pure.pure a : Scanner α) := by
  intro c b c' hread
  cases hread
  exact h

theorem Reads.bind {P : α → Prop} {Q : β → Prop} {x : Scanner α} {f : α → Scanner β}
    (hx : Reads P x) (hf : ∀ a, P a → Reads Q (f a))
    : Reads Q (x >>= f) := by
  intro c b c' hread
  cases h : x c with
  | error e => simp [Bind.bind, StateT.bind, Except.bind, h] at hread
  | ok result =>
    obtain ⟨a, rest⟩ := result
    have hread : f a rest = .ok (b, c') := by
      simpa [Bind.bind, StateT.bind, Except.bind, h] using hread
    exact hf a (hx c a rest h) rest b c' hread

theorem Reads.then {Q : β → Prop} {x : Scanner α} {f : α → Scanner β} (hf : ∀ a, Reads Q (f a))
    : Reads Q (x >>= f) := by
  exact Reads.bind (P := fun _ => True) (fun _ _ _ _ => trivial) fun a _ => hf a

theorem Reads.throw {P : α → Prop} {e : ParseError}
    : Reads P (MonadExcept.throw e : Scanner α) := by
  intro c a c' hread
  cases hread

theorem reads_scanItems {P : α → Prop} {item : Nat → Scanner α}
    (hitem : ∀ index, Reads P (item index)) (bound index : Nat)
    : Reads (fun items => ∀ item ∈ items, P item)
        (scanItems item bound index : Scanner (List α)) := by
  have hnil : Reads (fun items => ∀ item ∈ items, P item) (pure [] : Scanner (List α)) :=
    Reads.pure fun _ h => by cases h
  induction bound generalizing index with
  | zero => exact hnil
  | succ bound ih =>
    unfold scanItems
    refine Reads.then fun more => ?_
    cases more with
    | false => exact hnil
    | true =>
      refine Reads.bind (hitem index) fun value hvalue => ?_
      refine Reads.bind (ih (index + 1)) fun rest hrest => ?_
      exact Reads.pure (List.forall_mem_cons.mpr ⟨hvalue, hrest⟩)

theorem reads_members {P : Json → Prop} {value : Scanner Json} (hvalue : Reads P value)
    (bound : Nat) (first : Bool)
    : Reads (fun members => ∀ member ∈ members, P member.2) (members value bound first) := by
  have hnil : Reads (fun members => ∀ member ∈ members, P member.2)
      (pure [] : Scanner (List (String × Json))) := Reads.pure fun _ h => by cases h
  induction bound generalizing first with
  | zero => exact hnil
  | succ bound ih =>
    unfold members
    refine Reads.then fun more => ?_
    cases more with
    | false => exact hnil
    | true =>
      refine Reads.then fun name => Reads.then fun _ => ?_
      refine Reads.bind hvalue fun found hfound => ?_
      refine Reads.bind (ih false) fun rest hrest => ?_
      exact Reads.pure (List.forall_mem_cons.mpr ⟨hfound, hrest⟩)

theorem reads_scalar : Reads (fun d => d.distinctNames = true) scalar := by
  unfold scalar
  refine Reads.then fun token => ?_
  split
  . exact Reads.then fun _ => Reads.throw
  . exact Reads.then fun _ => Reads.then fun _ => Reads.pure rfl
  . exact Reads.then fun _ => Reads.then fun _ => Reads.pure rfl
  . exact Reads.then fun _ => Reads.then fun _ => Reads.pure rfl
  . exact Reads.then fun _ => Reads.then fun _ => Reads.pure rfl
  . exact Reads.then fun _ => Reads.pure rfl
  . split
    . exact Reads.then fun _ => Reads.pure rfl
    . exact Reads.then fun _ => Reads.throw

theorem reads_value (nesting : Nat) : Reads (fun d => d.distinctNames = true) (value nesting) := by
  induction nesting with
  | zero =>
    unfold value
    refine Reads.then fun token => ?_
    split
    . exact Reads.then fun _ => Reads.throw
    . exact Reads.then fun _ => Reads.throw
    . exact reads_scalar
  | succ nesting ih =>
    unfold value
    refine Reads.then fun token => ?_
    split
    . refine Reads.then fun _ => Reads.then fun bound => ?_
      refine Reads.bind (reads_scanItems (fun _ => ih) bound 0) fun items hitems => ?_
      exact Reads.then fun _ => Reads.pure (distinctNames_array_iff.mpr hitems)
    . refine Reads.then fun _ => Reads.then fun bound => ?_
      refine Reads.bind (reads_members ih bound true) fun read hread => ?_
      refine Reads.then fun _ => Reads.pure (distinctNames_object_iff.mpr ?_)
      -- Of members with one name the object keeps the last one only, so none is repeated.
      obtain ⟨hnodup, hmem⟩ := Members.ofList_spec read
      exact ⟨hnodup, fun member hmember => hread member (hmem member hmember)⟩
    . exact reads_scalar

end Scanner

theorem distinctNames_of_parse {text : String} {document : Json} (h : parse text = .ok document)
    : document.distinctNames = true := by
  unfold parse parseNested StateT.run' at h
  obtain ⟨⟨_, c⟩, hread, rfl⟩ := Success.map_eq_ok_iff.mp h
  have hvalue : Scanner.Reads (fun d => d.distinctNames = true) do
      let value ← Scanner.value nestingLimit
      Scanner.endOfText
      return value := by
    refine Scanner.Reads.bind (Scanner.reads_value nestingLimit) fun value hvalue => ?_
    exact Scanner.Reads.then fun _ => Scanner.Reads.pure hvalue
  exact hvalue _ _ c hread

end Json

end SchemaBridge
