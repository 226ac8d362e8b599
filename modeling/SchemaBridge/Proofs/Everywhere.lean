/-!
This module contains the properties that hold of every node in a tree, whatever the tree is made of.
Main definition: `Everywhere`.
-/

namespace SchemaBridge

/--
`P` holds of a node and of all nodes below it, where `children` are the ones directly below.
-/
inductive Everywhere {α : Type} (children : α → List α) (P : α → Prop) : α → Prop where
  | intro {x : α} (self : P x) (child : ∀ c ∈ children x, Everywhere children P c)
      : Everywhere children P x

namespace Everywhere

variable {α : Type} {children children' : α → List α} {P Q : α → Prop} {x : α}

theorem self (h : Everywhere children P x) : P x := by
  cases h
  assumption

theorem child (h : Everywhere children P x) {c : α} (hc : c ∈ children x)
    : Everywhere children P c := by
  cases h with
  | intro _ child => exact child c hc

theorem iff_self_and_children
    : Everywhere children P x ↔ P x ∧ ∀ c ∈ children x, Everywhere children P c := by
  exact ⟨fun h => ⟨h.self, fun _ => h.child⟩, fun h => .intro h.1 h.2⟩

theorem of_children_eq_nil (hchildren : children x = []) (hself : P x)
    : Everywhere children P x := by
  apply Everywhere.intro hself
  rw [hchildren]
  exact nofun

theorem mono (h : Everywhere children P x) (hPQ : ∀ x, P x → Q x) : Everywhere children Q x := by
  induction h with
  | intro self _ ih => exact .intro (hPQ _ self) ih

theorem of_subset (h : Everywhere children P x) (hsubset : ∀ x, children' x ⊆ children x)
    : Everywhere children' P x := by
  induction h with
  | intro self _ ih => exact .intro self fun c hc => ih c (hsubset _ hc)

theorem and (hP : Everywhere children P x) (hQ : Everywhere children Q x)
    : Everywhere children (fun x => P x ∧ Q x) x := by
  induction hP with
  | intro self _ ih => exact .intro ⟨self, hQ.self⟩ fun c hc => ih c hc (hQ.child hc)

end Everywhere

end SchemaBridge
