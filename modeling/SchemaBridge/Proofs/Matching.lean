import Mathlib.Data.List.Perm.Basic
import SchemaBridge.Proofs.Success

/-!
This module contains what members of two lists have to do with each other if the lists are related
without regard to their order. Main definition: `Matched`.
-/

namespace SchemaBridge

variable {α β γ δ : Type} {R : α → β → Prop}

/--
The lists are related member by member once the second one is put into another order.
-/
def Matched (R : α → β → Prop) (xs : List α) (ys : List β) : Prop :=
  ∃ ordered, List.Forall₂ R xs ordered ∧ ordered.Perm ys

namespace Matched

variable {xs : List α} {ys : List β}

theorem of_forall₂ (h : List.Forall₂ R xs ys) : Matched R xs ys :=
  ⟨ys, h, .refl ys⟩

theorem of_self {R : α → α → Prop} (h : ∀ x ∈ xs, R x x) : Matched R xs xs :=
  .of_forall₂ (List.forall₂_same.mpr h)

theorem length_eq (h : Matched R xs ys) : xs.length = ys.length := by
  obtain ⟨ordered, hordered, hperm⟩ := h
  exact hordered.length_eq.trans hperm.length_eq

theorem singleton_iff {x : α} : Matched R [x] ys ↔ ∃ y, ys = [y] ∧ R x y := by
  constructor
  . rintro ⟨ordered, hordered, hperm⟩
    obtain ⟨y, rest, hxy, hrest, rfl⟩ := List.forall₂_cons_left_iff.mp hordered
    obtain rfl := List.forall₂_nil_left_iff.mp hrest
    exact ⟨y, (List.singleton_perm.mp hperm).symm, hxy⟩
  . rintro ⟨y, rfl, hxy⟩
    exact .of_forall₂ (.cons hxy .nil)

theorem map {S : γ → δ → Prop} {f : α → γ} {g : β → δ} (h : Matched R xs ys)
    (hfg : ∀ x y, R x y → S (f x) (g y))
    : Matched S (xs.map f) (ys.map g) := by
  obtain ⟨ordered, hordered, hperm⟩ := h
  refine ⟨ordered.map g, ?_, hperm.map g⟩
  rw [List.forall₂_map_left_iff, List.forall₂_map_right_iff]
  exact hordered.imp hfg

theorem map_perm {f : α → γ} {g : β → γ} (h : Matched R xs ys) (hfg : ∀ x y, R x y → f x = g y)
    : (xs.map f).Perm (ys.map g) := by
  obtain ⟨ordered, hordered, hperm⟩ := h
  rw [map_eq_map_of_forall₂ hordered fun x _ => hfg x]
  exact hperm.map g

theorem forall_mem_iff {P : α → Prop} {Q : β → Prop} (h : Matched R xs ys)
    (hiff : ∀ x ∈ xs, ∀ y, R x y → (P x ↔ Q y))
    : (∀ x ∈ xs, P x) ↔ ∀ y ∈ ys, Q y := by
  obtain ⟨ordered, hordered, hperm⟩ := h
  rw [forall_mem_iff_of_forall₂ hordered hiff]
  simp only [hperm.mem_iff]

theorem exists_mem (h : Matched R xs ys) {x : α} (hx : x ∈ xs) : ∃ y ∈ ys, R x y := by
  obtain ⟨ordered, hordered, hperm⟩ := h
  obtain ⟨y, hy, hxy⟩ := exists_left_of_forall₂ (R := flip R) hordered.flip hx
  exact ⟨y, hperm.mem_iff.mp hy, hxy⟩

/--
A list that is related to the second one in its order can be put into the order of the first one.
-/
theorem comp {S : β → γ → Prop} {T : α → γ → Prop} {zs : List γ} (h : Matched R xs ys)
    (h' : List.Forall₂ S ys zs) (hcomp : ∀ x ∈ xs, ∀ y z, R x y → S y z → T x z)
    : Matched T xs zs := by
  obtain ⟨ordered, hordered, hperm⟩ := h
  obtain ⟨ordered', hordered', hperm'⟩ := List.perm_comp_forall₂ hperm h'
  exact ⟨ordered', forall₂_comp hordered hordered' hcomp, hperm'⟩

theorem of_common {S : α → γ → Prop} {T : γ → β → Prop} {zs : List γ} (h : Matched R xs ys)
    (h' : List.Forall₂ S xs zs) (hcommon : ∀ x ∈ xs, ∀ y z, R x y → S x z → T z y)
    : Matched T zs ys := by
  obtain ⟨ordered, hordered, hperm⟩ := h
  exact ⟨ordered, forall₂_of_common h' hordered fun x hx z y hz hy => hcommon x hx y z hy hz, hperm⟩

theorem exists_right {S : α → γ → Prop} {T : β → γ → Prop}
    (h : Matched (fun x y => ∃ z, S x z ∧ T y z) xs ys)
    : ∃ zs, Matched S xs zs ∧ List.Forall₂ T ys zs := by
  obtain ⟨ordered, hordered, hperm⟩ := h
  obtain ⟨zs, hxs, hys⟩ := exists_forall₂_of_exists hordered
  obtain ⟨zs', hys', hperm'⟩ := List.perm_comp_forall₂ hperm.symm hys
  exact ⟨zs', ⟨zs, hxs, hperm'.symm⟩, hys'⟩

end Matched

end SchemaBridge
