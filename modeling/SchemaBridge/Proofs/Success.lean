import Mathlib.Data.List.Forall2
import SchemaBridge.Notice

/-!
This module contains what it means that a computation in several steps succeeds, and what members of
two lists have to do with each other if the lists are related member by member.
-/

namespace SchemaBridge

namespace Success

variable {ε : Type} {α β : Type}

theorem bind_eq_ok_iff {x : Except ε α} {f : α → Except ε β} {b : β}
    : x >>= f = .ok b ↔ ∃ a, x = .ok a ∧ f a = .ok b := by
  cases x with
  | error e => simp [bind, Except.bind]
  | ok a => simp [bind, Except.bind]

theorem bind_eq_error_iff {x : Except ε α} {f : α → Except ε β} {e : ε}
    : x >>= f = .error e ↔ x = .error e ∨ ∃ a, x = .ok a ∧ f a = .error e := by
  cases x with
  | error e' => simp [bind, Except.bind]
  | ok a => simp [bind, Except.bind]

theorem bind_congr_of_ok {x : Except ε α} {f g : α → Except ε β}
    (h : ∀ a, x = .ok a → f a = g a)
    : x >>= f = x >>= g := by
  cases x with
  | error e => rfl
  | ok a => exact h a rfl

theorem map_eq_ok_iff {x : Except ε α} {f : α → β} {b : β}
    : f <$> x = .ok b ↔ ∃ a, x = .ok a ∧ f a = b := by
  cases x with
  | error e => simp [Functor.map, Except.map]
  | ok a => simp [Functor.map, Except.map]

theorem map_eq_error_iff {x : Except ε α} {f : α → β} {e : ε}
    : f <$> x = .error e ↔ x = .error e := by
  cases x with
  | error e' => simp [Functor.map, Except.map]
  | ok a => simp [Functor.map, Except.map]

theorem pure_eq_ok_iff {a b : α} : (pure a : Except ε α) = .ok b ↔ a = b := by
  simp [pure, Except.pure]

theorem throw_eq_ok_iff {e : ε} {a : α} : (throw e : Except ε α) = .ok a ↔ False := by
  simp [throw, throwThe, MonadExceptOf.throw]

theorem pure_eq_error_iff {a : α} {e : ε} : (pure a : Except ε α) = .error e ↔ False := by
  simp [pure, Except.pure]

theorem throw_eq_error_iff {e e' : ε} : (throw e : Except ε α) = .error e' ↔ e = e' := by
  simp [throw, throwThe, MonadExceptOf.throw]

theorem exists_ok_iff {x : Except ε α} : (∃ a, x = .ok a) ↔ ∀ e, x ≠ .error e := by
  cases x <;> simp

theorem mapError_eq_error_iff {ε' : Type} {x : Except ε α} {f : ε → ε'} {e' : ε'}
    : x.mapError f = .error e' ↔ ∃ e, x = .error e ∧ f e = e' := by
  cases x with
  | error e => simp [Except.mapError]
  | ok a => simp [Except.mapError]

theorem mapM_eq_some_iff {f : α → Option β} {xs : List α} {ys : List β}
    : xs.mapM f = some ys ↔ List.Forall₂ (fun x y => f x = some y) xs ys := by
  induction xs generalizing ys with
  | nil => simp [eq_comm]
  | cons x rest ih =>
    simp only [List.mapM_cons, Option.bind_eq_bind, Option.bind_eq_some_iff, ih,
      List.forall₂_cons_left_iff, Option.pure_def, Option.some.injEq]
    constructor
    . rintro ⟨y, hy, ys, hys, rfl⟩
      exact ⟨y, ys, hy, hys, rfl⟩
    . rintro ⟨y, ys, hy, hys, rfl⟩
      exact ⟨y, hy, ys, hys, rfl⟩

theorem mapM_eq_ok_iff {f : α → Except ε β} {xs : List α} {ys : List β}
    : xs.mapM f = .ok ys ↔ List.Forall₂ (fun x y => f x = .ok y) xs ys := by
  induction xs generalizing ys with
  | nil => rw [List.mapM_nil, pure_eq_ok_iff, List.forall₂_nil_left_iff, eq_comm]
  | cons x rest ih =>
    simp only [List.mapM_cons, bind_eq_ok_iff, ih, List.forall₂_cons_left_iff, pure_eq_ok_iff]
    constructor
    . rintro ⟨y, hy, ys, hys, rfl⟩
      exact ⟨y, ys, hy, hys, rfl⟩
    . rintro ⟨y, ys, hy, hys, rfl⟩
      exact ⟨y, hy, ys, hys, rfl⟩

theorem mapM_eq_error_of_first {f : α → Except ε β} {before after : List α} {x : α} {e : ε}
    (hbefore : ∀ y ∈ before, ∃ b, f y = .ok b) (hx : f x = .error e)
    : (before ++ x :: after).mapM f = .error e := by
  induction before with
  | nil =>
    rw [List.nil_append, List.mapM_cons, hx]
    rfl
  | cons y rest ih =>
    obtain ⟨⟨b, hy⟩, hrest⟩ := List.forall_mem_cons.mp hbefore
    rw [List.cons_append, List.mapM_cons, hy, ih hrest]
    rfl

theorem exists_mem_of_mapM_eq_error {f : α → Except ε β} {xs : List α} {e : ε}
    (h : xs.mapM f = .error e)
    : ∃ x ∈ xs, f x = .error e := by
  induction xs with
  | nil =>
    rw [List.mapM_nil, pure_eq_error_iff] at h
    exact h.elim
  | cons x rest ih =>
    simp only [List.mapM_cons, bind_eq_error_iff, pure_eq_error_iff, and_false, exists_false,
      or_false] at h
    rcases h with hx | ⟨_, -, hrest⟩
    . exact ⟨x, List.mem_cons_self, hx⟩
    . obtain ⟨y, hy, hfail⟩ := ih hrest
      exact ⟨y, List.mem_cons_of_mem x hy, hfail⟩

end Success

section Related

variable {α β : Type} {R : α → β → Prop}

theorem exists_left_of_forall₂ {xs : List α} {ys : List β} {y : β}
    (h : List.Forall₂ R xs ys) (hy : y ∈ ys)
    : ∃ x ∈ xs, R x y := by
  induction h with
  | nil => cases hy
  | cons hx _ ih =>
    cases hy with
    | head => exact ⟨_, by simp, hx⟩
    | tail _ hy =>
      obtain ⟨x, hmem, h⟩ := ih hy
      exact ⟨x, by simp [hmem], h⟩

theorem map_eq_map_of_forall₂ {γ : Type} {f : α → γ} {g : β → γ} {xs : List α} {ys : List β}
    (h : List.Forall₂ R xs ys) (hfg : ∀ x ∈ xs, ∀ y, R x y → f x = g y)
    : xs.map f = ys.map g := by
  induction h with
  | nil => rfl
  | @cons x y _ _ hxy _ ih =>
    obtain ⟨hx, hrest⟩ := List.forall_mem_cons.mp hfg
    rw [List.map_cons, List.map_cons, hx y hxy, ih hrest]

theorem forall₂_comp {γ : Type} {S : β → γ → Prop} {T : α → γ → Prop} {xs : List α} {ys : List β}
    {zs : List γ} (h : List.Forall₂ R xs ys) (h' : List.Forall₂ S ys zs)
    (hcomp : ∀ x ∈ xs, ∀ y z, R x y → S y z → T x z)
    : List.Forall₂ T xs zs := by
  induction h generalizing zs with
  | nil =>
    cases h'
    exact .nil
  | cons hxy _ ih =>
    obtain ⟨hx, hrest⟩ := List.forall_mem_cons.mp hcomp
    cases h' with
    | cons hyz hyzs => exact .cons (hx _ _ hxy hyz) (ih hyzs hrest)

theorem forall₂_of_common {γ : Type} {S : α → γ → Prop} {T : β → γ → Prop} {xs : List α}
    {ys : List β} {zs : List γ} (h : List.Forall₂ R xs ys) (h' : List.Forall₂ S xs zs)
    (hcommon : ∀ x ∈ xs, ∀ y z, R x y → S x z → T y z)
    : List.Forall₂ T ys zs := by
  induction h generalizing zs with
  | nil =>
    cases h'
    exact .nil
  | cons hxy _ ih =>
    obtain ⟨hx, hrest⟩ := List.forall_mem_cons.mp hcommon
    cases h' with
    | cons hxz hxzs => exact .cons (hx _ _ hxy hxz) (ih hxzs hrest)

theorem exists_forall₂_of_exists {γ : Type} {S : α → γ → Prop} {T : β → γ → Prop} {xs : List α}
    {ys : List β} (h : List.Forall₂ (fun x y => ∃ z, S x z ∧ T y z) xs ys)
    : ∃ zs, List.Forall₂ S xs zs ∧ List.Forall₂ T ys zs := by
  induction h with
  | nil => exact ⟨[], .nil, .nil⟩
  | cons hxy _ ih =>
    obtain ⟨z, hxz, hyz⟩ := hxy
    obtain ⟨zs, hxzs, hyzs⟩ := ih
    exact ⟨z :: zs, .cons hxz hxzs, .cons hyz hyzs⟩

theorem forall₂_eq_iff {γ : Type} {f : α → γ} {g : β → γ} {xs : List α} {ys : List β}
    : List.Forall₂ (fun x y => f x = g y) xs ys ↔ xs.map f = ys.map g := by
  rw [← List.forall₂_eq_eq_eq, List.forall₂_map_left_iff, List.forall₂_map_right_iff]

theorem exists_getElem?_of_forall₂ {xs : List α} {ys : List β} {i : Nat} {x : α}
    (h : List.Forall₂ R xs ys) (hx : xs[i]? = some x)
    : ∃ y, ys[i]? = some y ∧ R x y := by
  obtain ⟨hlength, hget⟩ := List.forall₂_iff_get.mp h
  obtain ⟨hi, rfl⟩ := List.getElem?_eq_some_iff.mp hx
  have hi' : i < ys.length := hlength ▸ hi
  exact ⟨ys[i], List.getElem?_eq_getElem hi', hget i hi hi'⟩

theorem forall_mem_iff_of_forall₂ {P : α → Prop} {Q : β → Prop} {xs : List α} {ys : List β}
    (h : List.Forall₂ R xs ys) (hiff : ∀ x ∈ xs, ∀ y, R x y → (P x ↔ Q y))
    : (∀ x ∈ xs, P x) ↔ ∀ y ∈ ys, Q y := by
  induction h with
  | nil => simp
  | @cons x y _ _ hxy _ ih =>
    obtain ⟨hx, hrest⟩ := List.forall_mem_cons.mp hiff
    rw [List.forall_mem_cons, List.forall_mem_cons, hx y hxy, ih hrest]

theorem exists_forall₂_iff {xs : List α}
    : (∃ ys, List.Forall₂ R xs ys) ↔ ∀ x ∈ xs, ∃ y, R x y := by
  induction xs with
  | nil => simp
  | cons x rest ih =>
    rw [List.forall_mem_cons, ← ih]
    constructor
    . rintro ⟨_, h⟩
      cases h with
      | cons hx hrest => exact ⟨⟨_, hx⟩, _, hrest⟩
    . rintro ⟨⟨y, hy⟩, ys, hys⟩
      exact ⟨y :: ys, .cons hy hys⟩

theorem forall₂_iff_of_forall₂ {S : α → β → Prop} {P : β → Prop} {xs : List α} {ys : List β}
    (h : List.Forall₂ R xs ys) (hiff : ∀ x ∈ xs, ∀ y, R x y → (S x y ↔ P y))
    : List.Forall₂ S xs ys ↔ ∀ y ∈ ys, P y := by
  induction h with
  | nil => simp
  | @cons x y _ _ hxy _ ih =>
    obtain ⟨hx, hrest⟩ := List.forall_mem_cons.mp hiff
    rw [List.forall₂_cons, List.forall_mem_cons, hx y hxy, ih hrest]

theorem forall₂_mergeSort {le : α → α → Bool} {le' : β → β → Bool} {xs : List α} {ys : List β}
    (h : List.Forall₂ R xs ys) (hle : ∀ x x' y y', R x y → R x' y' → le x x' = le' y y')
    : List.Forall₂ R (xs.mergeSort le) (ys.mergeSort le') := by
  obtain ⟨hlength, hrelated⟩ := List.forall₂_iff_zip.mp h
  -- Both lists are sorted as the list of the related pairs is.
  have hleft : ((xs.zip ys).mergeSort fun pair other => le pair.1 other.1).map Prod.fst =
      xs.mergeSort le := by
    rw [List.map_mergeSort (s := le) fun _ _ _ _ => rfl, List.map_fst_zip (Nat.le_of_eq hlength)]
  have hright : ((xs.zip ys).mergeSort fun pair other => le pair.1 other.1).map Prod.snd =
      ys.mergeSort le' := by
    rw [List.map_mergeSort (s := le') fun _ hpair _ hother =>
      hle _ _ _ _ (hrelated hpair) (hrelated hother), List.map_snd_zip (Nat.le_of_eq hlength.symm)]
  rw [← hleft, ← hright, List.forall₂_map_left_iff, List.forall₂_map_right_iff, List.forall₂_same]
  exact fun _ hpair => hrelated (List.mem_mergeSort.mp hpair)

end Related

end SchemaBridge
