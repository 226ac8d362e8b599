import SchemaBridge.Json.Pointer

/-!
This module contains the proof that the text of a JSON pointer is read back as the pointer, whatever
characters its steps contain, and what a pointer of two parts selects. Main statements:
`Pointer.ofText?_text`, `Pointer.index?_toString`, `select?_append`.
-/

namespace SchemaBridge

namespace Json

namespace Pointer

theorem escapeChar_of_ne {c : Char} (htilde : c ≠ '~') (hslash : c ≠ '/') : escapeChar c = [c] := by
  unfold escapeChar
  split
  . exact (htilde rfl).elim
  . exact (hslash rfl).elim
  . rfl

theorem go_cons_of_ne {c : Char} (h : c ≠ '~') (rest : List Char)
    : unescape.go (c :: rest) = c :: unescape.go rest := by
  rw [unescape.go.eq_def]
  split <;> simp_all

theorem unescape_escape (step : String) : unescape (escape step) = step := by
  suffices ∀ cs : List Char, unescape.go (cs.flatMap escapeChar) = cs by
    rw [unescape, escape, String.toList_ofList, this, String.ofList_toList]
  intro cs
  induction cs with
  | nil => rfl
  | cons c rest ih =>
    rw [List.flatMap_cons]
    by_cases htilde : c = '~'
    . simp [htilde, escapeChar, unescape.go, ih]
    . by_cases hslash : c = '/'
      . simp [hslash, escapeChar, unescape.go, ih]
      . rw [escapeChar_of_ne htilde hslash, List.singleton_append, go_cons_of_ne htilde, ih]

theorem slash_notMem_escape (step : String) : '/' ∉ (escape step).toList := by
  rw [escape, String.toList_ofList, List.mem_flatMap]
  rintro ⟨c, -, hc⟩
  by_cases htilde : c = '~'
  . simp [htilde, escapeChar] at hc
  . by_cases hslash : c = '/'
    . simp [hslash, escapeChar] at hc
    . rw [escapeChar_of_ne htilde hslash, List.mem_singleton] at hc
      exact hslash hc.symm

theorem splitSteps_ne_nil (cs : List Char) : splitSteps cs ≠ [] := by
  unfold splitSteps
  split
  . simp
  . split
    . simp
    . split <;> simp

theorem splitSteps_slash (rest : List Char) : splitSteps ('/' :: rest) = [] :: splitSteps rest := by
  rw [splitSteps]
  split
  next h => exact (splitSteps_ne_nil rest h).elim
  next h => rw [if_pos rfl, h]

/--
A step without slashes comes out in front of the first step of what follows it.
-/
theorem splitSteps_append {step : List Char} (h : '/' ∉ step) {rest first : List Char}
    {steps : List (List Char)} (hrest : splitSteps rest = first :: steps)
    : splitSteps (step ++ rest) = (step ++ first) :: steps := by
  induction step with
  | nil => exact hrest
  | cons c step ih =>
    rw [List.mem_cons, not_or] at h
    rw [List.cons_append, splitSteps, ih h.2]
    exact if_neg (Ne.symm h.1)

theorem toList_text_cons (step : String) (rest : Pointer)
    : (text (step :: rest)).toList = '/' :: (escape step).toList ++ (text rest).toList := by
  simp [text, String.toList_join]

theorem splitSteps_text (step : String) (rest : Pointer)
    : splitSteps ((escape step).toList ++ (text rest).toList) =
      (step :: rest).map fun step => (escape step).toList := by
  induction rest generalizing step with
  | nil =>
    rw [splitSteps_append (slash_notMem_escape step) rfl]
    simp
  | cons next rest ih =>
    have hrest : splitSteps (text (next :: rest)).toList =
        [] :: (next :: rest).map fun step => (escape step).toList := by
      rw [toList_text_cons, List.cons_append, splitSteps_slash, ih]
    rw [splitSteps_append (slash_notMem_escape step) hrest, List.append_nil]
    rfl

/--
The text of a pointer is read back as the pointer.
-/
theorem ofText?_text (p : Pointer) : ofText? (text p) = some p := by
  cases p with
  | nil => rfl
  | cons step rest =>
    rw [ofText?, toList_text_cons, List.cons_append]
    simp [splitSteps_text, Function.comp_def, unescape_escape]

theorem toDigits_ne_zero_cons {n : Nat} (h : 0 < n) (rest : List Char)
    : Nat.toDigits 10 n ≠ '0' :: rest := by
  induction n using Nat.strongRecOn generalizing rest with
  | ind n ih =>
    rw [Nat.toDigits_eq_if (by decide)]
    split
    . rw [ne_eq, List.cons.injEq, Nat.digitChar_eq_zero]
      omega
    . rw [ne_eq, List.append_eq_cons_iff]
      rintro (⟨hnil, -⟩ | ⟨digits, hdigits, -⟩)
      . exact Nat.toDigits_ne_nil hnil
      . exact ih (n / 10) (by omega) (by omega) digits hdigits

/--
The decimal digits of a number name it as an index.
-/
theorem index?_toString (n : Nat) : index? (toString n) = some n := by
  have hdigits : (Nat.toDigits 10 n).all Char.isDigit = true := by
    rw [List.all_eq_true]
    exact fun c hc => Nat.isDigit_of_mem_toDigits (by decide) (by decide) hc
  have hvalue : (Nat.toDigits 10 n).foldl (fun n c => n * 10 + (c.toNat - '0'.toNat)) 0 = n := by
    simpa only [Nat.ofDigitChars, Nat.mul_comm] using @Nat.ofDigitChars_ten_toDigits n
  rw [index?, Nat.toString_eq_repr, Nat.toList_repr]
  cases Nat.eq_zero_or_pos n with
  | inl hzero =>
    subst hzero
    rfl
  | inr hpos =>
    split
    next h => exact (toDigits_ne_zero_cons hpos _ h).elim
    next h => exact (toDigits_ne_zero_cons hpos _ h).elim
    next =>
      rw [hdigits, hvalue]
      simp

end Pointer

theorem select?_append (value : Json) (p q : Pointer)
    : value.select? (p ++ q) = (value.select? p).bind fun part => part.select? q := by
  induction p generalizing value with
  | nil => rfl
  | cons step rest ih => cases value <;> simp [select?, ih, Option.bind_assoc]

end Json

end SchemaBridge
