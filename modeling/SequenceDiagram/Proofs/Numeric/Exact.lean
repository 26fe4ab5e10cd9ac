/-
  SequenceDiagram.Proofs.Numeric.Exact — layout's numbers read exactly.

  What is said of lengths is said of the rationals, where a scalar's operations are the
  field's own: the larger and the smaller of two numbers are their maximum and minimum,
  the sum is the list's, and rounding up gives no less than it is given. The range of a
  list is its least and its greatest element, and only an empty list has none.
-/

import Mathlib.Algebra.Order.BigOperators.Group.List
import Mathlib.Algebra.Order.Field.Rat
import Mathlib.Data.Rat.Floor
import Mathlib.Tactic.Linarith
import SequenceDiagram.Numeric.Scalar

namespace SequenceDiagram.Scalar

@[simp] theorem ofNat_exact (n : Nat) : (ofNat n : ℚ) = n := rfl

@[simp] theorem half_exact (a : ℚ) : half a = a / 2 := rfl

@[simp] theorem larger_exact (a b : ℚ) : larger a b = max a b := by
  show (if a < b then b else a) = max a b
  split
  · rename_i h
    exact (max_eq_right h.le).symm
  · rename_i h
    exact (max_eq_left (not_lt.mp h)).symm

@[simp] theorem smaller_exact (a b : ℚ) : smaller a b = min a b := by
  show (if b < a then b else a) = min a b
  split
  · rename_i h
    exact (min_eq_right h.le).symm
  · rename_i h
    exact (min_eq_left (not_lt.mp h)).symm

@[simp] theorem sum_exact (as : List ℚ) : sum as = as.sum := by
  have hzero : (-ofNat 0 : ℚ) = 0 := by decide
  rw [List.sum_eq_foldl, ← hzero]
  rfl

theorem decimal_nonneg (m e : Nat) : 0 ≤ (decimal m e : ℚ) := div_nonneg (Nat.cast_nonneg _) (Nat.cast_nonneg _)

theorem le_ceil (a : ℚ) : a ≤ ceil a := Rat.le_ceil

theorem ceil_le_ceil {a b : ℚ} (h : a ≤ b) : ceil a ≤ ceil b := by
  have hwhole : a.ceil ≤ b.ceil := Rat.ceil_le_iff.mpr (h.trans Rat.le_ceil)
  show (a.ceil : ℚ) ≤ b.ceil
  exact_mod_cast hwhole

/-- What is above a whole number is rounded up to the next at the least. -/
theorem succ_le_ceil {n : Nat} {a : ℚ} (h : n < a) : (n : ℚ) + 1 ≤ ceil a := by
  have habove : (n : ℚ) < (a.ceil : ℚ) := h.trans_le Rat.le_ceil
  have hwhole : (n : ℤ) + 1 ≤ a.ceil := by exact_mod_cast habove
  show (n : ℚ) + 1 ≤ (a.ceil : ℚ)
  exact_mod_cast hwhole

/-! ## The greatest of many -/

section

variable {β : Type} (f : β → ℚ)

theorem le_foldl_larger (bs : List β) (a : ℚ) : a ≤ bs.foldl (fun w b => larger w (f b)) a := by
  induction bs generalizing a with
  | nil => exact le_refl a
  | cons b bs ih =>
    have hstep : a ≤ larger a (f b) := by simp
    exact hstep.trans (ih _)

theorem le_foldl_larger_of_mem {bs : List β} {b : β} (hb : b ∈ bs) (a : ℚ) :
    f b ≤ bs.foldl (fun w b => larger w (f b)) a := by
  induction bs generalizing a with
  | nil => cases hb
  | cons c bs ih =>
    rcases List.mem_cons.mp hb with rfl | hb
    · have hstep : f b ≤ larger a (f b) := by simp
      exact hstep.trans (le_foldl_larger f bs _)
    · exact ih hb _

/-- The greatest is what it was to begin with or one of the list. -/
theorem foldl_larger_attained (bs : List β) (a : ℚ) :
    bs.foldl (fun w b => larger w (f b)) a = a ∨ ∃ b ∈ bs, bs.foldl (fun w b => larger w (f b)) a = f b := by
  induction bs generalizing a with
  | nil => exact .inl rfl
  | cons b bs ih =>
    rw [List.foldl_cons]
    rcases ih (larger a (f b)) with hfirst | ⟨c, hc, hrest⟩
    · rw [hfirst, larger_exact]
      rcases max_choice a (f b) with hmax | hmax
      · exact .inl hmax
      · exact .inr ⟨b, List.mem_cons_self, hmax⟩
    · exact .inr ⟨c, List.mem_cons_of_mem b hc, hrest⟩

end

/-! ## The range of a list -/

theorem range?_eq_min?_max? (as : List ℚ) :
    range? as = as.min?.bind fun lo => as.max?.map fun hi => (lo, hi) := by
  have hall : as.filter isNumber = as := List.filter_eq_self.mpr fun _ _ => rfl
  have hsmaller : (smaller : ℚ → ℚ → ℚ) = min := funext₂ smaller_exact
  have hlarger : (larger : ℚ → ℚ → ℚ) = max := funext₂ larger_exact
  unfold range?
  rw [hall, hsmaller, hlarger]
  cases as with
  | nil => rfl
  | cons a as =>
    rw [List.min?_cons', List.max?_cons']
    rfl

theorem range?_eq_none_iff {as : List ℚ} : range? as = none ↔ as = [] := by
  rw [range?_eq_min?_max?]
  cases as with
  | nil => simp
  | cons a as =>
    rw [List.min?_cons', List.max?_cons']
    simp

theorem range?_eq_some {as : List ℚ} {lo hi : ℚ} (h : range? as = some (lo, hi)) :
    lo ∈ as ∧ hi ∈ as ∧ ∀ a ∈ as, lo ≤ a ∧ a ≤ hi := by
  rw [range?_eq_min?_max?] at h
  simp only [Option.bind_eq_some_iff, Option.map_eq_some_iff, Prod.mk.injEq] at h
  obtain ⟨_, hmin, _, hmax, rfl, rfl⟩ := h
  obtain ⟨hlo, hleast⟩ := List.min?_eq_some_iff.mp hmin
  obtain ⟨hhi, hgreatest⟩ := List.max?_eq_some_iff.mp hmax
  exact ⟨hlo, hhi, fun a ha => ⟨hleast a ha, hgreatest a ha⟩⟩

end SequenceDiagram.Scalar
