/-
  SequenceDiagram.Proofs.Numeric.Binary64 — what holds of binary64 without rounding.

  Two laws of the numbers that layout runs on, which hold of every pair of them, zeros of
  either sign and infinities included: a sum does not change when its terms are exchanged
  (`add_comm_binary64`), and of two numbers that are not the one below the other the second
  is at most the first (`le_of_not_lt_binary64`). The first holds also of what is no
  number; the second does not, since no comparison holds of that.
-/

import Mathlib.Data.Int.Order.Basic
import SequenceDiagram.Numeric.Scalar

namespace SequenceDiagram.Scalar

open Float.Model (Format UnpackedFloat)

/-! ## Sums -/

theorem unpacked_add_comm (format : Format) (a b : UnpackedFloat) : a.add format b = b.add format a := by
  cases a with
  | notANumber => cases b <;> rfl
  | infinity s =>
    cases b with
    | infinity t => cases s <;> cases t <;> rfl
    | notANumber => rfl
    | zero t => rfl
    | finite t m e h => rfl
  | zero s =>
    cases b with
    | zero t => cases s <;> cases t <;> rfl
    | notANumber => rfl
    | infinity t => rfl
    | finite t m e h => rfl
  | finite s m e h =>
    cases b with
    -- the lesser exponent and the sum of the aligned mantissas
    | finite t n f h' =>
      unfold UnpackedFloat.add
      dsimp only
      rw [min_comm e f, Int.add_comm]
    | notANumber => rfl
    | infinity t => rfl
    | zero t => rfl

theorem add_comm_binary64 (a b : Float) : a + b = b + a :=
  congrArg (fun sum => Float.ofModel (Float.Model.pack sum))
    (unpacked_add_comm .binary64 a.toModel.unpack b.toModel.unpack)

/-! ## Order -/

theorem unpacked_compare_swap (a b : UnpackedFloat) : b.compare a = (a.compare b).map Ordering.swap := by
  cases a with
  | notANumber => cases b <;> rfl
  | infinity s =>
    cases b with
    | infinity t => cases s <;> cases t <;> rfl
    | notANumber => rfl
    | zero t => cases s <;> rfl
    | finite t n f h => cases s <;> rfl
  | zero s =>
    cases b with
    | infinity t => cases t <;> rfl
    | notANumber => rfl
    | zero t => rfl
    | finite t n f h => cases t <;> rfl
  | finite s m e h =>
    cases b with
    | infinity t => cases t <;> rfl
    | notANumber => rfl
    | zero t => cases s <;> rfl
    -- by exponents, then by mantissas, and the other way round where both are negative
    | finite t n f h' =>
      have hswap : (compare f e).then (compare n m) = ((compare e f).then (compare m n)).swap := by
        rw [Ordering.swap_then, ← Std.OrientedCmp.eq_swap, ← Std.OrientedCmp.eq_swap]
      cases s with
      | positive =>
        cases t with
        | positive => exact congrArg some hswap
        | negative => rfl
      | negative =>
        cases t with
        | positive => rfl
        | negative => exact congrArg (fun o => some o.swap) hswap

/-- Two numbers can be compared. -/
theorem exists_unpacked_compare {a b : UnpackedFloat} (ha : a.isNaN = false) (hb : b.isNaN = false) :
    ∃ o, a.compare b = some o := by
  cases a with
  | notANumber => cases ha
  | infinity s =>
    cases b with
    | notANumber => cases hb
    | infinity t => exact ⟨_, rfl⟩
    | zero t => cases s <;> exact ⟨_, rfl⟩
    | finite t n f h => cases s <;> exact ⟨_, rfl⟩
  | zero s =>
    cases b with
    | notANumber => cases hb
    | infinity t => cases t <;> exact ⟨_, rfl⟩
    | zero t => exact ⟨_, rfl⟩
    | finite t n f h => cases t <;> exact ⟨_, rfl⟩
  | finite s m e h =>
    cases b with
    | notANumber => cases hb
    | infinity t => cases t <;> exact ⟨_, rfl⟩
    | zero t => cases s <;> exact ⟨_, rfl⟩
    | finite t n f h' => cases s <;> cases t <;> exact ⟨_, rfl⟩

theorem lt_iff_binary64 {a b : Float} : a < b ↔ a.toModel.unpack.compare b.toModel.unpack = some .lt := by
  have hmodel : a < b ↔ a.toModel.unpack.lt b.toModel.unpack = true := decide_eq_true_iff
  rw [hmodel, UnpackedFloat.lt, beq_iff_eq]

theorem le_iff_binary64 {a b : Float} :
    a ≤ b ↔ (a.toModel.unpack.compare b.toModel.unpack).any (·.isLE) = true := decide_eq_true_iff

theorem le_of_not_lt_binary64 {a b : Float} (ha : isNumber a) (hb : isNumber b) (h : ¬ a < b) : b ≤ a := by
  obtain ⟨o, ho⟩ := exists_unpacked_compare (Bool.not_eq_true' _ ▸ ha) (Bool.not_eq_true' _ ▸ hb)
  rw [lt_iff_binary64, ho, Option.some_inj] at h
  rw [le_iff_binary64, unpacked_compare_swap, ho]
  cases o with
  | lt => exact absurd rfl h
  | eq => rfl
  | gt => rfl

end SequenceDiagram.Scalar
