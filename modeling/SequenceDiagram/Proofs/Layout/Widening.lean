/-
  SequenceDiagram.Proofs.Layout.Widening — any run of requests for room.

  Deltas may be any numbers to begin with, and requests may overlap as they like and ask
  for any width. A request is met when the deltas between its lifelines add up to its
  width, or when it is not between two lifelines at all, and it changes nothing exactly
  when it is met (`widen_eq_self_iff`). Deltas only grow, so what a request has got no
  later one takes away, and at the end of a run all its requests are met, not the last
  alone (`met_widenAll`). Any of them once more, in whatever order, finds nothing to do
  (`widenAll_again`).
-/

import SequenceDiagram.Proofs.Layout.Gaps

namespace SequenceDiagram.Layout

variable {deltas : List ℚ} {rs : List Request} {r : Request}

/-! ## Requests that are met -/

/-- The deltas between the lifelines of a request add up to its width, if these are two lifelines. -/
def Met (deltas : List ℚ) (r : Request) : Prop :=
  r.lo < r.hi → r.hi < deltas.length → r.width ≤ (between deltas r.lo r.hi).sum

theorem met_widen (deltas : List ℚ) (r : Request) : Met (widen deltas r.lo r.hi r.width) r := by
  intro hlo hhi
  rw [length_widen] at hhi
  exact widen_meets hlo hhi

theorem widen_eq_self_iff (deltas : List ℚ) (r : Request) :
    widen deltas r.lo r.hi r.width = deltas ↔ Met deltas r := by
  constructor
  · intro h
    have hmet := met_widen deltas r
    rwa [h] at hmet
  · intro h
    unfold widen
    by_cases hrange : r.hi ≤ r.lo ∨ deltas.length ≤ r.hi
    · rw [if_pos hrange]
    · rw [if_neg hrange, Scalar.sum_exact, if_pos (h (by omega) (by omega))]

/-! ## Runs -/

theorem widenAll_append (deltas : List ℚ) (early late : List Request) :
    widenAll deltas (early ++ late) = widenAll (widenAll deltas early) late := List.foldl_append

theorem met_widenAll (deltas : List ℚ) (hr : r ∈ rs) : Met (widenAll deltas rs) r := by
  intro hlo hhi
  rw [length_widenAll] at hhi
  exact widenAll_meets hr hlo hhi

theorem widenAll_of_met (h : ∀ r ∈ rs, Met deltas r) : widenAll deltas rs = deltas := by
  induction rs with
  | nil => rfl
  | cons r rs ih =>
    show widenAll (widen deltas r.lo r.hi r.width) rs = deltas
    rw [(widen_eq_self_iff deltas r).mpr (h r List.mem_cons_self)]
    exact ih fun r hr => h r (List.mem_cons_of_mem _ hr)

/-- Requests of a run that come again change nothing. -/
theorem widenAll_again (deltas : List ℚ) {more : List Request} (h : more ⊆ rs) :
    widenAll (widenAll deltas rs) more = widenAll deltas rs :=
  widenAll_of_met fun _ hr => met_widenAll deltas (h hr)

/-- A delta between the lifelines of no request stays as it is. -/
theorem widenAll_getElem?_of_apart {i : Nat} (h : ∀ r ∈ rs, ¬ (r.lo < i ∧ i ≤ r.hi)) :
    (widenAll deltas rs)[i]? = deltas[i]? := by
  cases hdelta : (widenAll deltas rs)[i]? with
  | none =>
    rw [List.getElem?_eq_none_iff, length_widenAll] at hdelta
    exact (List.getElem?_eq_none_iff.mpr hdelta).symm
  | some delta =>
    rcases widenAll_given hdelta with hsame | ⟨r, hr, hlo, hhi, -⟩
    · exact hsame.symm
    · exact absurd ⟨hlo, hhi⟩ (h r hr)

/-- What a run of requests makes of deltas, from its beginning to its end. -/
structure Widened (deltas : List ℚ) (rs : List Request) : Prop where
  /-- From one moment to a later one no delta decreases. -/
  grows : ∀ early late, early <+: late → late <+: rs →
    List.Forall₂ (· ≤ ·) (widenAll deltas early) (widenAll deltas late)
  first : ∀ early, early <+: rs → (widenAll deltas early).head? = deltas.head?
  apart : ∀ i, (∀ r ∈ rs, ¬ (r.lo < i ∧ i ≤ r.hi)) → ∀ early, early <+: rs → (widenAll deltas early)[i]? = deltas[i]?
  /-- A request that is not between two lifelines does nothing when its turn comes. -/
  idle : ∀ early r, early ++ [r] <+: rs → r.hi ≤ r.lo ∨ deltas.length ≤ r.hi →
    widenAll deltas (early ++ [r]) = widenAll deltas early
  met : ∀ r ∈ rs, r.lo < r.hi → r.hi < deltas.length → r.width ≤ (between (widenAll deltas rs) r.lo r.hi).sum
  again : ∀ more, more ⊆ rs → widenAll (widenAll deltas rs) more = widenAll deltas rs

/-- Whatever is asked for, deltas grow where they are asked to and nowhere else, until all that was
    asked for is there. -/
theorem widened_run (deltas : List ℚ) (rs : List Request) : Widened deltas rs := by
  have hapart : ∀ i, (∀ r ∈ rs, ¬ (r.lo < i ∧ i ≤ r.hi)) → ∀ early, early <+: rs →
      (widenAll deltas early)[i]? = deltas[i]? :=
    fun i hi early hearly => widenAll_getElem?_of_apart fun r hr => hi r (hearly.subset hr)
  constructor
  case grows =>
    rintro early late ⟨more, rfl⟩ -
    rw [widenAll_append]
    exact widenAll_grows _ more
  case first =>
    intro early hearly
    rw [List.head?_eq_getElem?, List.head?_eq_getElem?]
    exact hapart 0 (fun r _ hin => Nat.not_lt_zero _ hin.1) early hearly
  case apart => exact hapart
  case idle =>
    intro early r _ hrange
    rw [widenAll_append]
    refine (widen_eq_self_iff _ r).mpr fun hlo hhi => ?_
    rw [length_widenAll] at hhi
    omega
  case met => exact fun r hr hlo hhi => widenAll_meets hr hlo hhi
  case again => exact fun more hmore => widenAll_again deltas hmore

/-- A delta that is wide enough is left alone, and a width that the deltas add up to is not asked of
    each of them. -/
example : [(⟨0, 3, 300⟩ : Request), ⟨3, 1, 50⟩, ⟨0, 3, 300⟩, ⟨1, 2, 50⟩, ⟨2, 4, 500⟩].scanl
      (fun deltas r => widen deltas r.lo r.hi r.width) [0, 30, 200, 30] =
    [0, 30, 200, 30] :: List.replicate 5 [0, 100, 200, 100] := by
  decide +kernel

end SequenceDiagram.Layout
