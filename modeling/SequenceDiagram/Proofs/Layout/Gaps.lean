/-
  SequenceDiagram.Proofs.Layout.Gaps — what requests for room do to the deltas.

  A request raises deltas between its two lifelines to its even share, or does nothing
  (`widen_cases`). So no delta shrinks, those not between stay, a delta that changes
  becomes the share, and afterwards the deltas between add up to the width
  (`widen_meets`). Because deltas only grow, a run of requests leaves every one of them
  met, whatever came later and however they overlap (`widenAll_meets`).

  The events of a diagram are such a run: every message asks for its width between its
  two lifelines, or beside its one.
-/

import Mathlib.Algebra.Order.BigOperators.Group.List
import Mathlib.Data.List.Forall2
import SequenceDiagram.Proofs.Layout.Fitting
import SequenceDiagram.Proofs.Numeric.Exact

namespace SequenceDiagram.Layout

/-! ## One request -/

section

variable {deltas wider : List ℚ} {lo hi : Nat} {width : ℚ}

theorem length_between (h : hi < deltas.length) : (between deltas lo hi).length = hi - lo := by
  unfold between
  rw [List.length_take, List.length_drop]
  omega

theorem sum_between_le (h : List.Forall₂ (· ≤ ·) deltas wider) (lo hi : Nat) :
    (between deltas lo hi).sum ≤ (between wider lo hi).sum :=
  (List.forall₂_take _ (List.forall₂_drop _ h)).sum_le_sum

theorem between_self (deltas : List ℚ) (lo : Nat) : between deltas lo lo = [] := by
  unfold between
  rw [Nat.sub_self, List.take_zero]

theorem between_succ (deltas : List ℚ) (h : lo ≤ hi) :
    between deltas lo (hi + 1) = between deltas lo hi ++ deltas[hi + 1]?.toList := by
  have hcount : hi + 1 - lo = hi - lo + 1 := by omega
  have hlast : lo + 1 + (hi - lo) = hi + 1 := by omega
  unfold between
  rw [hcount, List.take_add_one, List.getElem?_drop, hlast]

theorem le_raise (share delta : ℚ) : delta ≤ raise share delta := by
  unfold raise
  split
  · rename_i h
    exact h.le
  · exact le_rfl

theorem share_le_raise (share delta : ℚ) : share ≤ raise share delta := by
  unfold raise
  split
  · exact le_rfl
  · rename_i h
    exact not_lt.mp h

/-- Every delta between two lifelines raised to a share. -/
def raiseBetween (deltas : List ℚ) (lo hi : Nat) (share : ℚ) : List ℚ :=
  deltas.mapIdx fun i delta => if lo < i ∧ i ≤ hi then raise share delta else delta

/-- A request that is met, or not between two lifelines, changes nothing. -/
theorem widen_cases (deltas : List ℚ) (lo hi : Nat) (width : ℚ) :
    widen deltas lo hi width = deltas ∧ (lo < hi → hi < deltas.length → width ≤ (between deltas lo hi).sum) ∨
      lo < hi ∧ hi < deltas.length ∧
        widen deltas lo hi width = raiseBetween deltas lo hi (width / (hi - lo : Nat)) := by
  unfold widen
  by_cases hrange : hi ≤ lo ∨ deltas.length ≤ hi
  · rw [if_pos hrange]
    exact .inl ⟨rfl, by omega⟩
  · rw [if_neg hrange, Scalar.sum_exact]
    by_cases hmet : width ≤ (between deltas lo hi).sum
    · rw [if_pos hmet]
      exact .inl ⟨rfl, fun _ _ => hmet⟩
    · rw [if_neg hmet]
      exact .inr ⟨by omega, by omega, rfl⟩

theorem raiseBetween_getElem? (deltas : List ℚ) (lo hi : Nat) (share : ℚ) (i : Nat) :
    (raiseBetween deltas lo hi share)[i]? =
      deltas[i]?.map fun delta => if lo < i ∧ i ≤ hi then raise share delta else delta :=
  List.getElem?_mapIdx

theorem raiseBetween_grows (deltas : List ℚ) (lo hi : Nat) (share : ℚ) :
    List.Forall₂ (· ≤ ·) deltas (raiseBetween deltas lo hi share) := by
  refine List.forall₂_iff_get.mpr ⟨List.length_mapIdx.symm, fun i hi' _ => ?_⟩
  simp only [List.get_eq_getElem, raiseBetween, List.getElem_mapIdx]
  split
  · exact le_raise _ _
  · exact le_rfl

theorem share_le_of_mem_between {share x : ℚ} (h : x ∈ between (raiseBetween deltas lo hi share) lo hi) :
    share ≤ x := by
  obtain ⟨k, hk⟩ := List.getElem?_of_mem h
  unfold between at hk
  rw [List.getElem?_take] at hk
  split at hk
  · rename_i hlt
    rw [List.getElem?_drop, raiseBetween_getElem?] at hk
    obtain ⟨delta, -, rfl⟩ := Option.map_eq_some_iff.mp hk
    rw [if_pos (by omega)]
    exact share_le_raise _ _
  · cases hk

theorem widen_grows (deltas : List ℚ) (lo hi : Nat) (width : ℚ) :
    List.Forall₂ (· ≤ ·) deltas (widen deltas lo hi width) := by
  rcases widen_cases deltas lo hi width with ⟨h, -⟩ | ⟨-, -, h⟩
  · rw [h]
    exact List.forall₂_refl _
  · rw [h]
    exact raiseBetween_grows ..

/-- After a request the deltas between its lifelines add up to its width. -/
theorem widen_meets (hlo : lo < hi) (hhi : hi < deltas.length) :
    width ≤ (between (widen deltas lo hi width) lo hi).sum := by
  rcases widen_cases deltas lo hi width with ⟨h, hmet⟩ | ⟨-, -, h⟩
  · rw [h]
    exact hmet hlo hhi
  · have hlength : hi < (raiseBetween deltas lo hi (width / (hi - lo : Nat))).length := by
      rwa [← (raiseBetween_grows ..).length_eq]
    have hshares := List.card_nsmul_le_sum (between (raiseBetween deltas lo hi (width / (hi - lo : Nat))) lo hi)
      (width / (hi - lo : Nat)) fun x hx => share_le_of_mem_between hx
    have hne : ((hi - lo : Nat) : ℚ) ≠ 0 := Nat.cast_ne_zero.mpr (by omega)
    rw [length_between hlength, nsmul_eq_mul, mul_div_cancel₀ _ hne] at hshares
    rwa [h]

/-- A delta stays as it was, or lies between the lifelines and becomes the share. -/
theorem widen_given {i : Nat} {delta : ℚ} (h : (widen deltas lo hi width)[i]? = some delta) :
    deltas[i]? = some delta ∨ lo < i ∧ i ≤ hi ∧ delta = width / (hi - lo : Nat) := by
  rcases widen_cases deltas lo hi width with ⟨hsame, -⟩ | ⟨-, -, hraised⟩
  · exact .inl (hsame ▸ h)
  · rw [hraised, raiseBetween_getElem?] at h
    obtain ⟨old, hold, hdelta⟩ := Option.map_eq_some_iff.mp h
    by_cases hin : lo < i ∧ i ≤ hi
    · rw [if_pos hin] at hdelta
      unfold raise at hdelta
      split at hdelta
      · exact .inr ⟨hin.1, hin.2, hdelta.symm⟩
      · exact .inl (hdelta ▸ hold)
    · rw [if_neg hin] at hdelta
      exact .inl (hdelta ▸ hold)

end

/-! ## A run of requests -/

/-- A width asked for between two lifelines. -/
structure Request where
  lo : Nat
  hi : Nat
  width : ℚ

/-- Each delta's even part of the width. -/
def Request.share (r : Request) : ℚ := r.width / (r.hi - r.lo : Nat)

def widenAll (deltas : List ℚ) (rs : List Request) : List ℚ :=
  rs.foldl (fun deltas r => widen deltas r.lo r.hi r.width) deltas

variable {deltas : List ℚ} {rs : List Request}

theorem grows_trans {as bs cs : List ℚ} (h : List.Forall₂ (· ≤ ·) as bs) (h' : List.Forall₂ (· ≤ ·) bs cs) :
    List.Forall₂ (· ≤ ·) as cs := by
  induction h generalizing cs with
  | nil => exact h'
  | cons hab _ ih =>
    cases h' with
    | cons hbc hrest => exact .cons (hab.trans hbc) (ih hrest)

theorem widenAll_grows (deltas : List ℚ) (rs : List Request) :
    List.Forall₂ (· ≤ ·) deltas (widenAll deltas rs) := by
  induction rs generalizing deltas with
  | nil => exact List.forall₂_refl _
  | cons r rs ih => exact grows_trans (widen_grows deltas r.lo r.hi r.width) (ih _)

theorem length_widenAll (deltas : List ℚ) (rs : List Request) : (widenAll deltas rs).length = deltas.length :=
  (widenAll_grows deltas rs).length_eq.symm

/-- Every request of a run is met at its end. -/
theorem widenAll_meets {r : Request} (hr : r ∈ rs) (hlo : r.lo < r.hi) (hhi : r.hi < deltas.length) :
    r.width ≤ (between (widenAll deltas rs) r.lo r.hi).sum := by
  induction rs generalizing deltas with
  | nil => cases hr
  | cons first rs ih =>
    rcases List.mem_cons.mp hr with rfl | hr
    · exact (widen_meets hlo hhi).trans (sum_between_le (widenAll_grows _ rs) _ _)
    · exact ih hr (by rwa [length_widen])

/-- A delta stays as it was at the start, or is the share of a request it lies between. -/
theorem widenAll_given {i : Nat} {delta : ℚ} (h : (widenAll deltas rs)[i]? = some delta) :
    deltas[i]? = some delta ∨ ∃ r ∈ rs, r.lo < i ∧ i ≤ r.hi ∧ delta = r.share := by
  induction rs generalizing deltas with
  | nil => exact .inl h
  | cons first rs ih =>
    rcases ih h with hstep | ⟨r, hr, hshare⟩
    · rcases widen_given hstep with hold | hshare
      · exact .inl hold
      · exact .inr ⟨first, List.mem_cons_self, hshare⟩
    · exact .inr ⟨r, List.mem_cons_of_mem _ hr, hshare⟩

/-! ## The requests of a diagram -/

/-- The lifelines a message stands between: its two, or its one and the next. -/
inductive Spans (actors : Nat) : Action → Nat → Nat → Prop
  | between (arrow : Arrow) {source destination : Nat} (text : String) (activation : Option Nat) :
      source ≠ destination →
      Spans actors (.message arrow source destination text activation) (min source destination) (max source destination)
  | beside (arrow : Arrow) {actor : Nat} (text : String) (activation : Option Nat) :
      actor + 1 < actors → Spans actors (.message arrow actor actor text activation) actor (actor + 1)

theorem gap?_eq_some_iff {actors lo hi : Nat} {a : Action} :
    gap? actors a = some (lo, hi) ↔ Spans actors a lo hi := by
  constructor
  · intro h
    cases a with
    | message arrow source destination text activation =>
      simp only [gap?] at h
      by_cases hself : source = destination
      · subst hself
        by_cases hnext : source + 1 < actors
        · simp only [if_true, if_pos hnext, Option.some.injEq, Prod.mk.injEq] at h
          obtain ⟨rfl, rfl⟩ := h
          exact .beside arrow text activation hnext
        · simp [hnext] at h
      · simp only [if_neg hself, Option.some.injEq, Prod.mk.injEq] at h
        obtain ⟨rfl, rfl⟩ := h
        exact .between arrow text activation hself
    | note side actors text => cases h
    | blockStart kind text => cases h
    | blockEnd => cases h
  · intro h
    cases h with
    | between arrow text activation hne => simp [gap?, hne]
    | beside arrow text activation hnext => simp [gap?, hnext]

/-- What the messages ask for, in document order. -/
def requests (style : Style ℚ) (m : TextMetrics ℚ) (actors : Nat) (es : List Event) : List Request :=
  es.filterMap fun e => (gap? actors e.action).map fun (lo, hi) => ⟨lo, hi, (eventSize style m e.action).width⟩

variable {style : Style ℚ} {m : TextMetrics ℚ} {actors : Nat} {es : List Event}

theorem mem_requests {r : Request} : r ∈ requests style m actors es ↔
    ∃ e ∈ es, Spans actors e.action r.lo r.hi ∧ r.width = (eventSize style m e.action).width := by
  obtain ⟨lo, hi, width⟩ := r
  unfold requests
  rw [List.mem_filterMap]
  refine exists_congr fun e => and_congr_right fun _ => ?_
  rw [Option.map_eq_some_iff]
  constructor
  · rintro ⟨⟨lo', hi'⟩, hgap, heq⟩
    cases heq
    exact ⟨gap?_eq_some_iff.mp hgap, rfl⟩
  · rintro ⟨hspans, rfl⟩
    exact ⟨(lo, hi), gap?_eq_some_iff.mpr hspans, rfl⟩

theorem foldl_widenFor (deltas : List ℚ) (es : List Event) :
    es.foldl (widenFor style m) deltas = widenAll deltas (requests style m deltas.length es) := by
  induction es generalizing deltas with
  | nil => rfl
  | cons e es ih =>
    rw [List.foldl_cons, ih]
    unfold widenFor requests
    cases h : gap? deltas.length e.action with
    | none => rw [List.filterMap_cons_none (by rw [h]; rfl)]
    | some range =>
      obtain ⟨lo, hi⟩ := range
      rw [List.filterMap_cons_some (by rw [h]; rfl), length_widen]
      rfl

end SequenceDiagram.Layout
